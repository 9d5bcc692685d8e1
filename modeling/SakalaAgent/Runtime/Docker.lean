/-
Module: SakalaAgent.Runtime.Docker
Layer: Runtime
Purpose: The Docker daemon as far as the agent uses it: the containers and image tags of the node,
  what `docker ps` prints, which container a reference names, and what a command can do.
Trusted boundary: this is what Docker documents; ids and states are Docker's own words and hold none
  of the characters that separate the columns and lines of a listing.
Main exports: Container, DockerState, DockerCommand, DockerState.resolve, DockerState.Effect,
  DockerState.psLines
-/
import SakalaAgent.Text.Chars
import Mathlib.Data.List.Nodup

namespace SakalaAgent

/-- A text without the characters that end a column or a line. -/
def Plain (text : Text) : Prop :=
  '\t' ∉ text ∧ '\n' ∉ text ∧ '\r' ∉ text

instance (text : Text) : Decidable (Plain text) :=
  inferInstanceAs (Decidable (_ ∧ _ ∧ _))

/-! ### Containers -/

/-- A container: its full id, its name, its state as `docker ps` prints it, and its labels. -/
structure Container where
  id : Text
  name : Text
  status : Text
  labels : List (Text × Text)
  plainId : Plain id
  plainStatus : Plain status
deriving DecidableEq

/-- A state as it is printed says that the container is up. -/
def isUpStatus (status : Text) : Bool :=
  Text.startsWith (Text.lowerAscii status) "up".toList

/-- A state as it is printed says that the container runs, or is started again and again. -/
def isListedStatus (status : Text) : Bool :=
  isUpStatus status || Text.startsWith status "Restarting".toList

namespace Container

/-- The value of a label, empty if there is none. -/
def label (container : Container) (key : Text) : Text :=
  (container.labels.lookup key).getD []

def isUp (container : Container) : Bool :=
  isUpStatus container.status

/-- What `docker ps` lists without `--all`. -/
def isListed (container : Container) : Bool :=
  isListedStatus container.status

/-- The id as it is printed. -/
def shortId (container : Container) : Text :=
  container.id.take 12

end Container

/-- The containers and image tags of a node. -/
structure DockerState where
  containers : List Container
  tags : List Text
  distinctIds : (containers.map Container.id).Nodup
  distinctNames : (containers.map Container.name).Nodup

namespace DockerState

/-- The container a reference names: by its name, by its id, or by a beginning of its id. -/
def resolve (docker : DockerState) (reference : Text) : Option Container :=
  (docker.containers.find? fun container => container.name = reference) <|>
    (docker.containers.find? fun container => container.id = reference) <|>
    (docker.containers.find? fun container =>
      !reference.isEmpty && Text.startsWith container.id reference)

/-! ### Changes -/

/-- A container with an id and a name that are not in use. -/
def add (docker : DockerState) (container : Container)
    (freshId : container.id ∉ docker.containers.map Container.id)
    (freshName : container.name ∉ docker.containers.map Container.name) : DockerState where
  containers := container :: docker.containers
  tags := docker.tags
  distinctIds := List.nodup_cons.mpr ⟨freshId, docker.distinctIds⟩
  distinctNames := List.nodup_cons.mpr ⟨freshName, docker.distinctNames⟩

/-- The containers a condition leaves. -/
def keep (docker : DockerState) (kept : Container → Bool) : DockerState where
  containers := docker.containers.filter kept
  tags := docker.tags
  distinctIds := docker.distinctIds.sublist (List.filter_sublist.map _)
  distinctNames := docker.distinctNames.sublist (List.filter_sublist.map _)

/-- The container with the given id is gone. -/
def remove (docker : DockerState) (id : Text) : DockerState :=
  docker.keep fun container => container.id ≠ id

/-- The container with the given id is in another state. -/
def setStatus (docker : DockerState) (id status : Text) (plain : Plain status) : DockerState where
  containers := docker.containers.map fun container =>
    if container.id = id then { container with status, plainStatus := plain } else container
  tags := docker.tags
  distinctIds := by
    rw [List.map_map]
    convert docker.distinctIds using 2
    funext container
    simp only [Function.comp_apply]
    split <;> rfl
  distinctNames := by
    rw [List.map_map]
    convert docker.distinctNames using 2
    funext container
    simp only [Function.comp_apply]
    split <;> rfl

def withTags (docker : DockerState) (tags : List Text) : DockerState :=
  { docker with tags }

end DockerState

/-! ### Commands -/

/-- A label a listing is restricted to. -/
abbrev LabelFilter : Type := Text × Text

/-- A column of `docker ps --format`. -/
inductive PsColumn where
  | id
  | status
  | label (key : Text)
deriving DecidableEq

/-- The arguments of `docker run`. -/
structure RunOptions where
  name : Text
  network : Text
  memoryMb : UInt64
  cpus : Text
  pidsLimit : UInt32
  labels : List (Text × Text)
  envFile : Bool
  image : Text
deriving DecidableEq

/-- The Docker commands of the agent. -/
inductive DockerCommand where
  | ps (all quiet : Bool) (filters : List LabelFilter) (columns : List PsColumn)
  | run (options : RunOptions)
  | start (reference : Text)
  | restart (graceSeconds : Nat) (reference : Text)
  | stop (graceSeconds : Nat) (reference : Text)
  | rm (isForced : Bool) (reference : Text)
  | logs (follow : Bool) (tail : Nat) (reference : Text)
  | inspect (format : String) (reference : Text)
  | buildx (buildArguments : List Text) (file source tag : Text) (labels : List (Text × Text))
  | imageRemove (reference : Text)
  | imagePrune (filters : List LabelFilter) (untilSeconds : Nat)
  | exec (container : Text) (arguments : List String)
deriving DecidableEq

/-! ### Listings -/

def PsColumn.print (container : Container) : PsColumn → Text
  | .id => container.shortId
  | .status => container.status
  | .label key => container.label key

/-- The columns of one container, with tabs between them. -/
def psRow (columns : List PsColumn) (container : Container) : Text :=
  List.intercalate ['\t'] (columns.map (PsColumn.print container))

namespace DockerState

/-- The containers a listing shows. -/
def listed (docker : DockerState) (all : Bool) (filters : List LabelFilter) : List Container :=
  docker.containers.filter fun container =>
    (all || container.isListed) &&
      filters.all fun entry => container.labels.lookup entry.1 = some entry.2

/-- What `docker ps` prints: a row for each container, each ended by a line feed. -/
def psOutput (docker : DockerState) (all quiet : Bool) (filters : List LabelFilter)
    (columns : List PsColumn) : Text :=
  (docker.listed all filters).flatMap fun container =>
    psRow (if quiet then [.id] else columns) container ++ ['\n']

/-- The lines of a listing. -/
def psLines (docker : DockerState) (all quiet : Bool) (filters : List LabelFilter)
    (columns : List PsColumn) : List Text :=
  Text.lines (docker.psOutput all quiet filters columns)

/-! ### Effects -/

/-- What a command can do when it does something. -/
inductive Effect (docker : DockerState) : DockerCommand → DockerState → Prop where
  | run (options : RunOptions) (container : Container) (freshId freshName)
      (named : container.name = options.name) (labelled : container.labels = options.labels) :
      Effect docker (.run options) (docker.add container freshId freshName)
  | start (reference : Text) (container : Container) (status : Text) (plain : Plain status)
      (found : docker.resolve reference = some container) :
      Effect docker (.start reference) (docker.setStatus container.id status plain)
  | restart (graceSeconds : Nat) (reference : Text) (container : Container) (status : Text)
      (plain : Plain status) (found : docker.resolve reference = some container) :
      Effect docker (.restart graceSeconds reference) (docker.setStatus container.id status plain)
  | stop (graceSeconds : Nat) (reference : Text) (container : Container) (status : Text)
      (plain : Plain status) (found : docker.resolve reference = some container)
      (ended : isListedStatus status = false) :
      Effect docker (.stop graceSeconds reference) (docker.setStatus container.id status plain)
  | rm (isForced : Bool) (reference : Text) (container : Container)
      (found : docker.resolve reference = some container)
      (removable : isForced ∨ ¬container.isListed) :
      Effect docker (.rm isForced reference) (docker.remove container.id)
  | buildx (buildArguments : List Text) (file source tag : Text) (labels : List (Text × Text)) :
      Effect docker (.buildx buildArguments file source tag labels)
        (docker.withTags (tag :: docker.tags))
  | imageRemove (reference : Text) (present : reference ∈ docker.tags) :
      Effect docker (.imageRemove reference)
        (docker.withTags (docker.tags.filter fun tag => tag ≠ reference))
  | ps (all quiet : Bool) (filters : List LabelFilter) (columns : List PsColumn) :
      Effect docker (.ps all quiet filters columns) docker
  | logs (follow : Bool) (tail : Nat) (reference : Text) :
      Effect docker (.logs follow tail reference) docker
  | inspect (format : String) (reference : Text) :
      Effect docker (.inspect format reference) docker
  | imagePrune (filters : List LabelFilter) (untilSeconds : Nat) :
      Effect docker (.imagePrune filters untilSeconds) docker
  | exec (container : Text) (arguments : List String) :
      Effect docker (.exec container arguments) docker

/-- A command that succeeds has its effect; one that fails may have had it. -/
def Settles (docker : DockerState) (command : DockerCommand) (succeeded : Bool)
    (docker' : DockerState) : Prop :=
  docker.Effect command docker' ∨ (succeeded = false ∧ docker' = docker)

end DockerState

end SakalaAgent
