/-
Module: SakalaAgent.Proofs.PreviousContainers
Layer: Proofs
Purpose: Which containers the cleanup behind a deployment takes away, and what it leaves when a Docker
  command fails. The containers of the project are worked through in the order of their listing; the
  ones before the failing one are gone, except for the current one, and the ones behind are untouched.
Trusted boundary: `docker inspect` tells the name of the container its reference names, and nobody
  else changes the containers meanwhile.
Main exports: DockerState.retire, DockerState.Discernible, retiring, cleanupPrevious_exact
-/
import SakalaAgent.Proofs.CommittedDeployment
import SakalaAgent.Proofs.Stopping

namespace SakalaAgent

open Async

/-! ### States of the daemon -/

namespace DockerState

variable {docker docker' : DockerState} {container : Container} {current reference : Text}
  {projectId : Uuid}

theorem eq_of_parts (containers : docker.containers = docker'.containers)
    (tags : docker.tags = docker'.tags) : docker = docker' := by
  cases docker
  cases docker'
  cases containers
  cases tags
  rfl

def previousFilters (projectId : Uuid) : List LabelFilter :=
  [(projectIdLabel, projectId.toText), managedLabel]

/-- The managed containers of a project, in the order in which they are listed. -/
def previous (docker : DockerState) (projectId : Uuid) : List Container :=
  docker.listed true (previousFilters projectId)

/-- Some containers are gone, but not the current one. -/
def retire (docker : DockerState) (current : Text) (done : List Container) : DockerState :=
  docker.keep fun container => !(decide (container ∈ done) && decide (container.name ≠ current))

/-- What is left of the daemon where the cleanup ends at a container: it is as it was, or it is not the
current one, and only stopped or gone. -/
def Halted (docker : DockerState) (current : Text) (container : Container)
    (docker' : DockerState) : Prop :=
  docker' = docker ∨ container.name ≠ current ∧
    ((∃ status plain, isListedStatus status = false ∧
        docker' = docker.setStatus container.id status plain) ∨
      docker' = docker.remove container.id)

theorem mem_previous :
    container ∈ docker.previous projectId ↔ container ∈ docker.containers ∧
      container.labels.lookup projectIdLabel = some projectId.toText ∧
        container.labels.lookup managedLabel.1 = some managedLabel.2 := by
  simp [previous, listed, previousFilters]

/-- Behind a cleanup that comes to its end all managed containers of the project are gone but the
current one, and all others are as they were. -/
theorem mem_retire_previous :
    container ∈ (docker.retire current (docker.previous projectId)).containers ↔
      container ∈ docker.containers ∧
        (container ∈ docker.previous projectId → container.name = current) := by
  simp [retire, keep, List.mem_filter]
  tauto

/-- A listing that is not cut off is read as the ids it prints. -/
theorem listing_of_fits (solid : ∀ container ∈ docker.previous projectId,
      Text.isBlank container.shortId = false)
    (fits : Text.byteLength (docker.psOutput true true (previousFilters projectId) []) ≤
      maxCaptureBytes) :
    contentLines (captured (docker.psLines true true (previousFilters projectId) [])) =
      (docker.previous projectId).map Container.shortId := by
  have rows : docker.psOutput true true (previousFilters projectId) [] =
      ((docker.previous projectId).map Container.shortId).flatMap fun row => row ++ ['\n'] := by
    simp [psOutput, previous, psRow, PsColumn.print, List.intercalate, List.flatMap_map]
  have plain : ∀ row ∈ (docker.previous projectId).map Container.shortId, Plain row := by
    intro row member
    obtain ⟨container, _, rfl⟩ := List.mem_map.mp member
    have part : ∀ character, character ∉ container.id → character ∉ container.shortId :=
      fun character absent inside => absent (List.mem_of_mem_take inside)
    obtain ⟨tab, feed, carriage⟩ := container.plainId
    exact ⟨part _ tab, part _ feed, part _ carriage⟩
  have lines : docker.psLines true true (previousFilters projectId) [] =
      (docker.previous projectId).map Container.shortId := by
    rw [psLines, rows]
    exact Text.lines_flatMap (fun row member => (plain row member).2.1)
      fun row member => (plain row member).2.2
  rw [lines]
  rw [rows] at fits
  apply contentLines_captured (fun row member => (plain row member).2.1)
    (fun row member => (plain row member).2.2) _ fits
  intro row member
  obtain ⟨container, inside, rfl⟩ := List.mem_map.mp member
  exact solid container inside

theorem nodup_previous (docker : DockerState) (projectId : Uuid) :
    (docker.previous projectId).Nodup :=
  (List.Nodup.of_map _ docker.distinctIds).filter _

theorem retire_nil (docker : DockerState) (current : Text) : docker.retire current [] = docker := by
  apply eq_of_parts
  · simp [retire, keep]
  · rfl

theorem retire_current (isCurrent : container.name = current) (done : List Container) :
    docker.retire current (done ++ [container]) = docker.retire current done := by
  apply eq_of_parts
  · apply List.filter_congr
    intro other _
    by_cases same : other = container
    · simp [same, isCurrent]
    · simp [same]
  · rfl

theorem remove_retire (present : container ∈ docker.containers) (isOther : container.name ≠ current)
    (done : List Container) :
    (docker.retire current done).remove container.id = docker.retire current (done ++ [container]) := by
  apply eq_of_parts
  · simp only [remove, retire, keep, List.filter_filter]
    apply List.filter_congr
    intro other member
    by_cases same : other = container
    · simp [same, isOther]
    · have apart : other.id ≠ container.id := fun sameId => same (eq_of_id present member sameId)
      simp [same, apart]
  · rfl

theorem remove_setStatus {id status : Text} {plain : Plain status} :
    (docker.setStatus id status plain).remove id = docker.remove id := by
  apply eq_of_parts
  · simp only [remove, keep, setStatus]
    induction docker.containers with
    | nil => rfl
    | cons first rest ih =>
        rw [List.map_cons]
        by_cases same : first.id = id
        · rw [if_pos same, List.filter_cons_of_neg (by simp [same]),
            List.filter_cons_of_neg (by simp [same]), ih]
        · rw [if_neg same, List.filter_cons_of_pos (by simp [same]),
            List.filter_cons_of_pos (by simp [same]), ih]
  · rfl

theorem find?_filter {α : Type} {items : List α} {kept found : α → Bool} {item : α}
    (isFirst : items.find? found = some item) (isKept : kept item = true) :
    (items.filter kept).find? found = some item := by
  obtain ⟨isFound, before, after, rfl, none⟩ := List.find?_eq_some_iff_append.mp isFirst
  rw [List.filter_append, List.filter_cons_of_pos isKept, List.find?_append,
    List.find?_eq_none.mpr (by
      intro other member
      simpa using none other (List.mem_of_mem_filter member)), Option.none_or,
    List.find?_cons_of_pos isFound]

/-- A container that is kept is named as before. -/
theorem resolve_keep {kept : Container → Bool} (found : docker.resolve reference = some container)
    (isKept : kept container = true) : (docker.keep kept).resolve reference = some container := by
  have absent : ∀ {condition : Container → Bool}, docker.containers.find? condition = none →
      (docker.containers.filter kept).find? condition = none := by
    intro condition none
    apply List.find?_eq_none.mpr
    intro other member
    exact List.find?_eq_none.mp none other (List.mem_of_mem_filter member)
  unfold resolve at found ⊢
  rcases (Option.orElse_eq_some ..).mp found with named | ⟨unnamed, other⟩
  · exact (Option.orElse_eq_some ..).mpr (.inl (find?_filter named isKept))
  · apply (Option.orElse_eq_some ..).mpr
    right
    refine ⟨absent unnamed, ?_⟩
    rcases (Option.orElse_eq_some ..).mp other with same | ⟨unlike, starts⟩
    · exact (Option.orElse_eq_some ..).mpr (.inl (find?_filter same isKept))
    · exact (Option.orElse_eq_some ..).mpr (.inr ⟨absent unlike, find?_filter starts isKept⟩)

/-- What the cleanup reads of its listing are the containers of the project: the listing is not cut off,
an id that is printed names its own container, and a name is one that Docker allows and is not cut off
either. -/
structure Discernible (docker : DockerState) (projectId : Uuid) : Prop where
  listing : contentLines (captured (docker.psLines true true (previousFilters projectId) [])) =
    (docker.previous projectId).map Container.shortId
  own : ∀ container ∈ docker.previous projectId,
    docker.resolve container.shortId = some container
  characters : ∀ container ∈ docker.previous projectId,
    container.name ≠ [] ∧ ∀ character ∈ container.name, IsNameCharacter character
  fits : ∀ container ∈ docker.previous projectId, ∀ isRunning,
    Text.byteLength ([nameLine isRunning container.name].flatMap fun line => line ++ ['\n']) ≤
      maxCaptureBytes

end DockerState

/-! ### The surroundings of a cleanup -/

/-- The node of a cleanup, with containers nobody else changes. -/
def retiring (thread : ThreadId) : Semantics Runtime Node where
  step node op res node' := node.step thread op res node' ∧ node.InspectsTruly op res
  leave := Node.leave
  drift node node' := node'.docker = node.docker

/-- The process stops or removes nothing but a container of the project that is not the current one. -/
def CommandLine.Retires (docker : DockerState) (projectId : Uuid) (current : Text) :
    CommandLine → Prop
  | .docker (.stop _ reference) => ∃ container ∈ docker.previous projectId,
      container.name ≠ current ∧ reference = container.shortId
  | .docker (.rm _ reference) => ∃ container ∈ docker.previous projectId,
      container.name ≠ current ∧ reference = container.shortId
  | line => line.isQuiet = true

section Runs

variable {thread : ThreadId} {node node' : Node} {h : History Runtime} {allowed : CommandLine → Prop}
  {docker : DockerState} {projectId : Uuid} {current : Text} {container : Container}

theorem docker_of_drifts (drifts : Drifts (retiring thread) node node') :
    node'.docker = node.docker := by
  induction drifts with
  | refl node => rfl
  | head first _ ih => exact ih.trans first

/-- The containers are the given, and only allowed processes have been started. -/
def Standing (docker : DockerState) (allowed : CommandLine → Prop) (node : Node)
    (h : History Runtime) : Prop :=
  node.docker = docker ∧ Prog.Asked (Spawns allowed) h

theorem standing_preserved :
    Prog.Preserves (retiring thread) (Spawns fun _ => False) (Standing docker allowed) where
  done op spawns node h res node' standing step := by
    cases op with
    | log line =>
        obtain rfl : node' = node := step.1
        exact ⟨standing.1, Prog.asked_append.mpr
          ⟨standing.2, Prog.asked_done trivial Prog.asked_nil⟩⟩
    | _ => exact absurd spawns not_false
  abandoned op spawns node h outcome node' standing left := by
    cases op with
    | log line =>
        obtain ⟨_, rfl⟩ : outcome = none ∧ node' = node := left
        exact ⟨standing.1, Prog.asked_append.mpr
          ⟨standing.2, Prog.asked_abandoned trivial Prog.asked_nil⟩⟩
    | _ => exact absurd spawns not_false
  fired which op node h standing :=
    ⟨standing.1, Prog.asked_append.mpr ⟨standing.2, Prog.asked_fired Prog.asked_nil⟩⟩
  drift node h node' standing same := ⟨same.trans standing.1, standing.2⟩

/-- How a command was answered from containers, and what it has made of them. -/
structure Answered (docker : DockerState) (command : DockerCommand) (result : ProcessResult)
    (docker' : DockerState) : Prop where
  settles : docker.Settles command result.success docker'
  listed : ∀ all quiet filters columns, command = .ps all quiet filters columns →
    result.success = true → result.stdout = docker.psLines all quiet filters columns
  told : ∀ reference, command = .inspect nameFormat reference → result.success = true →
    ∃ container isRunning, docker.resolve reference = some container ∧
      result.stdout = [nameLine isRunning container.name]

theorem answered_of_step {command : DockerCommand} {result : ProcessResult}
    (step : (retiring thread).step node (.process (ContainerEngine.docker command)) result node') :
    Answered node.docker command result node'.docker := by
  obtain ⟨⟨truthful, settled⟩, told⟩ := step
  constructor
  · obtain ⟨files, docker', _, rfl, settles⟩ := settled
    exact settles
  · intro all quiet filters columns same
    subst same
    exact truthful
  · intro reference same
    subst same
    exact told reference rfl

/-- A Docker command that is run has been answered in the end. -/
theorem wp_dockerCommand (command : DockerCommand) (sink : OutputSink)
    (starts : allowed (.docker command)) (asked : Prog.Asked (Spawns allowed) h) :
    Prog.wp (retiring thread) (fun outcome node' h => Prog.Asked (Spawns allowed) h ∧
        ∃ result, outcome = processOutcome (ContainerEngine.docker command) result ∧
          Answered node.docker command result node'.docker)
      (fun _ _ => True) (runProcess (ContainerEngine.docker command) sink).run node h := by
  let Inv (result : ProcessResult) (node' : Node) (h : History Runtime) : Prop :=
    ∃ docker', Answered node.docker command result docker' ∧ Standing docker' allowed node' h
  have kept : ∀ result, Prog.Preserves (retiring thread) (Spawns fun _ => False) (Inv result) :=
    fun result => Prog.Preserves.exists_and fun docker' => standing_preserved
  have ran : ∀ before result after, Drifts (retiring thread) node before →
      (retiring thread).step before (.process (ContainerEngine.docker command)) result after →
      Inv result after (h ++ [.done (.process (ContainerEngine.docker command)) result]) := by
    intro before result after drifts step
    have answered := answered_of_step step
    rw [docker_of_drifts drifts] at answered
    exact ⟨after.docker, answered, rfl, Prog.asked_append.mpr
      ⟨asked, Prog.asked_done starts Prog.asked_nil⟩⟩
  apply Prog.wp_mono (wp_runProcess_keeps kept ran)
  · intro outcome node' h ended
    obtain ⟨result, same, docker', answered, rfl, asked⟩ := ended
    exact ⟨asked, result, same, answered⟩
  · exact fun _ _ _ => trivial

/-- A command that changes containers, if it is run as one that has to succeed. -/
theorem wp_changing (command : DockerCommand) (phase : String) (starts : allowed (.docker command))
    (asked : Prog.Asked (Spawns allowed) h) :
    Prog.wp (retiring thread) (fun outcome node' h => Prog.Asked (Spawns allowed) h ∧
        ∃ succeeded, node.docker.Settles command succeeded node'.docker ∧
          (outcome.isOk = true → succeeded = true))
      (fun _ _ => True) (runChecked (ContainerEngine.docker command) phase).run node h := by
  apply Fallible.wp_bind.mpr
  apply Prog.wp_mono (wp_dockerCommand command _ starts asked)
  case hD => exact fun _ _ _ => trivial
  intro outcome node' h ended
  obtain ⟨asked, result, same, answered⟩ := ended
  cases outcome with
  | error error => exact ⟨asked, result.success, answered.settles, nofun⟩
  | ok output =>
      obtain ⟨success, _⟩ := output_of_processOutcome same.symm
      dsimp only
      split
      · rename_i succeeded
        exact ⟨asked, result.success, answered.settles, fun _ => success.symm.trans succeeded⟩
      · exact ⟨asked, result.success, answered.settles, nofun⟩

/-! ### One container -/

theorem settles_quiet {command : DockerCommand} {succeeded : Bool} {docker' : DockerState}
    (quiet : (CommandLine.docker command).isQuiet = true)
    (settles : docker.Settles command succeeded docker') : docker' = docker := by
  rcases settles with effect | ⟨_, same⟩
  · cases effect with
    | ps | logs | inspect | imagePrune | exec => rfl
    | run | start | restart | stop | rm | buildx | imageRemove => cases quiet
  · exact same

/-- A container is as it was, or only stopped. -/
def Paused (docker : DockerState) (container : Container) (docker' : DockerState) : Prop :=
  docker' = docker ∨ ∃ status plain, isListedStatus status = false ∧
    docker' = docker.setStatus container.id status plain

theorem paused_of_stop {succeeded : Bool} {docker' : DockerState} {graceSeconds : Nat}
    {reference : Text} (resolved : docker.resolve reference = some container)
    (settles : docker.Settles (.stop graceSeconds reference) succeeded docker') :
    Paused docker container docker' := by
  rcases settles with effect | ⟨_, same⟩
  · cases effect with
    | stop _ _ stopped status plain found ended =>
        obtain rfl := Option.some.inj (found.symm.trans resolved)
        exact Or.inr ⟨status, plain, ended, rfl⟩
  · exact Or.inl same

/-- A removal takes away the container that is paused, or nothing. -/
theorem Paused.removed {succeeded : Bool} {docker' docker'' : DockerState} {reference : Text}
    (paused : Paused docker container docker') (resolved : docker.resolve reference = some container)
    (settles : docker'.Settles (.rm false reference) succeeded docker'') :
    docker'' = docker.remove container.id ∨ (succeeded = false ∧ docker'' = docker') := by
  rcases settles with effect | failed
  · left
    cases effect with
    | rm _ _ removed found removable =>
        rcases paused with rfl | ⟨status, plain, _, rfl⟩
        · obtain rfl := Option.some.inj (found.symm.trans resolved)
          rfl
        · obtain ⟨after, named, sameId, _⟩ := DockerState.resolve_setStatus resolved
          obtain rfl := Option.some.inj (found.symm.trans named)
          rw [sameId]
          exact DockerState.remove_setStatus
  · exact Or.inr failed

/-- A container that is not the current one is stopped if it runs, and removed. -/
theorem wp_stopAndRemove (isRunning : Bool) (asked : Prog.Asked (Spawns allowed) h)
    (resolved : node.docker.resolve container.shortId = some container)
    (isOther : container.name ≠ current)
    (stop : allowed (.docker (.stop 10 container.shortId)))
    (rm : allowed (.docker (.rm false container.shortId))) :
    Prog.wp (retiring thread) (fun outcome node' h => Prog.Asked (Spawns allowed) h ∧
        match outcome with
        | .ok _ => node'.docker = node.docker.remove container.id
        | .error _ => node.docker.Halted current container node'.docker)
      (fun _ _ => True)
      (do
        onlyIf isRunning do
          let _ ← runChecked (ContainerEngine.docker (.stop 10 container.shortId))
            "docker-stop-previous"
          return ()
        let _ ← runChecked (ContainerEngine.docker (.rm false container.shortId))
          "docker-remove-previous"
        return () : RuntimeM Unit).run node h := by
  have stopped : Prog.wp (retiring thread) (fun (_ : Except RuntimeError Unit) node' h =>
        Prog.Asked (Spawns allowed) h ∧ Paused node.docker container node'.docker) (fun _ _ => True)
      (onlyIf isRunning do
        let _ ← runChecked (ContainerEngine.docker (.stop 10 container.shortId))
          "docker-stop-previous"
        return ()).run node h := by
    cases isRunning with
    | false => exact ⟨asked, Or.inl rfl⟩
    | true =>
        apply Fallible.wp_bind.mpr
        apply Prog.wp_mono (wp_changing _ _ stop asked)
        case hD => exact fun _ _ _ => trivial
        intro outcome node' h ended
        obtain ⟨asked, succeeded, settles, _⟩ := ended
        have paused := paused_of_stop resolved settles
        cases outcome with
        | error error => exact ⟨asked, paused⟩
        | ok output => exact ⟨asked, paused⟩
  apply Fallible.wp_bind.mpr
  apply Prog.wp_mono stopped
  case hD => exact fun _ _ _ => trivial
  intro outcome between h ended
  obtain ⟨asked, paused⟩ := ended
  have halted : node.docker.Halted current container between.docker :=
    paused.imp_right fun stopped => ⟨isOther, Or.inl stopped⟩
  cases outcome with
  | error error => exact ⟨asked, halted⟩
  | ok _ =>
      apply Fallible.wp_bind.mpr
      apply Prog.wp_mono (wp_changing _ _ rm asked)
      case hD => exact fun _ _ _ => trivial
      intro outcome node' h ended
      obtain ⟨asked, succeeded, settles, answered⟩ := ended
      have removed := paused.removed resolved settles
      cases outcome with
      | error error =>
          refine ⟨asked, ?_⟩
          rcases removed with gone | ⟨_, same⟩
          · exact Or.inr ⟨isOther, Or.inr gone⟩
          · rw [same]
            exact halted
      | ok output =>
          refine ⟨asked, ?_⟩
          rcases removed with gone | ⟨failed, _⟩
          · exact gone
          · rw [answered rfl] at failed
            cases failed

/-- What is left behind one container of the listing. -/
def Handled (docker : DockerState) (current : Text) (container : Container)
    (outcome : Except RuntimeError Unit) (docker' : DockerState) : Prop :=
  match outcome with
  | .ok _ => docker' = if container.name = current then docker else docker.remove container.id
  | .error _ => docker.Halted current container docker'

/-- One container of the listing. -/
theorem wp_cleanupPreviousContainer (discernible : docker.Discernible projectId)
    (member : container ∈ docker.previous projectId)
    (resolved : node.docker.resolve container.shortId = some container)
    (asked : Prog.Asked (Spawns (CommandLine.Retires docker projectId current)) h) :
    Prog.wp (retiring thread) (fun outcome node' h =>
        Prog.Asked (Spawns (CommandLine.Retires docker projectId current)) h ∧
        Handled node.docker current container outcome node'.docker)
      (fun _ _ => True)
      (ContainerEngine.cleanupPreviousContainer current container.shortId).run node h := by
  apply Fallible.wp_bind.mpr
  apply Prog.wp_mono (wp_dockerCommand (.inspect nameFormat container.shortId) .null
    (show CommandLine.Retires _ _ _ _ from rfl) asked)
  case hD => exact fun _ _ _ => trivial
  intro outcome inspected h ended
  obtain ⟨asked, result, same, answered⟩ := ended
  have unchanged : inspected.docker = node.docker := settles_quiet rfl answered.settles
  cases outcome with
  | error error => exact ⟨asked, Or.inl unchanged⟩
  | ok output =>
      obtain ⟨success, stdout⟩ := output_of_processOutcome same.symm
      dsimp only
      by_cases succeeded : output.success = true
      case neg =>
        rw [if_pos (by simp [succeeded])]
        exact ⟨asked, Or.inl unchanged⟩
      rw [if_neg (by simp [succeeded])]
      have name : readName output.stdout = container.name := by
        obtain ⟨named, isRunning, found, printed⟩ :=
          answered.told _ rfl (success.symm.trans succeeded)
        obtain rfl := Option.some.inj (found.symm.trans resolved)
        obtain ⟨isSome, characters⟩ := discernible.characters named member
        rw [stdout, printed]
        exact readName_of_fits characters isSome (discernible.fits named member isRunning)
      change Prog.wp _ _ _ (ExceptT.run (if readName output.stdout = current then _ else _)) _ _
      rw [name]
      by_cases isCurrent : container.name = current
      · rw [if_pos isCurrent]
        exact ⟨asked, unchanged.trans (if_pos isCurrent).symm⟩
      rw [if_neg isCurrent]
      have own : ∃ other ∈ docker.previous projectId,
          other.name ≠ current ∧ container.shortId = other.shortId :=
        ⟨container, member, isCurrent, rfl⟩
      rw [← unchanged] at resolved
      apply Prog.wp_mono (wp_stopAndRemove _ asked resolved isCurrent own own)
      · intro outcome after h ended
        obtain ⟨asked, ended⟩ := ended
        rw [unchanged] at ended
        cases outcome with
        | ok _ => exact ⟨asked, ended.trans (if_neg isCurrent).symm⟩
        | error error => exact ⟨asked, ended⟩
      · exact fun _ _ _ => trivial

/-! ### All of them -/

/-- What is left where a cleanup ends: all containers of the project but the current one are gone; or
nothing has changed; or those before one of them are gone, those behind it are as they were, and it
is itself halted. -/
def Retired (docker : DockerState) (projectId : Uuid) (current : Text)
    (outcome : Except RuntimeError Unit) (docker' : DockerState) : Prop :=
  match outcome with
  | .ok _ => docker' = docker.retire current (docker.previous projectId)
  | .error _ => docker' = docker ∨ ∃ done container rest,
      docker.previous projectId = done ++ container :: rest ∧
        (docker.retire current done).Halted current container docker'

/-- The containers that are left of the listing, behind those that are done. -/
theorem wp_cleanupRest (discernible : docker.Discernible projectId) (done rest : List Container)
    (split : docker.previous projectId = done ++ rest)
    (standing : node.docker = docker.retire current done)
    (asked : Prog.Asked (Spawns (CommandLine.Retires docker projectId current)) h) :
    Prog.wp (retiring thread) (fun outcome node' h =>
        Prog.Asked (Spawns (CommandLine.Retires docker projectId current)) h ∧
        Retired docker projectId current outcome node'.docker)
      (fun _ _ => True)
      (forM (rest.map Container.shortId)
        (ContainerEngine.cleanupPreviousContainer current) : RuntimeM Unit).run node h := by
  induction rest generalizing done node h with
  | nil =>
      rw [List.append_nil] at split
      refine ⟨asked, ?_⟩
      change node.docker = _
      rw [standing, split]
  | cons container rest ih =>
      have member : container ∈ docker.previous projectId := by simp [split]
      have present : container ∈ docker.containers := (DockerState.mem_previous.mp member).1
      have fresh : container ∉ done := by
        have distinct := docker.nodup_previous projectId
        rw [split, List.nodup_append] at distinct
        exact fun old => distinct.2.2 container old container List.mem_cons_self rfl
      have resolved : node.docker.resolve container.shortId = some container := by
        rw [standing]
        exact DockerState.resolve_keep (discernible.own container member) (by simp [fresh])
      apply Fallible.wp_bind.mpr
      apply Prog.wp_mono (wp_cleanupPreviousContainer discernible member resolved asked)
      case hD => exact fun _ _ _ => trivial
      intro outcome after h ended
      obtain ⟨asked, ended⟩ := ended
      cases outcome with
      | error error =>
          rw [standing] at ended
          exact ⟨asked, Or.inr ⟨done, container, rest, split, ended⟩⟩
      | ok _ =>
          have further : after.docker = docker.retire current (done ++ [container]) := by
            refine Eq.trans ended ?_
            split
            · rename_i isCurrent
              rw [standing, DockerState.retire_current isCurrent]
            · rename_i isOther
              rw [standing, DockerState.remove_retire present isOther]
          have split : docker.previous projectId = (done ++ [container]) ++ rest := by
            rw [split, List.append_assoc, List.singleton_append]
          exact ih (done ++ [container]) split further asked

theorem wp_cleanupPrevious (discernible : node.docker.Discernible projectId) :
    Prog.wp (retiring thread) (fun outcome node' h =>
        Prog.Asked (Spawns (CommandLine.Retires node.docker projectId current)) h ∧
        Retired node.docker projectId current outcome node'.docker)
      (fun _ _ => True)
      (ContainerEngine.cleanupPrevious projectId current).run node [] := by
  apply Fallible.wp_bind.mpr
  apply Prog.wp_mono (wp_dockerCommand
    (.ps true true (DockerState.previousFilters projectId) []) .null
    (show CommandLine.Retires _ _ _ _ from rfl) Prog.asked_nil)
  case hD => exact fun _ _ _ => trivial
  intro outcome listed h ended
  obtain ⟨asked, result, same, answered⟩ := ended
  have unchanged : listed.docker = node.docker := settles_quiet rfl answered.settles
  cases outcome with
  | error error => exact ⟨asked, Or.inl unchanged⟩
  | ok output =>
      obtain ⟨success, stdout⟩ := output_of_processOutcome same.symm
      dsimp only
      by_cases succeeded : output.success = true
      case neg =>
        rw [if_pos (by simp [succeeded])]
        exact ⟨asked, Or.inl unchanged⟩
      rw [if_neg (by simp [succeeded])]
      have printed := answered.listed _ _ _ _ rfl (success.symm.trans succeeded)
      rw [stdout, printed, discernible.listing]
      apply wp_cleanupRest discernible [] _ rfl _ asked
      rw [unchanged, DockerState.retire_nil]

end Runs

/-- The cleanup takes away the containers of the project that are not the current one, no others, and in
the order in which they are listed. -/
theorem cleanupPrevious_exact (thread : ThreadId) (projectId : Uuid) (current : Text)
    (node node' : Node) (h : History Runtime) (outcome : Except RuntimeError Unit)
    (discernible : node.docker.Discernible projectId)
    (run : Exec (retiring thread) (ContainerEngine.cleanupPrevious projectId current).run node []
      outcome node' h) :
    Prog.Asked (Spawns (CommandLine.Retires node.docker projectId current)) h ∧
      Retired node.docker projectId current outcome node'.docker :=
  Prog.wp_sound _ run (wp_cleanupPrevious discernible)

/-! ### Names that are ids -/

namespace Namesake

/-- A container of the project that runs no more. -/
def old : Container where
  id := List.replicate 64 'a'
  name := "sakala-app-old".toList
  status := "Exited (0) 2 hours ago".toList
  labels := [managedLabel, (projectIdLabel, (Sample.uuid 1).toText)]
  plainId := by decide
  plainStatus := by decide

/-- A container of somebody else. -/
def foreign (name : Text) : Container where
  id := List.replicate 64 'b'
  name := name
  status := "Exited (0) 2 hours ago".toList
  labels := []
  plainId := by decide
  plainStatus := by decide

/-- A daemon with the two containers. -/
def docker (name : Text) (fresh : name ≠ old.name) : DockerState where
  containers := [foreign name, old]
  tags := []
  distinctIds := by
    show [List.replicate 64 'b', List.replicate 64 'a'].Nodup
    decide
  distinctNames := by simpa [foreign] using fresh

/-- With a name of its own. -/
def apart : DockerState :=
  docker "postgres".toList (by decide)

/-- With the id of the other, as it is printed, for a name. -/
def confused : DockerState :=
  docker (List.replicate 12 'a') (by decide)

def node (docker : DockerState) : Node :=
  { Sample.node with docker }

/-- What is inspected is there. -/
def isInspectable (node : Node) : RuntimeOp → Bool
  | .process spec =>
      match spec.line with
      | .docker (.inspect _ reference) => (node.docker.resolve reference).isSome
      | _ => true
  | _ => true

theorem sound_retiring :
    ((Sample.script.script 0).guarded isInspectable).Sound (retiring 0) where
  answer := by
    intro h node op res node' answered
    have guarded := ((Sample.script.sound 0).guarded isInspectable).answer answered
    refine ⟨guarded.1, ?_⟩
    cases op with
    | process spec =>
        intro reference line succeeded
        have there := guarded.2
        have played : Sample.script.answer 0 h node (.process spec) = some (res, node') := by
          simp only [Script.guarded, there, if_true] at answered
          exact answered
        simp only [isInspectable, line] at there
        obtain ⟨container, found⟩ := Option.isSome_iff_exists.mp there
        exact ⟨container, container.isUp, found,
          Sample.stdout_of_inspect played line found succeeded⟩
    | _ => trivial
  leave := (Sample.script.sound 0).leave

theorem discernible : apart.Discernible (Sample.uuid 1) where
  listing := by
    apply DockerState.listing_of_fits
    · decide +kernel
    · decide +kernel
  own := by decide +kernel
  characters := by decide +kernel
  fits := by decide +kernel

end Namesake

/-- The container of the project is taken away, and the other one is left. -/
theorem cleanupPrevious_exact_apart : Namesake.apart.Discernible (Sample.uuid 1) ∧
    ∃ node' h, Exec (retiring 0)
        (ContainerEngine.cleanupPrevious (Sample.uuid 1) "sakala-app-new".toList).run
        (Namesake.node Namesake.apart) [] (.ok ()) node' h ∧
      node'.docker = Namesake.apart.retire "sakala-app-new".toList
        (Namesake.apart.previous (Sample.uuid 1)) := by
  have finished : ∃ ended, Prog.play
      ((Sample.script.script 0).guarded Namesake.isInspectable)
      (ContainerEngine.cleanupPrevious (Sample.uuid 1) "sakala-app-new".toList).run
      (Namesake.node Namesake.apart) [] = some ended ∧ ended.1.isOk = true := by
    apply (Option.any_eq_true ..).mp
    decide +kernel
  obtain ⟨⟨outcome, node', h⟩, played, isOk⟩ := finished
  have run := Prog.play_sound Namesake.sound_retiring played
  cases outcome with
  | error error => cases isOk
  | ok _ =>
      have exact := cleanupPrevious_exact 0 (Sample.uuid 1) "sakala-app-new".toList
        (Namesake.node Namesake.apart) node' h (.ok ()) Namesake.discernible run
      exact ⟨Namesake.discernible, node', h, run, exact.2⟩

/-- A container of somebody else, whose name is the id of a container of the project, is taken away in
its place. -/
theorem cleanupPrevious_inexact :
    ¬ ∀ (thread : ThreadId) (projectId : Uuid) (current : Text) (node node' : Node)
      (h : History Runtime) (outcome : Except RuntimeError Unit),
      (∀ container ∈ node.docker.containers, IsName container.name) →
      Exec (retiring thread) (ContainerEngine.cleanupPrevious projectId current).run node []
        outcome node' h →
      Prog.Asked (Spawns (CommandLine.Retires node.docker projectId current)) h ∧
        Retired node.docker projectId current outcome node'.docker := by
  intro all
  have finished : ∃ ended, Prog.play
      ((Sample.script.script 0).guarded Namesake.isInspectable)
      (ContainerEngine.cleanupPrevious (Sample.uuid 1) "sakala-app-new".toList).run
      (Namesake.node Namesake.confused) [] = some ended ∧
      (ended.1.isOk && decide (Namesake.foreign (List.replicate 12 'a') ∉
        ended.2.1.docker.containers)) = true := by
    apply (Option.any_eq_true ..).mp
    decide +kernel
  obtain ⟨⟨outcome, node', h⟩, played, ended⟩ := finished
  obtain ⟨isOk, gone⟩ := Bool.and_eq_true_iff.mp ended
  have run := Prog.play_sound Namesake.sound_retiring played
  have names : ∀ container ∈ (Namesake.node Namesake.confused).docker.containers,
      IsName container.name := by
    intro container member
    have listed : container = Namesake.foreign (List.replicate 12 'a') ∨
        container = Namesake.old := by
      simpa [Namesake.node, Namesake.confused, Namesake.docker] using member
    rcases listed with rfl | rfl
    · exact ⟨by decide, by decide, by decide⟩
    · exact ⟨by decide, by decide, by decide⟩
  cases outcome with
  | error error => cases isOk
  | ok _ =>
      have retired : node'.docker = _ := (all 0 _ _ _ node' h (.ok ()) names run).2
      apply of_decide_eq_true gone
      rw [retired]
      apply DockerState.mem_retire_previous.mpr
      refine ⟨List.mem_cons_self, ?_⟩
      intro ofProject
      cases (DockerState.mem_previous.mp ofProject).2.1

end SakalaAgent
