/-
Module: SakalaAgent.Proofs.CommittedDeployment
Layer: Proofs
Purpose: After its cutover a deployment undoes nothing. Whatever others do to the node meanwhile, no
  later step of the run stops or removes the candidate, takes away its image or changes the route file
  of the project; and a run that has had its cutover ends behind its finalization, cancelled or not.
Trusted boundary: `docker inspect` tells the name of the container its reference names, and that
  reference names no container of another name later in the run.
Main exports: sharing, KeepsDeployment, calm_runDeployment, Finalized, finalized_of_run,
  committed_deployment_stays
-/
import SakalaAgent.Async.Warranted
import SakalaAgent.Proofs.Listings
import SakalaAgent.Proofs.RouteCommit
import SakalaAgent.Proofs.RouteTransactions
import SakalaAgent.Proofs.RuntimeRules
import SakalaAgent.Proofs.Workloads

namespace SakalaAgent

open Async

/-! ### What an inspection tells -/

/-- The format in which previous containers are inspected. -/
def nameFormat : String :=
  "\x7b\x7b.State.Running\x7d\x7d\t\x7b\x7b.Name\x7d\x7d"

/-- What an inspection prints of a container. -/
def nameLine (isRunning : Bool) (name : Text) : Text :=
  (if isRunning then "true" else "false").toList ++ '\t' :: '/' :: name

/-- The name that is read of what an inspection has printed. -/
def readName (stdout : Text) : Text :=
  ((field (Text.splitOn '\t' (Text.trim stdout)) 1).getD []).dropWhile fun character => character = '/'

/-- A character that a name can hold. -/
def IsNameCharacter (character : Char) : Prop :=
  Text.isWhiteSpace character = false ∧ character ≠ '/'

instance (character : Char) : Decidable (IsNameCharacter character) :=
  inferInstanceAs (Decidable (_ ∧ _))

/-- A name as the agent gives them: no white space, no slash, and not too long. -/
structure IsName (name : Text) : Prop where
  characters : ∀ character ∈ name, IsNameCharacter character
  some : name ≠ []
  short : name.length ≤ 1000

/-- A name without white space and slashes is read as it was printed, if it was not cut off. -/
theorem readName_of_fits {name : Text} {isRunning : Bool}
    (characters : ∀ character ∈ name, IsNameCharacter character) (isSome : name ≠ [])
    (fits : Text.byteLength ([nameLine isRunning name].flatMap fun line => line ++ ['\n']) ≤
      maxCaptureBytes) :
    readName (captured [nameLine isRunning name]) = name := by
  have noTab : ∀ separator, Text.isWhiteSpace separator = true → separator ∉ name := by
    intro separator space member
    rw [(characters separator member).1] at space
    cases space
  obtain ⟨front, last, rfl⟩ : ∃ front last, name = front ++ [last] :=
    ⟨_, _, (List.dropLast_append_getLast isSome).symm⟩
  have ends : Text.isWhiteSpace last = false := (characters last (by simp)).1
  have line : ∃ first middle, nameLine isRunning (front ++ [last]) = first :: (middle ++ [last]) ∧
      Text.isWhiteSpace first = false := by
    cases isRunning with
    | true => exact ⟨'t', "rue\t/".toList ++ front, by simp [nameLine], rfl⟩
    | false => exact ⟨'f', "alse\t/".toList ++ front, by simp [nameLine], rfl⟩
  obtain ⟨first, middle, same, begins⟩ := line
  have trimmed : Text.trim (captured [nameLine isRunning (front ++ [last])]) =
      nameLine isRunning (front ++ [last]) := by
    rw [captured_eq fits, List.flatMap_singleton, same]
    exact Text.trim_line begins ends
  have state : '\t' ∉ (if isRunning then "true" else "false").toList := by
    cases isRunning <;> decide
  have rest : '\t' ∉ '/' :: (front ++ [last]) := by
    have absent := noTab '\t' rfl
    simpa using absent
  have pieces : Text.splitOn '\t' (nameLine isRunning (front ++ [last])) =
      [(if isRunning then "true" else "false").toList, '/' :: (front ++ [last])] := by
    rw [nameLine, Text.splitOn_append _ state, Text.splitOn_of_not_mem rest]
  have noSlash : '/' ∉ front ++ [last] := fun member => (characters '/' member).2 rfl
  rw [readName, trimmed, pieces]
  show ('/' :: (front ++ [last])).dropWhile _ = _
  rw [List.dropWhile_cons_of_pos (by simp)]
  cases whole : front ++ [last] with
  | nil => simp at whole
  | cons character text =>
      rw [whole] at noSlash
      apply List.dropWhile_cons_of_neg
      intro same
      obtain rfl : character = '/' := of_decide_eq_true same
      exact noSlash List.mem_cons_self

theorem readName_captured {name : Text} (isName : IsName name) (isRunning : Bool) :
    readName (captured [nameLine isRunning name]) = name := by
  apply readName_of_fits isName.characters isName.some
  apply (Text.byteLength_le _).trans
  have short := isName.short
  cases isRunning <;> simp [nameLine, maxCaptureBytes] <;> omega

theorem isNameCharacter_of_mem_toText {uuid : Uuid} :
    ∀ character ∈ uuid.toText, IsNameCharacter character := by
  have digits : ∀ digit, IsNameCharacter (Uuid.hexDigit digit) := by decide
  intro character member
  rcases Uuid.mem_toText member with rfl | ⟨digit, rfl⟩
  · decide
  · exact digits digit

theorem length_containerName (projectId deploymentId : Uuid) :
    (containerName projectId deploymentId).length = 56 := by
  have project := toText_length projectId
  have deployment := toText_length deploymentId
  have fixed : "sakala-app-".toList.length = 11 := by decide
  unfold containerName
  simp only [List.length_append, List.length_cons, List.length_take, project, deployment]
  omega

theorem isNameCharacter_of_mem_containerName {projectId deploymentId : Uuid} :
    ∀ character ∈ containerName projectId deploymentId, IsNameCharacter character := by
  have fixed : ∀ character ∈ "sakala-app-".toList, IsNameCharacter character := by decide
  intro character member
  unfold containerName at member
  rcases List.mem_append.mp member with start | member
  · exact fixed character start
  · rcases List.mem_append.mp member with project | member
    · exact isNameCharacter_of_mem_toText character (List.mem_of_mem_take project)
    · rcases List.mem_cons.mp member with rfl | deployment
      · decide
      · exact isNameCharacter_of_mem_toText character deployment

theorem isName_containerName (projectId deploymentId : Uuid) :
    IsName (containerName projectId deploymentId) := by
  have length := length_containerName projectId deploymentId
  constructor
  · exact isNameCharacter_of_mem_containerName
  · intro empty
    rw [empty] at length
    cases length
  · omega

/-! ### A node that is shared with others -/

/-- The reference by which a process names the container it inspects, stops or removes. -/
def CommandLine.reference : CommandLine → Option Text
  | .docker (.inspect _ reference) => some reference
  | .docker (.stop _ reference) => some reference
  | .docker (.rm _ reference) => some reference
  | _ => none

/-- As long as the run takes, a reference names containers of one name only. -/
def Node.NamesAs (names : Text → Text) (node : Node) : RuntimeOp → Prop
  | .process spec => ∀ reference container, spec.line.reference = some reference →
      node.docker.resolve reference = some container → container.name = names reference
  | _ => True

/-- An inspection that succeeded has printed the name of the container. -/
def Node.InspectsTruly (node : Node) : (op : RuntimeOp) → op.Res → Prop
  | .process spec, result => ∀ reference, spec.line = .docker (.inspect nameFormat reference) →
      result.success = true → ∃ container isRunning, node.docker.resolve reference = some container ∧
        result.stdout = [nameLine isRunning container.name]
  | _, _ => True

/-- The node of a thread that shares it with others: between two steps they may change everything but
the flag of its run. -/
def sharing (thread : ThreadId) (names : Text → Text) : Semantics Runtime Node where
  step node op res node' :=
    node.step thread op res node' ∧ node.NamesAs names op ∧ node.InspectsTruly op res
  leave := Node.leave
  drift node node' := node'.activated thread = node.activated thread

/-! ### What a step keeps -/

/-- What a deployment has put on the node is still there, and as it was. -/
structure KeepsDeployment (request : DeployProjectRequest) (node node' : Node) : Prop where
  container : ∀ container ∈ node.docker.containers, container.name = request.container →
    container ∈ node'.docker.containers
  image : request.image ∈ node.docker.tags → request.image ∈ node'.docker.tags
  route : node'.files (siteFile request.projectId) = node.files (siteFile request.projectId)

/-- The process changes no container but one of another name than the given. -/
def CommandLine.Spares (name : Text) (names : Text → Text) : CommandLine → Prop
  | .docker (.stop _ reference) => names reference ≠ name
  | .docker (.rm _ reference) => names reference ≠ name
  | line => line.isQuiet = true

theorem CommandLine.spares_of_isQuiet {name : Text} {names : Text → Text} {line : CommandLine}
    (quiet : line.isQuiet = true) : line.Spares name names := by
  unfold CommandLine.Spares
  split
  · cases quiet
  · cases quiet
  · exact quiet

/-- An operation behind the cutover. -/
def Spares (request : DeployProjectRequest) (names : Text → Text) : RuntimeOp → Prop :=
  Asks (CommandLine.Spares request.container names)

section Keeps

variable {request : DeployProjectRequest} {names : Text → Text} {thread : ThreadId}
  {node node' : Node} {op : RuntimeOp}

/-- A process that spares the deployment leaves its container and its image as they are. -/
theorem Node.Settled.keeps {line : CommandLine} {succeeded : Bool}
    (spares : line.Spares request.container names)
    (named : ∀ reference container, line.reference = some reference →
      node.docker.resolve reference = some container → container.name = names reference)
    (settled : node.Settled line succeeded node') : KeepsDeployment request node node' := by
  have sites := settled.sameSites
  have route : node'.files (siteFile request.projectId) = node.files (siteFile request.projectId) :=
    sites _
  have untouched : node'.docker = node.docker → KeepsDeployment request node node' := by
    intro same
    exact ⟨fun _ member _ => same ▸ member, fun present => same ▸ present, route⟩
  by_cases quiet : line.isQuiet = true
  · exact untouched (settled.docker_of_isQuiet quiet)
  obtain ⟨files, docker, _, rfl, outcome⟩ := settled
  have other : ∀ {reference stopped}, line.reference = some reference →
      names reference ≠ request.container → node.docker.resolve reference = some stopped →
      ∀ container ∈ node.docker.containers, container.name = request.container →
        container.id ≠ stopped.id := by
    intro reference stopped about spared found container member isCandidate same
    obtain rfl := DockerState.eq_of_id (DockerState.resolve_answers found).1 member same
    exact spared ((named _ _ about found).symm.trans isCandidate)
  cases line with
  | docker command =>
      rcases outcome with effect | ⟨_, rfl⟩
      · cases effect with
        | stop graceSeconds reference stopped status plain found ended =>
            refine ⟨fun container member isCandidate => ?_, fun present => present, route⟩
            have apart := other rfl spares found container member isCandidate
            exact List.mem_map.mpr ⟨container, member, if_neg apart⟩
        | rm isForced reference removed found removable =>
            refine ⟨fun container member isCandidate => ?_, fun present => present, route⟩
            have apart := other rfl spares found container member isCandidate
            exact List.mem_filter.mpr ⟨member, decide_eq_true apart⟩
        | run | start | restart | buildx | imageRemove => cases spares
        | ps | logs | inspect | imagePrune | exec => exact absurd rfl quiet
      · exact untouched rfl
  | git | railpack | df => exact absurd rfl quiet

theorem keeps_of_step {res : op.Res} (spares : Spares request names op)
    (step : (sharing thread names).step node op res node') : KeepsDeployment request node node' := by
  obtain ⟨step, named, _⟩ := step
  cases op with
  | process spec => exact step.2.keeps spares named
  | _ =>
      have docker := Node.docker_of_step (fun _ => by simp) step
      have sites := Node.step_sameSites spares step
      exact ⟨fun _ member _ => docker ▸ member, fun present => docker ▸ present, sites _⟩

theorem keeps_of_leave {outcome : Option op.Res} (spares : Spares request names op)
    (left : node.leave op outcome node') : KeepsDeployment request node node' := by
  have docker := Node.docker_of_leave left
  have sites := Node.leave_sameSites spares left
  exact ⟨fun _ member _ => docker ▸ member, fun present => docker ▸ present, sites _⟩

end Keeps

/-! ### A run that undoes nothing -/

/-- Behind the cutover a run asks for nothing that touches its deployment. -/
def undoesNothing (request : DeployProjectRequest) (names : Text → Text) (thread : ThreadId) :
    Contract Runtime Node where
  rely _ node node' := node'.activated thread = node.activated thread
  asserts node _ op := node.activated thread = true →
    (∃ value, op = .setRouteActivated value) ∨ Spares request names op
  left _ _ := True

/-- The operation leaves the flag of the cutover alone. -/
def KeepsFlag (op : RuntimeOp) : Prop :=
  ∀ value, op ≠ .setRouteActivated value

/-- The operation does not take the cutover back. -/
def KeepsCutover (op : RuntimeOp) : Prop :=
  op ≠ .setRouteActivated false

theorem KeepsFlag.keepsCutover (op : RuntimeOp) (keeps : KeepsFlag op) : KeepsCutover op :=
  keeps false

theorem keepsFlag_of_asks {allowed : CommandLine → Prop} (op : RuntimeOp) (asks : Asks allowed op) :
    KeepsFlag op := by
  rintro value rfl
  exact asks

theorem admitsRoutes_keepsFlag : AdmitsRoutes KeepsFlag where
  file _ _ := nofun
  spawns op spawns := keepsFlag_of_asks op spawns.asks
  lock _ := nofun
  release _ := nofun

theorem Node.activated_of_step {thread : ThreadId} {node node' : Node} {op : RuntimeOp}
    {res : op.Res} (keeps : KeepsFlag op) (step : node.step thread op res node') :
    node'.activated = node.activated := by
  cases op with
  | setRouteActivated value => exact absurd rfl (keeps value)
  | process spec =>
      obtain ⟨files, docker, _, rfl, _⟩ := step.2
      rfl
  | file op =>
      obtain ⟨files, _, rfl⟩ := step
      rfl
  | acquireBuildPermit => rcases step with ⟨_, _, rfl⟩ | ⟨_, rfl⟩ <;> rfl
  | lock which => rw [step.2]
  | routeActivated => rw [step.2]
  | _ => rw [show node' = _ from step]

theorem Node.activated_of_leave {node node' : Node} {op : RuntimeOp} {outcome : Option op.Res}
    (left : node.leave op outcome node') : node'.activated = node.activated := by
  cases op with
  | file op =>
      obtain ⟨res, files, _, _, rfl⟩ := left
      rfl
  | _ => rw [left.2]

section Calm

variable {request : DeployProjectRequest} {names : Text → Text} {thread : ThreadId} {α : Type}
  {node : Node} {h : History Runtime}

theorem upholds : Upholds (sharing thread names) (undoesNothing request names thread)
    (fun _ => True) where
  blind := ⟨fun _ _ => rfl, fun _ _ => .rfl, fun _ _ => .rfl⟩
  rely _ _ := trivial
  left := .rfl
  flag _ := .inr trivial
  reads step := step.1.2

/-- Wherever the run is, it has undone nothing. -/
abbrev Calm (request : DeployProjectRequest) (names : Text → Text) (thread : ThreadId)
    (future : RuntimeM α) (node : Node) (h : History Runtime) : Prop :=
  future.run.safe (sharing thread names) (undoesNothing request names thread)
    (fun _ _ _ => True) node h

/-- Operations that spare the deployment may be asked for at any time. -/
theorem calm_of_spares {future : RuntimeM α} (ops : Fallible.AllOps (Spares request names) future) :
    Calm request names thread future node h := by
  have kept : Prog.Maintains (sharing thread names) (undoesNothing request names thread)
      (Spares request names) (fun _ _ => True) :=
    { asserts := fun _ spares _ _ _ _ => .inr spares
      done := fun _ _ _ _ _ _ _ _ => trivial
      abandoned := fun _ _ _ _ _ _ _ _ => trivial
      fired := fun _ _ _ _ _ => trivial
      rely := fun _ _ _ _ _ => trivial }
  exact Prog.safe_of_allOps kept ops trivial (fun _ _ _ _ => trivial) fun _ _ _ => trivial

/-- Before the cutover everything else may be asked for too, and the flag stays as it is. -/
theorem calm_before {future : RuntimeM α} (ops : Fallible.AllOps KeepsFlag future)
    (before : node.activated thread = false) :
    future.run.safe (sharing thread names) (undoesNothing request names thread)
      (fun _ node _ => node.activated thread = false) node h := by
  have kept : Prog.Maintains (sharing thread names) (undoesNothing request names thread) KeepsFlag
      (fun node _ => node.activated thread = false) :=
    { asserts := fun op _ node h before activated => by rw [before] at activated; cases activated
      done := fun op keeps node h res node' before step => by
        rwa [Node.activated_of_step keeps step.1]
      abandoned := fun op keeps node h outcome node' before left => by
        rwa [Node.activated_of_leave left]
      fired := fun _ _ _ _ before => before
      rely := fun node h node' before same => same.trans before }
  exact Prog.safe_of_allOps kept ops before (fun _ _ _ before => before) fun _ _ _ => trivial

theorem calm_bind {β : Type} {p : RuntimeM α} {f : α → RuntimeM β}
    (first : Calm request names thread p node h)
    (rest : ∀ value node h, Calm request names thread (f value) node h) :
    Calm request names thread (p >>= f) node h :=
  upholds.safe_bind first fun value node h _ => rest value node h

theorem calm_attempt {β : Type} {p : RuntimeM α} {f : Except RuntimeError α → RuntimeM β}
    (first : Calm request names thread p node h)
    (rest : ∀ outcome node h, Calm request names thread (f outcome) node h) :
    Calm request names thread (Fallible.attempt p >>= f) node h :=
  upholds.safe_attempt first fun outcome node h _ => rest outcome node h

theorem calm_before_bind {β : Type} {p : RuntimeM α} {f : α → RuntimeM β}
    (ops : Fallible.AllOps KeepsFlag p) (before : node.activated thread = false)
    (rest : ∀ value node h, node.activated thread = false → Calm request names thread (f value) node h) :
    Calm request names thread (p >>= f) node h := by
  apply Fallible.safe_bind
  apply Prog.safe_mono (calm_before ops before)
  rintro (error | value) node h before
  · exact upholds.safe_end trivial
  · exact rest value node h before

theorem calm_perform {β : Type} {op : RuntimeOp} {f : op.Res → RuntimeM β}
    (spares : Spares request names op)
    (rest : ∀ node₀ res node' h, (sharing thread names).step node₀ op res node' →
      Calm request names thread (f res) node' h) :
    Calm request names thread (Fallible.perform (I := Runtime) op >>= f) node h :=
  fun node₀ _ => ⟨fun _ => .inr spares, fun _ _ _ _ => trivial,
    fun res node' step => rest node₀ res node' _ step⟩

theorem calm_ofExcept {β : Type} {outcome : Except RuntimeError α} {f : α → RuntimeM β}
    (rest : ∀ value, outcome = .ok value → Calm request names thread (f value) node h) :
    Calm request names thread (Fallible.ofExcept outcome >>= f) node h := by
  cases outcome with
  | ok value => exact rest value rfl
  | error error => exact upholds.safe_end trivial

/-! ### Previous containers -/

theorem spares_quiet (line : CommandLine) (quiet : line.isQuiet = true) :
    line.Spares request.container names :=
  CommandLine.spares_of_isQuiet quiet

theorem calm_runChecked {spec : CommandSpec} {phase : String}
    (spares : spec.line.Spares request.container names) :
    Calm request names thread (runChecked spec phase) node h :=
  calm_of_spares (asks_runChecked spares phase)

/-- A container is only stopped and removed if it has been inspected, and has another name. -/
theorem calm_cleanupPreviousContainer (reference : Text) :
    Calm request names thread
      (ContainerEngine.cleanupPreviousContainer request.container reference) node h := by
  unfold ContainerEngine.cleanupPreviousContainer
  rw [runProcess_null, bind_assoc]
  refine calm_perform (by exact rfl) ?_
  intro node₀ result node' h step
  obtain ⟨_, named, truly⟩ := step
  apply calm_ofExcept
  intro output read
  have output_eq := output_of_processOutcome read
  split
  · exact calm_of_spares (Fallible.allOps_throw _)
  · rename_i inspected
    dsimp only
    split
    · exact calm_of_spares (Fallible.allOps_pure _)
    · rename_i isOther
      have spared : names reference ≠ request.container := by
        intro isCandidate
        apply isOther
        have succeeded : result.success = true := by simpa [output_eq.1] using inspected
        obtain ⟨container, isRunning, found, printed⟩ := truly reference rfl succeeded
        have same : container.name = request.container :=
          (named reference container rfl found).trans isCandidate
        have read := readName_captured (isName_containerName request.projectId request.deploymentId)
          isRunning
        rw [output_eq.2, printed, same]
        exact read
      apply calm_bind
      · apply calm_of_spares
        apply asks_onlyIf
        exact Fallible.allOps_bind (asks_runChecked spared _) fun _ => trivial
      · intro _ node h
        exact calm_bind (calm_runChecked spared) fun _ _ _ => calm_of_spares (Fallible.allOps_pure _)

theorem calm_cleanupPrevious :
    Calm request names thread (ContainerEngine.cleanupPrevious request.projectId request.container)
      node h := by
  unfold ContainerEngine.cleanupPrevious
  apply calm_bind (calm_of_spares (asks_runProcess (by exact rfl) _))
  intro output node h
  split
  · exact calm_of_spares (Fallible.allOps_throw _)
  · generalize contentLines output.stdout = references
    induction references generalizing node h with
    | nil => exact calm_of_spares (Fallible.allOps_pure _)
    | cons reference references ih =>
        rw [List.forM_cons]
        exact calm_bind (calm_cleanupPreviousContainer reference) fun _ => ih

/-! ### The run -/

variable (executor : DockerRuntimeExecutor) (prepared : PreparedDeployment)

theorem calm_finalizeDeployment (builder : DeploymentBuilder) :
    Calm request names thread
      (DockerRuntimeExecutor.finalizeDeployment { request, prepared } builder) node h := by
  apply calm_attempt (calm_of_spares (asks_reportStartupLogs spares_quiet _))
  intro logged node h
  apply calm_bind (calm_of_spares (asks_warnOnError _ _))
  intro _ node h
  apply calm_attempt calm_cleanupPrevious
  intro cleaned node h
  apply calm_of_spares
  apply Fallible.allOps_bind (asks_warnOnError _ _)
  intro _
  apply Fallible.allOps_bind (Fallible.allOps_attempt (asks_emitEvent _ _ _))
  intro _
  exact Fallible.allOps_bind (asks_perform trivial) fun _ => trivial

theorem calm_deployInner (before : node.activated thread = false) :
    Calm request names thread (executor.deployInner { request, prepared }) node h := by
  have anything : ∀ line : CommandLine, line.isQuiet = true → True := fun _ _ => trivial
  apply calm_before_bind ((asks_buildImage anything executor fun _ _ _ _ => trivial).mono
    keepsFlag_of_asks) before
  intro builder node h before
  apply calm_before_bind ((asks_startCandidate anything executor fun _ _ => trivial).mono
    keepsFlag_of_asks) before
  intro _ node h before
  apply calm_before_bind (admitsRoutes_keepsFlag.activate executor.routes _) before
  intro _ node h before node₀ _
  refine ⟨fun _ => .inl ⟨true, rfl⟩, fun _ _ _ _ => trivial, fun _ node' _ => ?_⟩
  refine calm_perform (by exact trivial) ?_
  intro _ _ node h _
  exact calm_finalizeDeployment prepared builder

/-- A run that has failed before its cutover takes its candidate away, with the flag not set. -/
theorem calm_cleanupFailed (result : Except RuntimeError Unit) :
    Calm request names thread
      (DockerRuntimeExecutor.cleanupFailed { request, prepared } result) node h := by
  cases result with
  | ok _ => exact calm_of_spares (Fallible.allOps_pure _)
  | error error =>
      refine calm_perform (by exact trivial) ?_
      rintro node₀ activated node h ⟨⟨rfl, rfl⟩, _⟩
      split
      · exact calm_of_spares (Fallible.allOps_pure _)
      · rename_i before
        have ops : Fallible.AllOps (Asks fun _ => True)
            (ContainerEngine.cleanupCandidate request.container request.image) :=
          asks_cleanupCandidate trivial trivial
        apply calm_attempt (Prog.safe_mono
          (calm_before (ops.mono keepsFlag_of_asks) (by simpa using before))
          fun _ _ _ _ => trivial)
        exact fun _ _ _ => calm_of_spares (asks_warnOnError _ _)

theorem calm_runCheckedOut :
    Calm request names thread (executor.runCheckedOut { request, prepared }) node h := by
  intro node₀ _
  refine ⟨fun _ => .inl ⟨false, rfl⟩, fun _ _ _ _ => trivial, ?_⟩
  rintro _ node' ⟨rfl, _⟩
  apply calm_bind
  · apply upholds.safe_untilCancelled
    exact calm_deployInner executor prepared (Function.update_self ..)
  intro result node h
  apply calm_bind (calm_cleanupFailed prepared result)
  intro _ node h
  apply calm_of_spares
  apply Fallible.allOps_bind (Fallible.allOps_attempt (asks_cleanup _))
  intro cleaned
  apply Fallible.allOps_bind (asks_warnOnError _ _)
  intro _
  apply Fallible.allOps_bind asks_dropDeployment
  intro _
  exact Fallible.allOps_bind (Fallible.allOps_ofExcept _) fun _ => Fallible.allOps_pure _

theorem calm_runDeployment : Calm request names thread (executor.runDeployment request) node h := by
  apply calm_bind (calm_of_spares (asks_prepareDeployment spares_quiet executor request))
  exact fun prepared node h => calm_runCheckedOut executor prepared

end Calm

/-! ### The flag in a history -/

/-- What the flag is behind a history, given what it was before it. -/
def flagAfter (flag : Bool) (h : History Runtime) : Bool :=
  h.foldl (fun flag event => match event with
    | .done (.setRouteActivated value) _ => value
    | _ => flag) flag

/-- Each answer about the flag tells what it is. -/
def FlagRead (flag : Bool) (h : History Runtime) : Prop :=
  ∀ before answer after, h = before ++ Event.done (I := Runtime) .routeActivated answer :: after →
    answer = flagAfter flag before

/-- The cutover in a history. -/
def cutoverEvent : Event Runtime :=
  .done (.setRouteActivated true) ()

section Flag

variable {flag : Bool} {h h' : History Runtime} {thread : ThreadId} {names : Text → Text}

theorem flagAfter_append : flagAfter flag (h ++ h') = flagAfter (flagAfter flag h) h' :=
  List.foldl_append

theorem flagAfter_event {event : Event Runtime} (other : ∀ value res,
    event ≠ .done (.setRouteActivated value) res) : flagAfter flag (h ++ [event]) = flagAfter flag h := by
  rw [flagAfter_append]
  cases event with
  | done op res =>
      cases op with
      | setRouteActivated value => exact absurd rfl (other value res)
      | _ => rfl
  | abandoned | fired => rfl

/-- A flag that is set has been set by a cutover, or was set before. -/
theorem committed_of_flagAfter (set : flagAfter flag h = true) : flag = true ∨ Committed h := by
  induction h generalizing flag with
  | nil => exact .inl set
  | cons event h ih =>
      rcases ih set with now | later
      · cases event with
        | done op res =>
            cases op with
            | setRouteActivated value =>
                obtain rfl : value = true := now
                exact .inr List.mem_cons_self
            | _ => exact .inl now
        | abandoned | fired => exact .inl now
      · exact .inr (List.mem_cons_of_mem _ later)

/-- Behind a cutover the flag is set, if it is not taken back. -/
theorem flagAfter_of_committed (asked : Prog.Asked KeepsCutover h)
    (committed : flag = true ∨ Committed h) : flagAfter flag h = true := by
  induction h generalizing flag with
  | nil => exact committed.resolve_right List.not_mem_nil
  | cons event h ih =>
      obtain ⟨kept, asked⟩ := Prog.asked_cons.mp asked
      apply ih asked
      rcases committed with set | member
      · subst set
        cases event with
        | done op res =>
            cases op with
            | setRouteActivated value =>
                cases value with
                | true => exact .inl rfl
                | false => exact absurd rfl (kept _ rfl)
            | _ => exact .inl rfl
        | abandoned | fired => exact .inl rfl
      · rcases List.mem_cons.mp member with rfl | later
        · exact .inl rfl
        · exact .inr later

theorem FlagRead.append {event : Event Runtime} (read : FlagRead flag h)
    (last : ∀ answer, event = .done (I := Runtime) .routeActivated answer → answer = flagAfter flag h) :
    FlagRead flag (h ++ [event]) := by
  intro before answer after same
  rcases List.eq_nil_or_concat after with rfl | ⟨between, final, rfl⟩
  · obtain ⟨rfl, final⟩ := List.append_inj' same rfl
    cases final
    exact last answer rfl
  · rw [List.concat_eq_append, ← List.cons_append, ← List.append_assoc] at same
    obtain ⟨rfl, _⟩ := List.append_inj' same rfl
    exact read before answer between rfl

/-- The node holds the flag of a history, and answers with it. -/
theorem flagRead_preserved (flag : Bool) : Prog.Preserves (sharing thread names) (fun _ => True)
    fun node h => node.activated thread = flagAfter flag h ∧ FlagRead flag h where
  done op _ node h res node' holds step := by
    obtain ⟨known, read⟩ := holds
    by_cases keeps : KeepsFlag op
    · refine ⟨?_, read.append ?_⟩
      · rw [Node.activated_of_step keeps step.1, known, flagAfter_event]
        rintro value _ ⟨⟩
        exact keeps value rfl
      · rintro answer ⟨⟩
        exact step.1.1.trans known
    · unfold KeepsFlag at keeps
      push Not at keeps
      obtain ⟨value, rfl⟩ := keeps
      obtain rfl : node' = _ := step.1
      refine ⟨?_, read.append nofun⟩
      rw [flagAfter_append]
      exact Function.update_self ..
  abandoned op _ node h outcome node' holds left := by
    refine ⟨?_, holds.2.append nofun⟩
    rw [Node.activated_of_leave left, holds.1, flagAfter_append]
    rfl
  fired which op node h holds := by
    refine ⟨?_, holds.2.append nofun⟩
    rw [holds.1, flagAfter_append]
    rfl
  drift node h node' holds same := ⟨same.trans holds.1, holds.2⟩

theorem not_committed_of_keepsFlag (asked : Prog.Asked KeepsFlag h) : ¬Committed h :=
  fun member => asked _ member _ rfl true rfl

end Flag

/-! ### The runs of a deployment -/

/-- What a deployment does once its route is active: it is marked as committed and finalized. -/
def commitDeployment (deployment : Deployment) (builder : DeploymentBuilder) : RuntimeM Unit := do
  Fallible.perform (I := Runtime) (.markDeploymentCommitted
    (deploymentOutput deployment.payload.resources deployment.prepared.appliedResources))
  DockerRuntimeExecutor.finalizeDeployment deployment builder

/-- The same history, in which a cancellation may have been seen while the flag was set. -/
def SeesCancellation (h h' : History Runtime) : Prop :=
  h' = h ∨ ∃ before op after, h = before ++ after ∧
    h' = before ++ .fired .cancelled op :: Event.done (I := Runtime) .routeActivated true :: after

/-- Behind the cutover the deployment has been committed and finalized to its end, and the outcome of
that is the one of the run. -/
def Finalized (request : DeployProjectRequest) (outcome : Except RuntimeError CommandOutput)
    (h : History Runtime) : Prop :=
  ∃ prepared builder result before final during after,
    h = before ++ cutoverEvent :: during ++ after ∧
    (commitDeployment { request, prepared } builder).run.Finishes final result ∧
    SeesCancellation final during ∧
    outcome = result.map fun _ => deploymentOutput request.payload.resources prepared.appliedResources

section Runs

variable {executor : DockerRuntimeExecutor} {deployment : Deployment} {h : History Runtime}
  {result : Except RuntimeError Unit}

theorem keepsFlag_commitDeployment (deployment : Deployment) (builder : DeploymentBuilder) :
    Fallible.AllOps KeepsFlag (commitDeployment deployment builder) := by
  apply Fallible.allOps_bind (Fallible.allOps_perform (by nofun))
  intro _
  have anything : ∀ line : CommandLine, line.isTame = true → True := fun _ _ => trivial
  exact (asks_finalizeDeployment anything deployment builder).mono keepsFlag_of_asks

theorem keepsFlag_buildImage (executor : DockerRuntimeExecutor) (deployment : Deployment) :
    Fallible.AllOps KeepsFlag (executor.buildImage deployment) := by
  have ops : Fallible.AllOps (Asks fun _ => True) (executor.buildImage deployment) :=
    asks_buildImage (fun _ _ => trivial) executor fun _ _ _ _ => trivial
  exact ops.mono keepsFlag_of_asks

theorem keepsFlag_startCandidate (executor : DockerRuntimeExecutor) (deployment : Deployment) :
    Fallible.AllOps KeepsFlag (executor.startCandidate deployment) := by
  have ops : Fallible.AllOps (Asks fun _ => True) (executor.startCandidate deployment) :=
    asks_startCandidate (fun _ _ => trivial) executor fun _ _ => trivial
  exact ops.mono keepsFlag_of_asks

theorem keepsFlag_prepareDeployment (executor : DockerRuntimeExecutor)
    (request : DeployProjectRequest) :
    Fallible.AllOps KeepsFlag (executor.prepareDeployment request) := by
  have ops : Fallible.AllOps (Asks fun _ => True) (executor.prepareDeployment request) :=
    asks_prepareDeployment (fun _ _ => trivial) executor request
  exact ops.mono keepsFlag_of_asks

theorem keepsFlag_afterDeployment (executor : DockerRuntimeExecutor) (deployment : Deployment)
    (result : Except RuntimeError Unit) : Fallible.AllOps KeepsFlag (do
      DockerRuntimeExecutor.cleanupFailed deployment result
      let cleaned : Except RuntimeError Unit ←
        Fallible.attempt (WorkspaceManager.cleanup deployment.prepared.workspace)
      warnOnError cleaned fun error =>
        s!"workspace cleanup warning for {executor.workspace.rootPath deployment.prepared.workspace}: {error.message}"
      DockerRuntimeExecutor.dropDeployment
      Fallible.ofExcept result
      return deploymentOutput deployment.payload.resources
        deployment.prepared.appliedResources : RuntimeM CommandOutput) :=
  Fallible.AllOps.mono (@keepsFlag_of_asks fun _ => True)
    (asks_afterDeployment executor trivial trivial result)

theorem keepsCutover_deployInner (executor : DockerRuntimeExecutor) (deployment : Deployment) :
    Fallible.AllOps KeepsCutover (executor.deployInner deployment) := by
  apply Fallible.allOps_bind ((keepsFlag_buildImage executor deployment).mono KeepsFlag.keepsCutover)
  intro builder
  apply Fallible.allOps_bind
    ((keepsFlag_startCandidate executor deployment).mono KeepsFlag.keepsCutover)
  intro _
  apply Fallible.allOps_bind
    ((admitsRoutes_keepsFlag.activate executor.routes _).mono KeepsFlag.keepsCutover)
  intro _
  apply Fallible.allOps_bind (Fallible.allOps_perform (by nofun))
  intro _
  exact (keepsFlag_commitDeployment deployment builder).mono KeepsFlag.keepsCutover

/-- A deployment that is not cancelled has no cutover, or commits behind it. -/
theorem finishes_deployInner (run : (executor.deployInner deployment).run.Finishes h result) :
    Prog.Asked KeepsFlag h ∨ ∃ builder before after, h = before ++ cutoverEvent :: after ∧
      Prog.Asked KeepsFlag before ∧
      (commitDeployment deployment builder).run.Finishes after result := by
  rcases Fallible.finishes_bind run with ⟨_, run, _⟩ | ⟨first, builder, rest, rfl, built, run⟩
  · exact .inl (run.asked (keepsFlag_buildImage executor deployment))
  have built := built.asked (keepsFlag_buildImage executor deployment)
  rcases Fallible.finishes_bind run with ⟨_, run, _⟩ | ⟨second, _, rest, rfl, started, run⟩
  · have started := run.asked (keepsFlag_startCandidate executor deployment)
    exact .inl (Prog.asked_append.mpr ⟨built, started⟩)
  have started := started.asked (keepsFlag_startCandidate executor deployment)
  have routes := admitsRoutes_keepsFlag.activate executor.routes deployment.request.route
  rcases Fallible.finishes_bind run with ⟨_, run, _⟩ | ⟨third, _, rest, rfl, activated, run⟩
  · have activated := run.asked routes
    exact .inl (Prog.asked_append.mpr ⟨built, Prog.asked_append.mpr ⟨started, activated⟩⟩)
  have activated := activated.asked routes
  have run : Prog.Finishes (.call (I := Runtime) (.setRouteActivated true) fun _ =>
      (commitDeployment deployment builder).run) rest result := run
  cases run with
  | @call _ _ res after _ run =>
      cases res
      refine .inr ⟨builder, first ++ (second ++ third), after, by simp [cutoverEvent], ?_, run⟩
      exact Prog.asked_append.mpr ⟨built, Prog.asked_append.mpr ⟨started, activated⟩⟩

/-- A future raced with its cancellation has finished, or the cancellation was seen: with the flag set
the future has gone on to its end, and else it was left where it waited. -/
theorem finishes_untilCancelled {future : RuntimeM Unit}
    {outcome : Except RuntimeError (Except RuntimeError Unit)}
    {allowed : RuntimeOp → Prop} (ops : Fallible.AllOps allowed future)
    (run : (untilCancelled future).run.Finishes h outcome) :
    ∃ result, outcome = .ok result ∧ (future.run.Finishes h result ∨
      (∃ before op after,
        h = before ++ .fired .cancelled op :: Event.done (I := Runtime) .routeActivated true :: after ∧
        future.run.Finishes (before ++ after) result) ∨
      ∃ before op left,
        h = before ++ [.fired .cancelled op, Event.done (I := Runtime) .routeActivated false,
          .abandoned op left] ∧ Prog.Asked allowed before) := by
  obtain ⟨raced, result, rest, rfl, race, done⟩ := Prog.finishes_bind run
  cases done
  rw [List.append_nil]
  refine ⟨result, rfl, ?_⟩
  rcases Prog.finishes_race ops race with
    ⟨value, run, rfl⟩ | ⟨before, op, next, rest, rfl, asked, reached, handled⟩
  · exact .inl run
  · cases handled with
    | @call _ _ activated after _ handled =>
        cases activated with
        | true => exact .inr (.inl ⟨before, op, after, rfl, reached after _ handled⟩)
        | false =>
            cases handled with
            | @abandon _ _ left _ _ done =>
                cases done
                exact .inr (.inr ⟨before, op, left, rfl, asked⟩)

/-- What follows the deployment has its outcome, and leaves the flag alone. -/
theorem finishes_afterDeployment {outcome : Except RuntimeError CommandOutput}
    (run : (do
      DockerRuntimeExecutor.cleanupFailed deployment result
      let cleaned : Except RuntimeError Unit ←
        Fallible.attempt (WorkspaceManager.cleanup deployment.prepared.workspace)
      warnOnError cleaned fun error =>
        s!"workspace cleanup warning for {executor.workspace.rootPath deployment.prepared.workspace}: {error.message}"
      DockerRuntimeExecutor.dropDeployment
      Fallible.ofExcept result
      return deploymentOutput deployment.payload.resources
        deployment.prepared.appliedResources : RuntimeM CommandOutput).run.Finishes h outcome) :
    Prog.Asked KeepsFlag h ∧ outcome = result.map fun _ =>
      deploymentOutput deployment.payload.resources deployment.prepared.appliedResources := by
  constructor
  · exact run.asked (keepsFlag_afterDeployment executor deployment result)
  have warns : ∀ outcome warning, Fallible.Succeeds (warnOnError outcome warning) := by
    intro outcome warning
    cases outcome with
    | ok _ => exact Fallible.succeeds_pure _
    | error error =>
        exact Fallible.succeeds_bind (Fallible.succeeds_perform _) fun _ => Fallible.succeeds_pure _
  have cleanup : Fallible.Succeeds (DockerRuntimeExecutor.cleanupFailed deployment result) := by
    cases result with
    | ok _ => exact Fallible.succeeds_pure _
    | error error =>
        apply Fallible.succeeds_bind (Fallible.succeeds_perform _)
        intro activated
        split
        · exact Fallible.succeeds_pure _
        · exact Fallible.succeeds_bind (Fallible.succeeds_attempt _) fun _ => warns _ _
  have drop : Fallible.Succeeds DockerRuntimeExecutor.dropDeployment :=
    Fallible.succeeds_bind (Fallible.succeeds_perform _) fun _ =>
      Fallible.succeeds_bind (Fallible.succeeds_perform _) fun _ => Fallible.succeeds_perform _
  obtain ⟨_, _, _, rfl, _, run⟩ := cleanup.finishes_bind run
  obtain ⟨_, cleaned, _, rfl, _, run⟩ := (Fallible.succeeds_attempt _).finishes_bind run
  obtain ⟨_, _, _, rfl, _, run⟩ := (warns cleaned _).finishes_bind run
  obtain ⟨_, _, _, rfl, _, run⟩ := drop.finishes_bind run
  cases result with
  | ok _ =>
      cases run
      rfl
  | error _ =>
      cases run
      rfl

/-- The flag that a cancellation behind the reset of the flag is told. -/
theorem flag_of_read {flag answer : Bool} {prepared before after : History Runtime} {op : RuntimeOp}
    (read : FlagRead flag (prepared ++ Event.done (I := Runtime) (.setRouteActivated false) () ::
      (before ++ .fired .cancelled op :: Event.done (I := Runtime) .routeActivated answer :: after))) :
    answer = flagAfter false before := by
  have told := read (prepared ++ Event.done (I := Runtime) (.setRouteActivated false) () ::
    (before ++ [.fired .cancelled op])) answer after (by simp)
  rw [flagAfter_append] at told
  rw [told]
  change flagAfter false (before ++ [.fired .cancelled op]) = flagAfter false before
  rw [flagAfter_append]
  rfl

/-- The cutover of a future that was seen cancelled before it came to its end. -/
theorem cutover_before {before after first rest : History Runtime}
    (same : before ++ after = first ++ cutoverEvent :: rest) (uncommitted : ¬Committed first)
    (committed : Committed before) :
    ∃ between, before = first ++ cutoverEvent :: between ∧ rest = between ++ after := by
  rcases List.append_eq_append_iff.mp same with ⟨more, rfl, _⟩ | ⟨more, rfl, split⟩
  · exact absurd (List.mem_append_left _ committed) uncommitted
  · cases more with
    | nil =>
        rw [List.append_nil] at committed
        exact absurd committed uncommitted
    | cons event between =>
        obtain ⟨rfl, rfl⟩ := List.cons.inj split
        exact ⟨between, rfl, rfl⟩

/-- A run that was told the flag as it is, and had its cutover, has been finalized. -/
theorem finalized_of_finishes {request : DeployProjectRequest} {flag : Bool}
    {outcome : Except RuntimeError CommandOutput}
    (run : (executor.runDeployment request).run.Finishes h outcome) (read : FlagRead flag h)
    (committed : Committed h) : Finalized request outcome h := by
  have preparation := keepsFlag_prepareDeployment executor request
  rcases Fallible.finishes_bind run with ⟨_, run, _⟩ | ⟨first, prepared, rest, rfl, prepares, run⟩
  · exact absurd committed (not_committed_of_keepsFlag (run.asked preparation))
  have prepares := prepares.asked preparation
  have run : Prog.Finishes (.call (I := Runtime) (.setRouteActivated false) fun _ =>
      (untilCancelled (executor.deployInner { request, prepared }) >>= fun result => do
        DockerRuntimeExecutor.cleanupFailed { request, prepared } result
        let cleaned : Except RuntimeError Unit ←
          Fallible.attempt (WorkspaceManager.cleanup prepared.workspace)
        warnOnError cleaned fun error =>
          s!"workspace cleanup warning for {executor.workspace.rootPath prepared.workspace}: {error.message}"
        DockerRuntimeExecutor.dropDeployment
        Fallible.ofExcept result
        return deploymentOutput request.payload.resources prepared.appliedResources :
        RuntimeM CommandOutput).run) rest outcome := run
  cases run with
  | @call _ _ reset rest _ run =>
  cases reset
  have deploys := keepsCutover_deployInner executor { request, prepared }
  rcases Fallible.finishes_bind run with ⟨_, run, _⟩ | ⟨raced, result, last, rfl, race, run⟩
  · obtain ⟨_, same, _⟩ := finishes_untilCancelled deploys run
    cases same
  let deployment : Deployment := { request, prepared }
  have finishes := @finishes_afterDeployment executor deployment
  obtain ⟨last_keeps, rfl⟩ := finishes run
  have committed : Committed raced := by
    rcases List.mem_append.mp committed with member | member
    · exact absurd member (not_committed_of_keepsFlag prepares)
    · rcases List.mem_cons.mp member with same | member
      · cases same
      · rcases List.mem_append.mp member with member | member
        · exact member
        · exact absurd member (not_committed_of_keepsFlag last_keeps)
  obtain ⟨_, same, ended⟩ := finishes_untilCancelled deploys race
  cases same
  rcases ended with ended | ⟨before, op, after, rfl, ended⟩ | ⟨before, op, left, rfl, asked⟩
  · rcases finishes_deployInner ended with asked | ⟨builder, before, final, rfl, _, commits⟩
    · exact absurd committed (not_committed_of_keepsFlag asked)
    · exact ⟨prepared, builder, result, first ++ Event.done (I := Runtime)
        (.setRouteActivated false) () :: before, final, final, last, by simp, commits, .inl rfl, rfl⟩
  · have read : FlagRead flag (first ++ Event.done (I := Runtime) (.setRouteActivated false) () ::
        (before ++ .fired .cancelled op :: Event.done (I := Runtime) .routeActivated true ::
          (after ++ last))) := by
      simpa using read
    have cut : Committed before :=
      (committed_of_flagAfter (flag_of_read read).symm).resolve_left nofun
    rcases finishes_deployInner ended with asked | ⟨builder, earlier, final, same, asked, commits⟩
    · exact absurd cut (not_committed_of_keepsFlag (Prog.asked_append.mp asked).1)
    · obtain ⟨between, rfl, rfl⟩ := cutover_before same (not_committed_of_keepsFlag asked) cut
      refine ⟨prepared, builder, result, first ++ Event.done (I := Runtime)
        (.setRouteActivated false) () :: earlier, between ++ after, _, last, ?_, commits,
        .inr ⟨between, op, after, rfl, rfl⟩, rfl⟩
      simp
  · -- the flag was still unset when the cancellation was seen
    have read : FlagRead flag (first ++ Event.done (I := Runtime) (.setRouteActivated false) () ::
        (before ++ .fired .cancelled op :: Event.done (I := Runtime) .routeActivated false ::
          (.abandoned op left :: last))) := by
      simpa using read
    have cut : Committed before := by
      rcases List.mem_append.mp committed with member | member
      · exact member
      · rcases member with _ | ⟨_, _ | ⟨_, _ | ⟨_, member⟩⟩⟩
        cases member
    have set : flagAfter false before = true := flagAfter_of_committed asked (.inr cut)
    rw [← flag_of_read read] at set
    cases set

/-- The flag is taken back only where it has not been set. -/
def ResetsBefore (h : History Runtime) (op : RuntimeOp) : Prop :=
  op = .setRouteActivated false → ¬Committed h

theorem warranted_runDeployment (executor : DockerRuntimeExecutor) (request : DeployProjectRequest) :
    (executor.runDeployment request).run.Warranted ResetsBefore (fun _ _ => True) [] := by
  apply Fallible.warranted_bind
  have preparation := keepsFlag_prepareDeployment executor request
  apply Prog.warranted_mono (Prog.warranted_of_allOps preparation fun _ _ keeps same =>
    absurd same (keeps false))
  rintro (error | prepared) h ⟨prepares, rfl, finishes⟩
  · trivial
  refine Prog.warranted_perform_bind
    (fun _ => not_committed_of_keepsFlag (finishes.asked preparation)) fun _ => ?_
  have deploys : Fallible.AllOps KeepsCutover
      (untilCancelled (executor.deployInner { request, prepared })) := by
    apply Prog.allOps_bind
    · apply Prog.allOps_race (keepsCutover_deployInner executor _)
      intro rest kept
      refine ⟨nofun, fun activated => ?_⟩
      cases activated with
      | true => exact kept
      | false => exact Prog.allOps_drop kept trivial
    · exact fun _ => trivial
  have ops := Fallible.allOps_bind deploys fun result =>
    (keepsFlag_afterDeployment executor { request, prepared } result).mono KeepsFlag.keepsCutover
  apply Prog.warranted_mono (Prog.warranted_of_allOps ops fun _ _ kept same => absurd same kept)
  exact fun _ _ _ => trivial

end Runs

section Stays

variable {executor : DockerRuntimeExecutor} {request : DeployProjectRequest} {thread : ThreadId}
  {names : Text → Text} {node node' : Node} {h : History Runtime}

/-- The flag that is set stays set, and is set by the cutover. -/
theorem activated_of_done {op : RuntimeOp} {res : op.Res} (resets : ResetsBefore h op)
    (holds : Committed h → node.activated thread = true)
    (step : (sharing thread names).step node op res node')
    (committed : Committed (h ++ [Event.done (I := Runtime) op res])) :
    node'.activated thread = true := by
  by_cases keeps : KeepsFlag op
  · rw [Node.activated_of_step keeps step.1]
    apply holds
    rcases List.mem_append.mp committed with member | member
    · exact member
    · cases List.mem_singleton.mp member
      exact absurd rfl (keeps true)
  · unfold KeepsFlag at keeps
    push Not at keeps
    obtain ⟨value, rfl⟩ := keeps
    obtain rfl : node' = _ := step.1
    cases value with
    | true => exact Function.update_self ..
    | false =>
        rcases List.mem_append.mp committed with member | member
        · exact absurd member (resets rfl)
        · cases List.mem_singleton.mp member

theorem activated_of_abandoned {op : RuntimeOp} {outcome : Option op.Res}
    (holds : Committed h → node.activated thread = true) (left : node.leave op outcome node')
    (committed : Committed (h ++ [Event.abandoned (I := Runtime) op outcome])) :
    node'.activated thread = true := by
  rw [Node.activated_of_leave left]
  apply holds
  rcases List.mem_append.mp committed with member | member
  · exact member
  · cases List.mem_singleton.mp member

/-- Wherever a run comes behind its cutover, the flag is set. -/
theorem activated_of_committed {rest : Prog Runtime (Except RuntimeError CommandOutput)}
    (comes : Prog.Comes (sharing thread names) (executor.runDeployment request).run node [] rest
      node' h) (committed : Committed h) : node'.activated thread = true := by
  let flagged (node : Node) (h : History Runtime) : Prop :=
    Committed h → node.activated thread = true
  have known : flagged node' h := Prog.comes_of_warranted (S := sharing thread names)
    (fun resets holds step => activated_of_done resets holds step)
    (fun _ holds left => activated_of_abandoned holds left)
    (fun holds committed => by
      apply holds
      rcases List.mem_append.mp committed with member | member
      · exact member
      · cases List.mem_singleton.mp member)
    (fun holds same committed => same.trans (holds committed))
    (warranted_runDeployment executor request) nofun comes
  exact known committed

/-- A run of a deployment that had its cutover has been finalized. -/
theorem finalized_of_run {outcome : Except RuntimeError CommandOutput}
    (run : Exec (sharing thread names) (executor.runDeployment request).run node [] outcome
      node' h) (committed : Committed h) : Finalized request outcome h := by
  have starts : FlagRead (node.activated thread) [] := by
    intro before answer after same
    simp at same
  have flagged := @flagRead_preserved thread names (node.activated thread)
  have known := Prog.wp_sound _ run (Prog.wp_of_allOps flagged
    (Prog.allOps_of_forall (fun _ => trivial) _) ⟨rfl, starts⟩)
  obtain ⟨added, rfl, finishes⟩ := Prog.finishes_of_exec run
  exact finalized_of_finishes finishes known.2 committed

/-- Behind the cutover a run asks for nothing that touches its deployment. -/
theorem keeps_of_comes {rest : Prog Runtime (Except RuntimeError CommandOutput)} {next : Node}
    (comes : Prog.Comes (sharing thread names) (executor.runDeployment request).run node [] rest
      node' h) (committed : Committed h) (acts : Prog.Acts (sharing thread names) rest node' next) :
    KeepsDeployment request node' next := by
  have activated := activated_of_committed comes committed
  have calm := Prog.safe_comes (C := undoesNothing request names thread) id comes
    (calm_runDeployment executor)
  cases acts with
  | call res step =>
      rcases (calm _ .refl).1 activated with ⟨value, rfl⟩ | spares
      · obtain rfl : next = _ := step.1
        exact ⟨fun _ member _ => member, fun present => present, rfl⟩
      · exact keeps_of_step spares step
  | abandon outcome left =>
      rcases (calm _ .refl).1 activated with ⟨value, rfl⟩ | spares
      · obtain rfl : next = _ := left.2
        exact ⟨fun _ member _ => member, fun present => present, rfl⟩
      · exact keeps_of_leave spares left

end Stays

/-- After the cutover no step of the run touches what it has deployed, and the run ends behind its
finalization. -/
theorem committed_deployment_stays (executor : DockerRuntimeExecutor)
    (request : DeployProjectRequest) (thread : ThreadId) (names : Text → Text) (node : Node) :
    (∀ rest node₁ node₂ h,
      Prog.Comes (sharing thread names) (executor.runDeployment request).run node [] rest node₁ h →
      Committed h → Prog.Acts (sharing thread names) rest node₁ node₂ →
      KeepsDeployment request node₁ node₂) ∧
    ∀ outcome node' h,
      Exec (sharing thread names) (executor.runDeployment request).run node [] outcome node' h →
      Committed h → Finalized request outcome h := by
  constructor
  · intro rest node₁ node₂ h comes committed acts
    exact keeps_of_comes comes committed acts
  · intro outcome node' h run committed
    exact finalized_of_run run committed

/-! ### A deployment that comes to its end -/

namespace Sample

/-- What the script prints of a container that is inspected. -/
theorem stdout_of_inspect {thread : ThreadId} {h : History Runtime} {node node' : Node}
    {spec : CommandSpec} {reference : Text} {container : Container} {result : ProcessResult}
    (answered : script.answer thread h node (.process spec) = some (result, node'))
    (line : spec.line = .docker (.inspect nameFormat reference))
    (found : node.docker.resolve reference = some container) (succeeded : result.success = true) :
    result.stdout = [nameLine container.isUp container.name] := by
  have printed : script.lines node.docker spec = [nameLine container.isUp container.name] := by
    simp only [NodeScript.lines, line, script, inspection, found]
    rfl
  simp only [NodeScript.answer] at answered
  split at answered
  · cases answered
    rw [NodeScript.result_stdout, printed]
  · cases answered
    cases succeeded

/-- What is named is the candidate. -/
def namesCandidate (node : Node) : RuntimeOp → Bool
  | .process spec =>
      match spec.line.reference with
      | some reference => (node.docker.resolve reference).any fun container =>
          container.name = (deployment 1).container
      | none => true
  | _ => true

theorem sound_sharing : ((script.script 0).guarded namesCandidate).Sound
    (sharing 0 fun _ => (deployment 1).container) where
  answer := by
    intro h node op res node' answered
    obtain ⟨step, named⟩ := ((script.sound 0).guarded namesCandidate).answer answered
    have played : script.answer 0 h node op = some (res, node') := by
      simp only [Script.guarded, named, if_true] at answered
      exact answered
    refine ⟨step, ?_, ?_⟩
    · cases op with
      | process spec =>
          intro reference container about found
          simpa [namesCandidate, about, found] using named
      | _ => trivial
    · cases op with
      | process spec =>
          intro reference line succeeded
          have about : spec.line.reference = some reference := by
            rw [line]
            rfl
          simp only [namesCandidate, about] at named
          obtain ⟨container, found, _⟩ := (Option.any_eq_true ..).mp named
          exact ⟨container, container.isUp, found, stdout_of_inspect played line found succeeded⟩
      | _ => trivial
  leave := (script.sound 0).leave

/-- The entry of the cutover. -/
def isCutover : Event Runtime → Bool
  | .done (.setRouteActivated true) _ => true
  | _ => false

/-- The entry of an operation that was carried out. -/
def isDone : Event Runtime → Bool
  | .done _ _ => true
  | _ => false

end Sample

/-- A deployment of which nothing goes wrong has its cutover, keeps what it has deployed where it comes to
its last step, and ends behind its finalization. -/
theorem committed_deployment_stays_sample : ∃ outcome node' h,
    Exec (sharing 0 fun _ => (Sample.deployment 1).container)
      (Sample.executor.runDeployment (Sample.deployment 1)).run Sample.node [] outcome node' h ∧
    Committed h ∧ Finalized (Sample.deployment 1) outcome h ∧
    ∃ rest node₁ node₂ h₁, Prog.Comes (sharing 0 fun _ => (Sample.deployment 1).container)
      (Sample.executor.runDeployment (Sample.deployment 1)).run Sample.node [] rest node₁ h₁ ∧
      Committed h₁ ∧ KeepsDeployment (Sample.deployment 1) node₁ node₂ := by
  obtain ⟨keeps, finalized⟩ := committed_deployment_stays Sample.executor (Sample.deployment 1) 0
    (fun _ => (Sample.deployment 1).container) Sample.node
  have finished : ∃ ended, Prog.play ((Sample.script.script 0).guarded Sample.namesCandidate)
      (Sample.executor.runDeployment (Sample.deployment 1)).run Sample.node [] = some ended ∧
      (ended.2.2.dropLast.any Sample.isCutover && ended.2.2.getLast?.any Sample.isDone) = true := by
    apply (Option.any_eq_true ..).mp
    decide +kernel
  obtain ⟨⟨outcome, node', h⟩, played, ended⟩ := finished
  obtain ⟨cut, works⟩ := Bool.and_eq_true_iff.mp ended
  have run := Prog.play_sound Sample.sound_sharing played
  obtain ⟨last, isLast, carriedOut⟩ := (Option.any_eq_true ..).mp works
  have whole : h = h.dropLast ++ [last] := (List.dropLast_append_getLast? last isLast).symm
  have committed : Committed h.dropLast := by
    obtain ⟨event, member, isCut⟩ := List.any_eq_true.mp cut
    unfold Sample.isCutover at isCut
    split at isCut
    · exact member
    · cases isCut
  have all : Committed h := List.dropLast_subset h committed
  cases last with
  | done op res =>
      obtain ⟨rest, node₁, node₂, comes, acts⟩ := Prog.comes_of_exec run whole
      exact ⟨outcome, node', h, run, all, finalized outcome node' h run all, rest, node₁, node₂,
        h.dropLast, comes, committed, keeps rest node₁ node₂ h.dropLast comes committed acts⟩
  | abandoned | fired => cases carriedOut

end SakalaAgent
