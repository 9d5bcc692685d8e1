/-
Module: SakalaAgent.Proofs.Stopping
Layer: Proofs
Purpose: What the commands that stop a workload do to its container, in every state the container can
  be in, when Docker, the router and the reporter do what they are asked for.
Trusted boundary: the surroundings that oblige: `docker stop` succeeds on a container that runs or is
  restarted, plain `docker rm` on the others, file operations where they can, and listings, reloads
  and reports.
Main exports: DockerState.Target, Obliges, ReallyStops, really_stops_exact,
  restarting_workload_is_not_stopped
-/
import SakalaAgent.Proofs.Workloads
import SakalaAgent.Runtime.NodeScript

namespace SakalaAgent

open Async

/-! ### The workload of a command -/

/-- What is captured begins with a first line that fits. -/
theorem captured_cons {line : Text} (lines : List Text)
    (fits : Text.byteLength (line ++ ['\n']) ≤ maxCaptureBytes) :
    ∃ more, captured (line :: lines) = line ++ '\n' :: more := by
  have single : captured [line] = [line].flatMap fun line => line ++ ['\n'] :=
    captured_eq (by simpa using fits)
  obtain ⟨more, rest⟩ := foldl_extends lines (captured [line])
  refine ⟨more, ?_⟩
  rw [captured, List.foldl_cons]
  show lines.foldl appendBounded (captured [line]) = _
  rw [rest, single]
  simp

/-- The managed workload of a deployment: the first container that carries its labels, with the labels
of its domain and its port, in a row that can be read, and named by the id that is printed. -/
structure DockerState.Target (docker : DockerState) (projectId deploymentId : Uuid)
    (container : Container) : Prop where
  first : (docker.listed true (workloadFilters projectId deploymentId)).head? = some container
  domain : container.label domainLabel ≠ []
  port : ∃ port, Text.parseNat (2 ^ 16) (container.label portLabel) = some port ∧ 0 < port
  plain : ∀ column ∈ workloadColumns, Plain (column.print container)
  fits : Text.byteLength (psRow workloadColumns container ++ ['\n']) ≤ maxCaptureBytes
  solid : Text.isBlank container.shortId = false
  named : docker.resolve container.shortId = some container

/-- What a command knows of its workload. -/
structure ManagedWorkload.Of (workload : ManagedWorkload) (projectId deploymentId : Uuid)
    (container : Container) : Prop where
  containerId : workload.containerId = container.shortId
  status : workload.status = container.status
  projectId : workload.projectId = projectId
  deploymentId : workload.deploymentId = deploymentId

namespace DockerState.Target

variable {docker : DockerState} {projectId deploymentId : Uuid} {container : Container}

theorem listed (target : docker.Target projectId deploymentId container) :
    ∃ others, docker.listed true (workloadFilters projectId deploymentId) = container :: others := by
  have first := target.first
  cases listed : docker.listed true (workloadFilters projectId deploymentId) with
  | nil =>
      rw [listed] at first
      cases first
  | cons other others =>
      rw [listed] at first
      cases first
      exact ⟨others, rfl⟩

theorem splitOn_psRow (target : docker.Target projectId deploymentId container) :
    Text.splitOn '\t' (psRow workloadColumns container) =
      workloadColumns.map (PsColumn.print container) := by
  apply splitOn_intercalate
  intro text member
  obtain ⟨column, known, rfl⟩ := List.mem_map.mp
    (show text ∈ workloadColumns.map (PsColumn.print container) from member)
  exact (target.plain column known).1

/-- The first line that is read is the row of the workload. -/
theorem head?_contentLines (target : docker.Target projectId deploymentId container) :
    (contentLines (captured (docker.psLines true false (workloadFilters projectId deploymentId)
      workloadColumns))).head? = some (psRow workloadColumns container) := by
  obtain ⟨others, listed⟩ := target.listed
  have feed : '\n' ∉ psRow workloadColumns container := by
    apply not_mem_intercalate (by decide)
    intro text member
    obtain ⟨column, known, rfl⟩ := List.mem_map.mp member
    exact (target.plain column known).2.1
  have carriage : '\r' ∉ psRow workloadColumns container := by
    apply not_mem_intercalate (by decide)
    intro text member
    obtain ⟨column, known, rfl⟩ := List.mem_map.mp member
    exact (target.plain column known).2.2
  have row : Text.lines (psRow workloadColumns container ++ ['\n']) =
      [psRow workloadColumns container] :=
    Text.lines_append feed carriage []
  have printed : docker.psLines true false (workloadFilters projectId deploymentId)
      workloadColumns = psRow workloadColumns container ::
        (others.map (psRow workloadColumns)).flatMap fun row => Text.lines (row ++ ['\n']) := by
    have rows : docker.psOutput true false (workloadFilters projectId deploymentId)
        workloadColumns = ((container :: others).map (psRow workloadColumns)).flatMap
          fun row => row ++ ['\n'] := by
      rw [List.flatMap_map, ← listed]
      rfl
    rw [psLines, rows, Text.lines_rows, List.map_cons, List.flatMap_cons, row]
    rfl
  obtain ⟨more, first⟩ := captured_cons
    ((others.map (psRow workloadColumns)).flatMap fun row => Text.lines (row ++ ['\n'])) target.fits
  have lines := Text.lines_append feed carriage more
  have solid : Text.isBlank (psRow workloadColumns container) = false := by
    have solid := target.solid
    simp only [Text.isBlank] at solid ⊢
    rw [psRow, workloadColumns, List.map_cons, List.map_cons, List.intercalate_cons_cons]
    simp only [PsColumn.print, List.all_append, solid, Bool.false_and]
  rw [printed, first, contentLines, lines, List.filter_cons_of_pos (by rw [solid]; rfl)]
  rfl

/-- The command finds its workload. -/
theorem parseWorkload (target : docker.Target projectId deploymentId container) :
    ∃ workload, workload.Of projectId deploymentId container ∧
      SakalaAgent.parseWorkload (captured (docker.psLines true false
        (workloadFilters projectId deploymentId) workloadColumns)) projectId deploymentId =
          .ok (some workload) := by
  obtain ⟨port, parsed, positive⟩ := target.port
  have domain : (container.label domainLabel).isEmpty = false := by
    simpa using target.domain
  unfold SakalaAgent.parseWorkload
  rw [target.head?_contentLines]
  dsimp only
  rw [target.splitOn_psRow]
  simp only [workloadColumns, List.map_cons, List.map_nil, PsColumn.print, field,
    List.getElem?_cons_succ, List.getElem?_cons_zero, Option.filter_some, domain, Bool.not_false,
    if_true, Option.bind_some, parsed, positive, decide_true]
  exact ⟨_, ⟨rfl, rfl, rfl, rfl⟩, rfl⟩

end DockerState.Target

/-! ### Surroundings that oblige -/

/-- Docker does what it is asked for, where it can. -/
def ObligesCommand (docker : DockerState) (result : ProcessResult) : CommandLine → Prop
  | .docker (.ps _ _ _ _) => result.success = true
  | .docker (.stop _ reference) =>
      (∃ container, docker.resolve reference = some container ∧ container.isListed = true) →
        result.success = true
  | .docker (.rm false reference) => result.success = true ↔
      ∃ container, docker.resolve reference = some container ∧ container.isListed = false
  | .docker (.exec _ _) => result.success = true
  | _ => True

/-- So do the file system and the reporter. -/
def Obliges (node : Node) : (op : RuntimeOp) → op.Res → Prop
  | .process spec, result => ObligesCommand node.docker result spec.line
  | .file (.read path), .error error => (node.files path = none → error.notFound = true) ∧
      ∀ content, node.files path ≠ some (.file content)
  | .file (.removeFile path), .error _ => node.files path = none
  | .event _, reported => reported = .ok ()
  | _, _ => True

/-- The node of one command that nothing goes wrong for. -/
def obliging (thread : ThreadId) : Semantics Runtime Node where
  step node op res node' := node.step thread op res node' ∧ Obliges node op res
  leave := Node.leave
  drift := Node.Lands

section Obliging

variable {thread : ThreadId} {node node' : Node} {h : History Runtime}

/-- Where nothing is in flight, nothing changes on its own. -/
theorem Node.eq_of_drifts {S : Semantics Runtime Node} (drift : S.drift = Node.Lands)
    (alone : node.inFlight = []) (drifts : Drifts S node node') : node' = node := by
  cases drifts with
  | refl => rfl
  | head first _ =>
      rw [drift] at first
      obtain ⟨before, spec, after, flying, _⟩ := first
      rw [alone] at flying
      simp at flying

theorem wp_obliging {α : Type} {op : RuntimeOp} {next : op.Res → RuntimeM α}
    {Q : Except RuntimeError α → Node → History Runtime → Prop} (alone : node.inFlight = [])
    (continued : ∀ (res : op.Res) node', node.step thread op res node' → Obliges node op res →
      node'.inFlight = [] → Prog.wp (obliging thread) Q (fun _ _ => True) (next res).run node'
        (h ++ [.done op res])) :
    Prog.wp (obliging thread) Q (fun _ _ => True)
      (Fallible.perform (I := Runtime) op >>= next).run node h := by
  apply Fallible.wp_perform.mpr
  intro node₀ drifts
  obtain rfl := Node.eq_of_drifts rfl alone drifts
  constructor
  · exact fun _ _ _ _ => trivial
  · rintro res node' ⟨step, obliges⟩
    exact continued res node' step obliges ((Node.inFlight_of_step step).trans alone)

/-- What is passed on to the reporter changes nothing. -/
theorem wp_reportFrames (phase : String) (stream : ProcessStream) (frames : List Text)
    (alone : node.inFlight = []) :
    Prog.wp (obliging thread) (fun outcome node' _ => outcome = .ok () ∧ node' = node)
      (fun _ _ => True) (reportFrames phase stream frames).run node h := by
  induction frames generalizing h with
  | nil => exact ⟨rfl, rfl⟩
  | cons frame frames ih =>
      simp only [reportFrames]
      split
      · exact ih
      · apply wp_obliging alone
        rintro delivered node' step _ alone
        obtain rfl : node' = node := step
        cases delivered with
        | ok _ => exact ih
        | error error => exact ⟨rfl, rfl⟩

theorem wp_sink (sink : OutputSink) (lines : List (ProcessStream × Text))
    (alone : node.inFlight = []) :
    Prog.wp (obliging thread) (fun outcome node' _ => outcome = .ok () ∧ node' = node)
      (fun _ _ => True) (forM lines sink.line : RuntimeM Unit).run node h := by
  induction lines generalizing h with
  | nil => exact ⟨rfl, rfl⟩
  | cons line lines ih =>
      have first : Prog.wp (obliging thread) (fun outcome node' _ => outcome = .ok () ∧ node' = node)
          (fun _ _ => True) (sink.line line).run node h := by
        cases sink with
        | null => exact ⟨rfl, rfl⟩
        | reporter phase => exact wp_reportFrames phase line.1 _ alone
      apply Fallible.wp_bind.mpr
      apply Prog.wp_mono first
      · rintro outcome after h ⟨rfl, rfl⟩
        exact ih
      · exact fun _ _ _ => trivial

/-- A process, whatever its lines are used for. -/
theorem wp_runProcess (spec : CommandSpec) (sink : OutputSink) (alone : node.inFlight = []) :
    Prog.wp (obliging thread) (fun outcome node' _ => node'.inFlight = [] ∧
        ∃ result, node.step thread (.process spec) result node' ∧
          Obliges node (.process spec) result ∧ outcome = processOutcome spec result)
      (fun _ _ => True) (runProcess spec sink).run node h := by
  apply wp_obliging alone
  intro result node' step obliges alone
  apply Fallible.wp_bind.mpr
  apply Prog.wp_mono (wp_sink sink result.lines alone)
  · rintro outcome after h ⟨rfl, rfl⟩
    dsimp only
    cases finish : result.finish with
    | error failure =>
        exact ⟨alone, result, step, obliges, by simp only [processOutcome, finish]⟩
    | ok code =>
        exact ⟨alone, result, step, obliges, by simp only [processOutcome, finish]⟩
  · exact fun _ _ _ => trivial

/-- What a step of the command leaves as it was: the route files, and that nothing is in flight. -/
structure Node.Beside (node node' : Node) : Prop where
  sites : node.files.SameSites node'.files
  alone : node'.inFlight = []

theorem Node.Beside.trans {node'' : Node} (first : node.Beside node') (second : node'.Beside node'') :
    node.Beside node'' :=
  ⟨first.sites.trans second.sites, second.alone⟩

/-- A process leaves the route files as they were. -/
theorem Node.beside_of_process {spec : CommandSpec} {result : ProcessResult}
    (alone : node'.inFlight = []) (step : node.step thread (.process spec) result node') :
    node.Beside node' := by
  obtain ⟨files, docker, same, rfl, _⟩ := step.2
  exact ⟨same, alone⟩

theorem wp_workload {projectId deploymentId : Uuid} {container : Container}
    (target : node.docker.Target projectId deploymentId container) (alone : node.inFlight = []) :
    Prog.wp (obliging thread) (fun outcome node' _ => node.Beside node' ∧
        node'.docker = node.docker ∧ ∃ workload : ManagedWorkload,
          workload.Of projectId deploymentId container ∧ outcome = .ok (some workload))
      (fun _ _ => True) (ContainerEngine.workload projectId deploymentId).run node h := by
  apply Fallible.wp_bind.mpr
  apply Prog.wp_mono (wp_runProcess _ _ alone)
  · rintro outcome node' h ⟨alone, result, step, obliges, rfl⟩
    have succeeded : result.success = true := obliges
    have listing : result.stdout = _ := step.1 succeeded
    have same : node'.docker = node.docker := step.2.docker_of_isQuiet rfl
    obtain ⟨output, read, success, printed⟩ := processOutcome_of_success succeeded
    obtain ⟨workload, known, parsed⟩ := target.parseWorkload
    rw [read]
    dsimp only
    rw [if_pos success, printed, listing, parsed]
    exact ⟨Node.beside_of_process alone step, same, workload, known, rfl⟩
  · exact fun _ _ _ => trivial

theorem wp_runContainerCommand (command : DockerCommand) (phase : String)
    (alone : node.inFlight = []) :
    Prog.wp (obliging thread) (fun outcome node' _ => node'.inFlight = [] ∧
        ∃ result, node.step thread (.process (ContainerEngine.docker command)) result node' ∧
          Obliges node (.process (ContainerEngine.docker command)) result ∧
          (result.success = true → outcome = .ok ()) ∧
          (result.success = false → outcome.isOk = false))
      (fun _ _ => True) (ContainerEngine.runContainerCommand command phase).run node h := by
  apply Fallible.wp_bind.mpr
  apply Prog.wp_mono (wp_runProcess _ _ alone)
  · rintro outcome node' h ⟨alone, result, step, obliges, rfl⟩
    cases succeeded : result.success with
    | true =>
        obtain ⟨output, read, success, _⟩ := processOutcome_of_success succeeded
        rw [read]
        dsimp only
        rw [if_pos success]
        exact ⟨alone, result, step, obliges, fun _ => rfl, fun failed => by simp [succeeded] at failed⟩
    | false =>
        unfold processOutcome
        cases finish : result.finish with
        | error failure =>
            exact ⟨alone, result, step, obliges, fun success => by simp [succeeded] at success,
              fun _ => rfl⟩
        | ok code =>
            dsimp only
            rw [if_neg (by simp [succeeded])]
            exact ⟨alone, result, step, obliges, fun success => by simp [succeeded] at success,
              fun _ => rfl⟩
  · exact fun _ _ _ => trivial

/-- The container that a reference names is another state of the same container. -/
theorem DockerState.resolve_setStatus {docker : DockerState} {reference id status : Text}
    {plain : Plain status} {container : Container}
    (found : docker.resolve reference = some container) :
    ∃ after, (docker.setStatus id status plain).resolve reference = some after ∧
      after.id = container.id ∧
      after.status = if container.id = id then status else container.status := by
  let update : Container → Container := fun container =>
    if container.id = id then { container with status, plainStatus := plain } else container
  have sameId : ∀ container, (update container).id = container.id := by
    intro container
    dsimp only [update]
    split <;> rfl
  have sameName : ∀ container, (update container).name = container.name := by
    intro container
    dsimp only [update]
    split <;> rfl
  have mapped : (docker.setStatus id status plain).resolve reference =
      (docker.resolve reference).map update := by
    simp only [resolve, setStatus, List.find?_map, Function.comp_def]
    show ((docker.containers.find? fun container => (update container).name = reference).map update <|>
      (docker.containers.find? fun container => (update container).id = reference).map update <|>
      (docker.containers.find? fun container =>
        !reference.isEmpty && Text.startsWith (update container).id reference).map update) = _
    simp only [sameId, sameName]
    cases docker.containers.find? fun container => container.name = reference with
    | some container => rfl
    | none =>
        cases docker.containers.find? fun container => container.id = reference with
        | some container => rfl
        | none => rfl
  refine ⟨update container, by rw [mapped, found]; rfl, sameId container, ?_⟩
  dsimp only [update]
  split <;> rfl

/-- What `docker stop` leaves of a container: it runs no more, if it was up. -/
structure StoppedIfUp (container after : Container) : Prop where
  id : after.id = container.id
  listed : after.isListed = (container.isListed && !container.isUp)

theorem wp_stop {workload : ManagedWorkload} {projectId deploymentId : Uuid}
    {container : Container} (known : workload.Of projectId deploymentId container)
    (named : node.docker.resolve container.shortId = some container) (alone : node.inFlight = []) :
    Prog.wp (obliging thread) (fun outcome node' _ => node.Beside node' ∧ outcome = .ok () ∧
        ∃ after, node'.docker.resolve container.shortId = some after ∧ StoppedIfUp container after)
      (fun _ _ => True) (ContainerEngine.stop workload 10).run node h := by
  unfold ContainerEngine.stop
  rw [known.status, known.containerId]
  split
  · rename_i isUp
    apply Prog.wp_mono (wp_runContainerCommand _ _ alone)
    · rintro outcome node' h ⟨alone, result, step, obliges, ok, _⟩
      have isListed : container.isListed = true := by
        simp only [Container.isListed, isListedStatus, isUp, Bool.true_or]
      have succeeded : result.success = true := obliges ⟨container, named, isListed⟩
      refine ⟨Node.beside_of_process alone step, ok succeeded, ?_⟩
      obtain ⟨files, docker, _, rfl, effect | ⟨failed, _⟩⟩ := step.2
      · cases effect with
        | stop graceSeconds reference stopped status plain found ended =>
            obtain rfl : stopped = container := Option.some.inj (found.symm.trans named)
            have moved : ∃ after,
                (node.docker.setStatus stopped.id status plain).resolve stopped.shortId =
                some after ∧ after.id = stopped.id ∧
                after.status = if stopped.id = stopped.id then status else stopped.status :=
              DockerState.resolve_setStatus named
            obtain ⟨after, resolved, id, became⟩ := moved
            refine ⟨after, resolved, id, ?_⟩
            have up : stopped.isUp = true := isUp
            rw [up, Bool.not_true, Bool.and_false, Container.isListed, became, if_pos rfl, ended]
      · rw [succeeded] at failed
        cases failed
    · exact fun _ _ _ => trivial
  · rename_i isDown
    have down : container.isUp = false := Bool.eq_false_iff.mpr isDown
    refine ⟨⟨fun _ => rfl, alone⟩, rfl, container, named, rfl, ?_⟩
    rw [down, Bool.not_false, Bool.and_true]

theorem wp_validateAndReload (manager : RouteManager) (alone : node.inFlight = []) :
    Prog.wp (obliging thread) (fun outcome node' _ => node.Beside node' ∧ outcome = .ok () ∧
        node'.docker = node.docker)
      (fun _ _ => True) manager.validateAndReload.run node h := by
  have each : ∀ (actions : List String) (node : Node) h, node.inFlight = [] →
      Prog.wp (obliging thread) (fun outcome node' _ => node.Beside node' ∧ outcome = .ok () ∧
          node'.docker = node.docker)
        (fun _ _ => True) (forM actions (fun action => do
          let _ ← runChecked (manager.command action) ("caddy-" ++ action)
          return ()) : RuntimeM Unit).run node h := by
    intro actions
    induction actions with
    | nil => exact fun node h alone => ⟨⟨fun _ => rfl, alone⟩, rfl, rfl⟩
    | cons action actions ih =>
        intro node h alone
        rw [List.forM_cons]
        apply Fallible.wp_bind.mpr
        apply Fallible.wp_bind.mpr
        apply Fallible.wp_bind.mpr
        apply Prog.wp_mono (wp_runProcess _ _ alone)
        · rintro outcome node' h ⟨alone, result, step, obliges, rfl⟩
          have succeeded : result.success = true := obliges
          obtain ⟨output, read, success, _⟩ := processOutcome_of_success succeeded
          have same : node'.docker = node.docker := step.2.docker_of_isQuiet rfl
          have first : node.Beside node' := Node.beside_of_process alone step
          rw [read]
          dsimp only
          rw [if_pos success]
          apply Prog.wp_mono (ih node' h alone)
          · exact fun _ _ _ ⟨beside, ok, docker⟩ => ⟨first.trans beside, ok, docker.trans same⟩
          · exact fun _ _ _ => trivial
        · exact fun _ _ _ => trivial
  exact each _ node h alone

/-- The route file of the project, if there is one, is one the route manager takes away. -/
def Node.RouteIsOwned (node : Node) (projectId : Uuid) : Prop :=
  ∀ entry, node.files (siteFile projectId) = some entry → ∃ content, entry = .file content ∧
    (Text.startsWith content.text (legacyPrefix projectId) = true ∨
      Text.startsWith content.text (currentPrefix projectId) = true)

theorem wp_readIfPresent_obliging (path : FilePath) (alone : node.inFlight = []) :
    Prog.wp (obliging thread) (fun outcome node' _ => node'.inFlight = [] ∧
        node'.docker = node.docker ∧ node'.files = node.files ∧ match outcome with
          | .ok found => node.files path = found.map .file
          | .error _ => ∃ entry, node.files path = some entry ∧ ∀ content, entry ≠ .file content)
      (fun _ _ => True) (readIfPresent path).run node h := by
  apply wp_obliging alone
  rintro (error | content) node' step (obliges : Obliges node (.file (.read path)) _) alone
  · obtain ⟨files, ⟨rfl, absent⟩, rfl⟩ := step
    dsimp only
    split
    · rename_i notFound
      exact ⟨alone, rfl, rfl, absent notFound⟩
    · rename_i other
      refine ⟨alone, rfl, rfl, ?_⟩
      cases found : node.files path with
      | none => exact absurd (obliges.1 found) other
      | some entry => exact ⟨entry, rfl, fun content same => obliges.2 content (same ▸ found)⟩
  · obtain ⟨files, ⟨rfl, found⟩, rfl⟩ := step
    exact ⟨alone, rfl, rfl, found⟩

theorem wp_removeRoute (manager : RouteManager) (identity : RouteIdentity)
    (alone : node.inFlight = []) :
    Prog.wp (obliging thread) (fun outcome node' _ => node'.inFlight = [] ∧
        node'.docker = node.docker ∧
        (outcome.isOk = true ↔ node.RouteIsOwned identity.projectId))
      (fun _ _ => True) (manager.removeRoute identity).run node h := by
  apply Fallible.wp_bind.mpr
  apply Prog.wp_mono (wp_readIfPresent_obliging _ alone)
  · rintro (error | found) node' h ⟨alone, docker, files, read⟩
    · obtain ⟨entry, present, noFile⟩ := read
      refine ⟨alone, docker, fun ok => (by cases ok), fun owned => ?_⟩
      obtain ⟨content, same, _⟩ := owned entry present
      exact absurd same (noFile content)
    · cases found with
      | none =>
          have owned : node.RouteIsOwned identity.projectId := by
            intro entry present
            rw [read] at present
            cases present
          exact ⟨alone, docker, fun _ => owned, fun _ => rfl⟩
      | some content =>
          have ownedIff : node.RouteIsOwned identity.projectId ↔
              (Text.startsWith content.text (legacyPrefix identity.projectId) = true ∨
                Text.startsWith content.text (currentPrefix identity.projectId) = true) := by
            constructor
            · intro owned
              obtain ⟨same, isSame, starts⟩ := owned _ read
              cases isSame
              exact starts
            · intro starts entry present
              obtain rfl := Option.some.inj (read.symm.trans present)
              exact ⟨content, rfl, starts⟩
          dsimp only
          split
          · rename_i foreign
            refine ⟨alone, docker, fun ok => (by cases ok), fun owned => ?_⟩
            simp only [Bool.and_eq_true, Bool.not_eq_true'] at foreign
            rcases ownedIff.mp owned with legacy | current
            · rw [foreign.1] at legacy
              cases legacy
            · rw [foreign.2] at current
              cases current
          · rename_i notForeign
            have owned : node.RouteIsOwned identity.projectId := by
              apply ownedIff.mpr
              by_contra neither
              rw [not_or, Bool.not_eq_true, Bool.not_eq_true] at neither
              exact notForeign (by rw [neither.1, neither.2]; rfl)
            split
            · exact ⟨alone, docker, fun _ => owned, fun _ => rfl⟩
            · apply Fallible.wp_bind.mpr
              apply wp_obliging alone
              rintro (error | removed) after step obliges alone
              · have present : node.files (siteFile identity.projectId) = none := by
                  rw [← files]
                  exact obliges
                rw [read] at present
                cases present
              · obtain ⟨_, _, rfl⟩ := step
                exact ⟨alone, docker, fun _ => owned, fun _ => rfl⟩
  · exact fun _ _ _ => trivial

theorem wp_deactivate (manager : RouteManager) (identity : RouteIdentity)
    (alone : node.inFlight = []) :
    Prog.wp (obliging thread) (fun outcome node' _ => node'.inFlight = [] ∧
        node'.docker = node.docker ∧
        (outcome.isOk = true ↔ node.RouteIsOwned identity.projectId))
      (fun _ _ => True) (manager.deactivate identity).run node h := by
  have body : ∀ (node : Node) h, node.inFlight = [] → Prog.wp (obliging thread)
      (fun outcome node' _ => node'.inFlight = [] ∧ node'.docker = node.docker ∧
        (outcome.isOk = true ↔ node.RouteIsOwned identity.projectId)) (fun _ _ => True)
      (do
        let snapshot ← manager.removeRoute identity
        if snapshot.changed then
          manager.reloadOrRestore snapshot
          return true
        else return false : RuntimeM Bool).run node h := by
    intro node h alone
    apply Fallible.wp_bind.mpr
    apply Prog.wp_mono (wp_removeRoute manager identity alone)
    · rintro (error | snapshot) node' h ⟨alone, docker, owned⟩
      · exact ⟨alone, docker, owned⟩
      · dsimp only
        split
        · apply Fallible.wp_bind.mpr
          apply Fallible.wp_attempt.mpr
          apply Prog.wp_mono (wp_validateAndReload manager alone)
          · rintro outcome after h ⟨beside, rfl, same⟩
            exact ⟨beside.alone, same.trans docker, owned⟩
          · exact fun _ _ _ => trivial
        · exact ⟨alone, docker, owned⟩
    · exact fun _ _ _ => trivial
  apply wp_obliging alone
  rintro _ locked ⟨_, rfl⟩ _ alone
  apply Fallible.wp_attempt.mpr
  apply Prog.wp_mono (body _ _ alone)
  · rintro outcome node' h ⟨alone, docker, owned⟩
    apply wp_obliging alone
    intro _ given step _ alone
    obtain rfl : given = _ := step
    exact ⟨alone, docker, owned⟩
  · exact fun _ _ _ => trivial

/-- `docker rm` takes away a container that does not run and is not restarted. -/
theorem wp_remove {workload : ManagedWorkload} {container : Container}
    (named : node.docker.resolve workload.containerId = some container)
    (alone : node.inFlight = []) :
    Prog.wp (obliging thread) (fun outcome node' _ => node'.inFlight = [] ∧
        if container.isListed then outcome.isOk = false
        else outcome = .ok () ∧ node'.docker = node.docker.remove container.id)
      (fun _ _ => True) (ContainerEngine.remove workload).run node h := by
  apply Prog.wp_mono (wp_runContainerCommand _ _ alone)
  · rintro outcome node' h ⟨alone, result, step, obliges, ok, failed⟩
    have obliges : result.success = true ↔ ∃ container,
      node.docker.resolve workload.containerId = some container ∧ container.isListed = false := obliges
    refine ⟨alone, ?_⟩
    split
    · rename_i isListed
      apply failed
      apply Bool.eq_false_iff.mpr
      intro succeeded
      obtain ⟨other, found, unlisted⟩ := obliges.mp succeeded
      obtain rfl := Option.some.inj (named.symm.trans found)
      rw [unlisted] at isListed
      cases isListed
    · rename_i isListed
      have succeeded : result.success = true :=
        obliges.mpr ⟨container, named, Bool.eq_false_iff.mpr isListed⟩
      refine ⟨ok succeeded, ?_⟩
      obtain ⟨files, docker, _, rfl, effect | ⟨failed, _⟩⟩ := step.2
      · cases effect with
        | rm isForced reference removed found removable =>
            obtain rfl : removed = container := Option.some.inj (found.symm.trans named)
            rfl
      · rw [succeeded] at failed
        cases failed
  · exact fun _ _ _ => trivial

theorem wp_emitEvent (eventType message : String) (metadata : Json) (alone : node.inFlight = []) :
    Prog.wp (obliging thread) (fun outcome node' _ => outcome = .ok () ∧ node' = node)
      (fun _ _ => True) (emitEvent eventType message metadata).run node h := by
  apply wp_obliging alone
  intro reported node' step obliges _
  obtain rfl : node' = node := step
  obtain rfl : reported = .ok () := obliges
  exact ⟨rfl, rfl⟩

/-! ### Stop and Sleep -/

/-- The container is restarted again and again. -/
def Container.isRestarting (container : Container) : Bool :=
  container.isListed && !container.isUp

/-- The command succeeded, and the container is gone, or is kept and neither runs nor is restarted. -/
def ReallyStops (remove : Bool) (container : Container) (outcome : Except RuntimeError CommandOutput)
    (node : Node) : Prop :=
  outcome.isOk = true ∧
    if remove then ∀ other ∈ node.docker.containers, other.id ≠ container.id
    else ∃ after ∈ node.docker.containers, after.id = container.id ∧ after.isListed = false

variable {projectId deploymentId : Uuid} {container : Container}

theorem wp_stopWorkload (executor : DockerRuntimeExecutor) {workload : ManagedWorkload}
    (remove : Bool) (known : workload.Of projectId deploymentId container)
    (named : node.docker.resolve container.shortId = some container) (alone : node.inFlight = []) :
    Prog.wp (obliging thread) (fun outcome node' _ => ReallyStops remove container outcome node' ↔
        node.RouteIsOwned projectId ∧ container.isRestarting = false)
      (fun _ _ => True) (executor.stopWorkload workload remove).run node h := by
  apply Fallible.wp_bind.mpr
  apply Prog.wp_mono (wp_stop known named alone)
  · rintro outcome node₁ h ⟨beside, rfl, after, resolved, sameId, listed⟩
    have ownedIff : node₁.RouteIsOwned projectId ↔ node.RouteIsOwned projectId := by
      unfold Node.RouteIsOwned siteFile
      rw [beside.sites]
    apply Fallible.wp_bind.mpr
    apply Prog.wp_mono (wp_deactivate _ _ beside.alone)
    · rintro (error | changed) node₂ h ⟨alone, docker, owned⟩
      · rw [known.projectId, ownedIff] at owned
        constructor
        · rintro ⟨ok, _⟩
          cases ok
        · rintro ⟨isOwned, _⟩
          cases owned.mpr isOwned
      · have isOwned : node.RouteIsOwned projectId := by
          rw [known.projectId, ownedIff] at owned
          exact owned.mp rfl
        rw [← docker] at resolved
        have restarting : after.isListed = container.isRestarting := listed
        cases remove with
        | false =>
            apply Fallible.wp_bind.mpr
            apply Fallible.wp_bind.mpr
            apply Prog.wp_mono (wp_emitEvent _ _ _ alone)
            · rintro outcome node₃ h ⟨rfl, rfl⟩
              constructor
              · rintro ⟨_, other, member, otherId, unlisted⟩
                have same : other = after := DockerState.eq_of_id
                  (DockerState.resolve_answers resolved).1 member (otherId.trans sameId.symm)
                rw [← restarting, ← same]
                exact ⟨isOwned, unlisted⟩
              · rintro ⟨_, quiet⟩
                exact ⟨rfl, after, (DockerState.resolve_answers resolved).1, sameId,
                  restarting.trans quiet⟩
            · exact fun _ _ _ => trivial
        | true =>
            have namedAfter : node₂.docker.resolve workload.containerId = some after := by
              rw [known.containerId]
              exact resolved
            apply Fallible.wp_bind.mpr
            apply Prog.wp_mono (wp_remove namedAfter alone)
            · rintro outcome node₃ h ⟨alone, removed⟩
              rw [restarting] at removed
              cases isRestarting : container.isRestarting with
              | true =>
                  rw [isRestarting, if_pos rfl] at removed
                  cases outcome with
                  | ok _ => cases removed
                  | error error =>
                      constructor
                      · rintro ⟨ok, _⟩
                        cases ok
                      · rintro ⟨_, quiet⟩
                        cases quiet
              | false =>
                  rw [isRestarting, if_neg Bool.false_ne_true] at removed
                  obtain ⟨rfl, gone⟩ := removed
                  apply Fallible.wp_bind.mpr
                  apply Prog.wp_mono (wp_emitEvent _ _ _ alone)
                  · rintro outcome node₄ h ⟨rfl, rfl⟩
                    refine ⟨fun _ => ⟨isOwned, rfl⟩, fun _ => ⟨rfl, ?_⟩⟩
                    intro other member same
                    rw [gone] at member
                    have kept := (List.mem_filter.mp member).2
                    simp [sameId, same] at kept
                  · exact fun _ _ _ => trivial
            · exact fun _ _ _ => trivial
    · exact fun _ _ _ => trivial
  · exact fun _ _ _ => trivial

theorem wp_runStop (executor : DockerRuntimeExecutor) {request : WorkloadLifecycleRequest}
    (remove : Bool) (target : node.docker.Target request.projectId request.deploymentId container)
    (alone : node.inFlight = []) :
    Prog.wp (obliging thread) (fun outcome node' _ => ReallyStops remove container outcome node' ↔
        node.RouteIsOwned request.projectId ∧ container.isRestarting = false)
      (fun _ _ => True) (executor.runStop request remove).run node h := by
  apply Fallible.wp_bind.mpr
  apply Prog.wp_mono (wp_workload target alone)
  · rintro outcome node₁ h ⟨beside, docker, workload, known, rfl⟩
    have named : node₁.docker.resolve container.shortId = some container := by
      rw [docker]
      exact target.named
    apply Prog.wp_mono (wp_stopWorkload executor remove known named beside.alone)
    · intro outcome node' _ stops
      rw [stops]
      unfold Node.RouteIsOwned siteFile
      rw [beside.sites]
    · exact fun _ _ _ => trivial
  · exact fun _ _ _ => trivial

/-! ### There is a run -/

/-- A node that works. -/
def working : NodeScript where
  prints _ _ := []

/-- The operation is answered whoever holds what. -/
def IsFree : RuntimeOp → Prop
  | .lock _ => False
  | .release _ => False
  | .acquireBuildPermit => False
  | _ => True

/-- A command of Docker succeeds if it can be carried out. -/
theorem success_working {spec : CommandSpec} {command : DockerCommand} {result : ProcessResult}
    (line : spec.line = .docker command)
    (answered : working.answer thread h node (.process spec) = some (result, node')) :
    result.success = (node.docker.perform command).isSome := by
  have settle : working.settle h node.docker spec = node.docker.perform command := by
    simp only [NodeScript.settle, line]
    rfl
  simp only [NodeScript.answer, settle] at answered
  split at answered
  · rename_i docker performed
    cases answered
    rw [performed]
    rfl
  · rename_i failed
    cases answered
    rw [failed]
    rfl

theorem obliges_working {op : RuntimeOp} {res : op.Res}
    (answered : working.answer thread h node op = some (res, node')) : Obliges node op res := by
  cases op with
  | process spec =>
      show ObligesCommand node.docker res spec.line
      unfold ObligesCommand
      split
      · rename_i line
        rw [success_working line answered]
        rfl
      · rename_i line
        rintro ⟨container, found, _⟩
        rw [success_working line answered, DockerState.perform, found]
        rfl
      · rename_i reference line
        rw [success_working line answered, DockerState.perform]
        cases found : node.docker.resolve reference with
        | none => simp
        | some container =>
            cases isListed : container.isListed with
            | true => simp [isListed]
            | false => simp [isListed]
      · rename_i line
        rw [success_working line answered]
        rfl
      · trivial
  | file op =>
      cases answered
      cases op with
      | read path =>
          simp only [Files.answer]
          split
          · trivial
          · rename_i entry noFile found
            exact ⟨fun absent => by simp [absent] at found, fun content same =>
              noFile content (Option.some.inj (found.symm.trans same))⟩
          · rename_i absent
            exact ⟨fun _ => rfl, fun content same => by simp [absent] at same⟩
      | removeFile path =>
          simp only [Files.answer]
          split
          · trivial
          · rename_i absent
            have absent : node.files path = none := by simpa using absent
            exact absent
      | _ => trivial
  | event event =>
      cases answered
      rfl
  | _ => trivial

/-- What is free can be asked of a node that works. -/
theorem answers_working (thread : ThreadId) {op : RuntimeOp} (free : IsFree op) (node : Node) :
    ∃ res node', (obliging thread).step node op res node' ∧ node'.holder = node.holder := by
  obtain ⟨res, node', answered⟩ : ∃ res node',
      working.answer thread [] node op = some (res, node') := by
    cases op with
    | process spec =>
        simp only [NodeScript.answer]
        split
        · exact ⟨_, _, rfl⟩
        · exact ⟨_, _, rfl⟩
    | lock which => exact absurd free not_false
    | acquireBuildPermit => exact absurd free not_false
    | _ => exact ⟨_, _, rfl⟩
  have step := (working.sound thread).answer answered
  have noLock : ∀ which, op ≠ .lock which ∧ op ≠ .release which := by
    intro which
    constructor
    · rintro rfl
      exact free
    · rintro rfl
      exact free
  exact ⟨res, node', ⟨step, obliges_working answered⟩, Node.holder_of_step noLock step⟩

/-- A future that is free has a run, which leaves the locks as they are. -/
theorem runs_of_free {α : Type} {future : RuntimeM α} (free : Fallible.AllOps IsFree future)
    (thread : ThreadId) (node : Node) (h : History Runtime) : ∃ outcome node' h',
      Exec (obliging thread) future.run node h outcome node' h' ∧ node'.holder = node.holder := by
  apply Prog.exists_exec IsFree fun (after : Node) => after.holder = node.holder
  · intro op isFree after same
    obtain ⟨res, node', step, kept⟩ := answers_working thread isFree after
    exact ⟨res, node', step, kept.trans same⟩
  · intro op _ after same
    obtain ⟨outcome, node', left⟩ : ∃ outcome node',
        working.leave after op = some (outcome, node') := by
      cases op <;> exact ⟨_, _, rfl⟩
    have left := (working.sound thread).leave left
    exact ⟨outcome, node', left, (Node.holder_of_leave left).trans same⟩
  · exact free
  · rfl

theorem Spawns.free {allowed : CommandLine → Prop} {op : RuntimeOp} (spawns : Spawns allowed op) :
    IsFree op := by
  cases op with
  | process | log => trivial
  | _ => exact absurd spawns not_false

theorem free_runProcess (spec : CommandSpec) (sink : OutputSink) :
    Fallible.AllOps IsFree (runProcess spec sink) :=
  have spawns : Fallible.AllOps (Spawns fun _ => True) (runProcess spec sink) :=
    spawns_runProcess trivial sink
  spawns.mono fun _ => Spawns.free

theorem free_workload (projectId deploymentId : Uuid) :
    Fallible.AllOps IsFree (ContainerEngine.workload projectId deploymentId) := by
  apply Fallible.allOps_bind (free_runProcess _ _)
  intro output
  split <;> trivial

theorem free_runContainerCommand (command : DockerCommand) (phase : String) :
    Fallible.AllOps IsFree (ContainerEngine.runContainerCommand command phase) := by
  apply Fallible.allOps_bind (free_runProcess _ _)
  intro output
  split <;> trivial

theorem free_emitEvent (eventType message : String) (metadata : Json) :
    Fallible.AllOps IsFree (emitEvent eventType message metadata) :=
  Fallible.allOps_bind (Fallible.allOps_perform trivial) fun _ => trivial

theorem free_fileOp (op : FsOp) : Fallible.AllOps IsFree (fileOp op) :=
  Fallible.allOps_bind (Fallible.allOps_perform trivial) fun _ => trivial

theorem free_removeRoute (manager : RouteManager) (identity : RouteIdentity) :
    Fallible.AllOps IsFree (manager.removeRoute identity) := by
  have read : Fallible.AllOps IsFree (readIfPresent (siteFile identity.projectId)) := by
    apply Fallible.allOps_bind (Fallible.allOps_perform trivial)
    rintro (error | content)
    · dsimp only
      split <;> trivial
    · trivial
  apply Fallible.allOps_bind read
  rintro (_ | content)
  · trivial
  · dsimp only
    split
    · trivial
    · split
      · trivial
      · exact Fallible.allOps_bind (free_fileOp _) fun _ => trivial

theorem free_restore (snapshot : RouteSnapshot) : Fallible.AllOps IsFree snapshot.restore := by
  unfold RouteSnapshot.restore
  split
  · exact free_fileOp _
  · apply Fallible.allOps_bind (Fallible.allOps_perform trivial)
    rintro (error | _)
    · dsimp only
      split <;> trivial
    · trivial

theorem free_reloadOrRestore (manager : RouteManager) (snapshot : RouteSnapshot) :
    Fallible.AllOps IsFree (manager.reloadOrRestore snapshot) := by
  have quiet : ∀ line : CommandLine, line.isQuiet = true → True := fun _ _ => trivial
  apply Fallible.allOps_bind (Fallible.allOps_attempt
    ((spawns_validateAndReload quiet manager).mono fun _ => Spawns.free))
  rintro (error | _)
  · apply Fallible.allOps_bind (free_restore snapshot)
    intro _
    exact Fallible.allOps_bind
      ((spawns_reloadAfterRollback quiet manager).mono fun _ => Spawns.free) fun _ => trivial
  · trivial

/-- A future under the lock of the routes has the runs that it has without it. -/
theorem runs_locked {α : Type} {body : RuntimeM α} (free : Fallible.AllOps IsFree body)
    (thread : ThreadId) {node : Node} (unheld : node.holder .routes = none) (h : History Runtime) :
    ∃ outcome node' h', Exec (obliging thread) (RouteManager.locked body).run node h outcome node' h' ∧
      node'.holder .routes = none := by
  let locked : Node :=
    { node with holder := Function.update node.holder .routes (some thread) }
  obtain ⟨outcome, node₁, h₁, run, held⟩ :=
    runs_of_free free thread locked (h ++ [.done (.lock .routes) ()])
  have own : locked.holder .routes = some thread := by simp [locked]
  have holds : node₁.holder .routes = some thread := (congrFun held .routes).trans own
  let freed : Node := { node₁ with holder := released node₁.holder .routes thread }
  have given : (obliging thread).step node₁ (.release .routes) () freed := ⟨rfl, trivial⟩
  have taken : (obliging thread).step node (.lock .routes) () locked := ⟨⟨unheld, rfl⟩, trivial⟩
  have attempted : Exec (obliging thread)
      (Fallible.attempt body : RuntimeM (Except RuntimeError α)).run locked
      (h ++ [.done (.lock .routes) ()]) (.ok outcome) node₁ h₁ :=
    Prog.exec_bind run (.ret _ _ _)
  have ended : Exec (obliging thread) (Prog.call (.release .routes) fun _ => .ret outcome) node₁ h₁
      outcome freed (h₁ ++ [.done (.release .routes) ()]) :=
    .call (.refl node₁) () given (.ret _ _ _)
  refine ⟨outcome, freed, h₁ ++ [.done (.release .routes) ()], ?_, ?_⟩
  · apply Exec.call (.refl node) () taken
    exact Prog.exec_bind (p := (Fallible.attempt body : RuntimeM (Except RuntimeError α)).run)
      attempted ended
  · have released : freed.holder = Function.update node₁.holder .routes none := if_pos holds
    rw [released]
    exact Function.update_self ..

theorem runs_deactivate (manager : RouteManager) (identity : RouteIdentity) (thread : ThreadId)
    {node : Node} (unheld : node.holder .routes = none) (h : History Runtime) :
    ∃ outcome node' h', Exec (obliging thread) (manager.deactivate identity).run node h outcome
      node' h' ∧ node'.holder .routes = none := by
  apply runs_locked _ thread unheld
  apply Fallible.allOps_bind (free_removeRoute manager identity)
  intro snapshot
  split
  · exact Fallible.allOps_bind (free_reloadOrRestore manager snapshot) fun _ => trivial
  · trivial

theorem runs_runStop (executor : DockerRuntimeExecutor) (request : WorkloadLifecycleRequest)
    (remove : Bool) (thread : ThreadId) {node : Node} (unheld : node.holder .routes = none) :
    ∃ outcome node' h, Exec (obliging thread) (executor.runStop request remove).run node [] outcome
      node' h := by
  have piece : ∀ {α : Type} {future : RuntimeM α}, Fallible.AllOps IsFree future →
      ∀ (node : Node) h, node.holder .routes = none → ∃ outcome node' h',
        Exec (obliging thread) future.run node h outcome node' h' ∧ node'.holder .routes = none := by
    intro α future free node h unheld
    obtain ⟨outcome, node', h', run, same⟩ := runs_of_free free thread node h
    exact ⟨outcome, node', h', run, by rw [same, unheld]⟩
  have stop : ∀ (workload : ManagedWorkload) (node : Node) h, node.holder .routes = none →
      ∃ outcome node' h', Exec (obliging thread) (executor.stopWorkload workload remove).run node h
        outcome node' h' ∧ node'.holder .routes = none := by
    intro workload node h unheld
    have stops : Fallible.AllOps IsFree (ContainerEngine.stop workload 10) := by
      unfold ContainerEngine.stop
      split
      · exact free_runContainerCommand _ _
      · trivial
    have removes : Fallible.AllOps IsFree (onlyIf remove (ContainerEngine.remove workload)) := by
      cases remove with
      | true => exact free_runContainerCommand _ _
      | false => trivial
    apply Fallible.exists_exec_bind (piece stops node h unheld) _ fun _ holds => holds
    intro _ node h unheld
    apply Fallible.exists_exec_bind (runs_deactivate _ _ thread unheld h) _ fun _ holds => holds
    intro _ node h unheld
    apply Fallible.exists_exec_bind (piece removes node h unheld) _ fun _ holds => holds
    intro _ node h unheld
    apply piece _ node h unheld
    exact Fallible.allOps_bind (free_emitEvent _ _ _) fun _ => trivial
  have run : ∃ outcome node' h, Exec (obliging thread) (executor.runStop request remove).run node []
      outcome node' h ∧ node'.holder .routes = none := by
    apply Fallible.exists_exec_bind (piece (free_workload _ _) node [] unheld) _ fun _ holds => holds
    intro found node h unheld
    cases found with
    | some workload => exact stop workload node h unheld
    | none =>
        dsimp only
        split
        · exact ⟨_, node, h, .ret _ _ _, unheld⟩
        · apply Fallible.exists_exec_bind (runs_deactivate _ _ thread unheld h) _
            fun _ holds => holds
          exact fun _ node h unheld => ⟨_, node, h, .ret _ _ _, unheld⟩
  obtain ⟨outcome, node', h, run, _⟩ := run
  exact ⟨outcome, node', h, run⟩

end Obliging

/-- When Docker, the router and the reporter oblige, Stop and Sleep end in every case, and they really
stop a workload exactly when it is not being restarted and its route file is owned. -/
theorem really_stops_exact (executor : DockerRuntimeExecutor) (request : WorkloadLifecycleRequest)
    (remove : Bool) (thread : ThreadId) (node : Node) (container : Container)
    (target : node.docker.Target request.projectId request.deploymentId container)
    (alone : node.inFlight = []) (unheld : node.holder .routes = none) :
    ((∃ outcome node' h, Exec (obliging thread) (executor.runStop request remove).run node [] outcome
        node' h) ∧
      ∀ outcome node' h, Exec (obliging thread) (executor.runStop request remove).run node [] outcome
        node' h → ReallyStops remove container outcome node') ↔
      node.RouteIsOwned request.projectId ∧ container.isRestarting = false := by
  have decided : ∀ outcome node' h, Exec (obliging thread) (executor.runStop request remove).run node
      [] outcome node' h → (ReallyStops remove container outcome node' ↔
        node.RouteIsOwned request.projectId ∧ container.isRestarting = false) :=
    fun outcome node' h run => Prog.wp_sound _ run (wp_runStop executor remove target alone)
  obtain ⟨outcome, node', h, run⟩ := runs_runStop executor request remove thread unheld
  constructor
  · rintro ⟨_, stops⟩
    exact (decided outcome node' h run).mp (stops outcome node' h run)
  · intro condition
    exact ⟨⟨outcome, node', h, run⟩, fun outcome node' h run =>
      (decided outcome node' h run).mpr condition⟩

namespace Sample

/-- A workload of the project and the deployment of the digit 1. -/
def managedContainer (isRestarting : Bool) : Container where
  id := "4c01db0b339c55d2a4c01db0b339c55d".toList
  name := "workload".toList
  status := if isRestarting then "Restarting (1) 3 seconds ago".toList else "Up 3 minutes".toList
  labels := [managedLabel, (projectIdLabel, (uuid 1).toText), (deploymentIdLabel, (uuid 1).toText),
    (domainLabel, "app.run.sakala.dev".toList), (portLabel, "80".toList)]
  plainId := by decide
  plainStatus := by
    revert isRestarting
    decide

/-- The node it is alone on. -/
def managedNode (isRestarting : Bool) : Node :=
  { node with
    docker := {
      containers := [managedContainer isRestarting]
      tags := []
      distinctIds := List.nodup_singleton _
      distinctNames := List.nodup_singleton _ } }

def lifecycle : WorkloadLifecycleRequest where
  commandId := uuid 2
  projectId := uuid 1
  deploymentId := uuid 1

theorem target (isRestarting : Bool) :
    (managedNode isRestarting).docker.Target lifecycle.projectId lifecycle.deploymentId
      (managedContainer isRestarting) where
  first := rfl
  domain := by
    revert isRestarting
    decide
  port := ⟨80, by revert isRestarting; decide, by decide⟩
  plain := by
    revert isRestarting
    decide
  fits := by
    revert isRestarting
    decide +kernel
  solid := by
    revert isRestarting
    decide
  named := by
    revert isRestarting
    decide

end Sample

/-- A workload in a restart loop is not stopped by the command that puts it to sleep. -/
theorem restarting_workload_is_not_stopped :
    ¬∀ outcome node' h, Exec (obliging 0) (Sample.executor.runStop Sample.lifecycle false).run
      (Sample.managedNode true) [] outcome node' h →
        ReallyStops false (Sample.managedContainer true) outcome node' := by
  intro stops
  have unheld : (Sample.managedNode true).holder .routes = none := rfl
  obtain ⟨outcome, node', h, run⟩ :=
    runs_runStop Sample.executor Sample.lifecycle false 0 unheld
  have decided := Prog.wp_sound _ run (wp_runStop Sample.executor false (Sample.target true) rfl)
  have quiet := (decided.mp (stops outcome node' h run)).2
  cases quiet

theorem really_stops_running :
    (∃ outcome node' h, Exec (obliging 0) (Sample.executor.runStop Sample.lifecycle true).run
      (Sample.managedNode false) [] outcome node' h) ∧
    ∀ outcome node' h, Exec (obliging 0) (Sample.executor.runStop Sample.lifecycle true).run
      (Sample.managedNode false) [] outcome node' h →
        ReallyStops true (Sample.managedContainer false) outcome node' := by
  apply (really_stops_exact Sample.executor Sample.lifecycle true 0 (Sample.managedNode false)
    (Sample.managedContainer false) (Sample.target false) rfl rfl).mpr
  exact ⟨fun entry present => (by cases present), by decide⟩

end SakalaAgent
