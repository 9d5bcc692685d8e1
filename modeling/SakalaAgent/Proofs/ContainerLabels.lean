/-
Module: SakalaAgent.Proofs.ContainerLabels
Layer: Proofs
Purpose: The labels of a container, written by `docker run` and read back from the row `docker ps`
  prints: the workload that a later command finds is the one that was started.
Trusted boundary: none
Main exports: RunContainerRequest.workload, workload_round_trip
-/
import SakalaAgent.Async.Warranted
import SakalaAgent.Proofs.ValidPayload
import SakalaAgent.Proofs.Workloads
import SakalaAgent.Runtime.NodeScript

namespace SakalaAgent

open Async

/-! ### Labels that are set -/

/-- The text of a bound in its label: empty where there is no label. -/
def boundText (bound : Option UInt64) : Text :=
  (bound.map fun value => natText value.toNat).getD []

/-- The workload that a request has started in a container. -/
def RunContainerRequest.workload (request : RunContainerRequest) (container : Container) :
    ManagedWorkload where
  containerId := container.shortId
  status := container.status
  projectId := request.projectId
  deploymentId := request.deploymentId
  domain := request.domain.toList
  port := request.port
  commandId := some request.commandId
  logBounds := request.logBounds

/-- The labels of the bounds do not stand in for one another. -/
theorem lookup_logBoundLabels (bounds : LogBounds) :
    ((ContainerEngine.logBoundLabels bounds).lookup logMaxLineLabel).getD [] = boundText bounds.maxLineLength ∧
      ((ContainerEngine.logBoundLabels bounds).lookup logMaxBatchLabel).getD [] = boundText bounds.maxBatchLines ∧
      ((ContainerEngine.logBoundLabels bounds).lookup logMaxTotalLabel).getD [] = boundText bounds.maxTotalBytes := by
  obtain ⟨line, batch, total⟩ := bounds
  cases line with
  | none =>
      cases batch with
      | none => cases total <;> exact ⟨rfl, rfl, rfl⟩
      | some batch => cases total <;> exact ⟨rfl, rfl, rfl⟩
  | some line =>
      cases batch with
      | none => cases total <;> exact ⟨rfl, rfl, rfl⟩
      | some batch => cases total <;> exact ⟨rfl, rfl, rfl⟩

/-- What `docker ps` prints of a container that a request has started. -/
theorem print_workloadColumns {engine : ContainerEngine} {request : RunContainerRequest}
    {container : Container} (stored : container.labels = engine.runLabels request) :
    workloadColumns.map (PsColumn.print container) =
      [container.shortId, container.status, request.domain.toList, natText request.port.toNat,
        request.commandId.toText, boundText request.logBounds.maxLineLength,
        boundText request.logBounds.maxBatchLines, boundText request.logBounds.maxTotalBytes] := by
  obtain ⟨line, batch, total⟩ := lookup_logBoundLabels request.logBounds
  rw [← line, ← batch, ← total]
  simp only [workloadColumns, List.map_cons, List.map_nil, PsColumn.print, Container.label, stored]
  rfl

/-! ### Columns that are read -/

theorem plain_of_solid {text : Text}
    (solid : ∀ character ∈ text, Text.isWhiteSpace character = false) : Plain text := by
  have absent : ∀ character, Text.isWhiteSpace character = true → character ∉ text := by
    intro character space member
    rw [solid character member] at space
    cases space
  exact ⟨absent _ rfl, absent _ rfl, absent _ rfl⟩

theorem plain_natText (value : Nat) : Plain (natText value) :=
  plain_of_solid fun _ member =>
    Text.isWhiteSpace_of_isDigit (Text.isDigit_of_mem_toString member)

theorem plain_boundText (bound : Option UInt64) : Plain (boundText bound) := by
  cases bound with
  | none => simp [boundText, Plain]
  | some value => exact plain_natText value.toNat

/-- A bound is read back from its label, and none from no label. -/
theorem parseOptionalLabel_boundText (bound : Option UInt64) :
    parseOptionalLabel (some (boundText bound)) = bound := by
  cases bound with
  | none => rfl
  | some value =>
      have isSome : natText value.toNat ≠ [] := Text.toString_ne_nil value.toNat
      have read : Text.parseNat (2 ^ 64) (natText value.toNat) = some value.toNat :=
        Text.parseNat_toString value.toNat_lt
      have written : ¬(natText value.toNat).isEmpty = true := by simpa using isSome
      show (if (natText value.toNat).isEmpty then none
        else (Text.parseNat (2 ^ 64) (natText value.toNat)).map UInt64.ofNat) = some value
      rw [if_neg written, read, Option.map_some, UInt64.ofNat_toNat]

theorem parsePort {port : UInt16} (isSet : port ≠ 0) :
    (Text.parseNat (2 ^ 16) (natText port.toNat)).filter (fun port => 0 < port) =
      some port.toNat := by
  have read : Text.parseNat (2 ^ 16) (natText port.toNat) = some port.toNat :=
    Text.parseNat_toString port.toNat_lt
  have positive : 0 < port.toNat := by
    rcases Nat.eq_zero_or_pos port.toNat with zero | positive
    · exact absurd (UInt16.toNat_inj.mp zero) isSet
    · exact positive
  rw [read, Option.filter_some, if_pos (decide_eq_true positive)]

/-! ### The row -/

/-- The columns of a container that was started for an accepted payload can be told apart. -/
theorem plain_of_mem_columns {request : RunContainerRequest} {container : Container}
    (domain : validDomain request.domain.toList = true) :
    ∀ column ∈ [container.shortId, container.status, request.domain.toList,
      natText request.port.toNat, request.commandId.toText,
      boundText request.logBounds.maxLineLength, boundText request.logBounds.maxBatchLines,
      boundText request.logBounds.maxTotalBytes], Plain column := by
  have shortId : Plain container.shortId := by
    obtain ⟨tab, feed, carriage⟩ := container.plainId
    exact ⟨fun member => tab (List.mem_of_mem_take member),
      fun member => feed (List.mem_of_mem_take member),
      fun member => carriage (List.mem_of_mem_take member)⟩
  simp only [List.forall_mem_cons]
  refine ⟨shortId, container.plainStatus, ?_, plain_natText _, ?_, plain_boundText _,
    plain_boundText _, plain_boundText _, nofun⟩
  · exact plain_of_solid fun _ member => isWhiteSpace_of_validDomain domain member
  · exact plain_of_solid fun _ member => isWhiteSpace_of_mem_toText member

theorem mem_intercalate {separator character : Char} {column : Text} {columns : List Text}
    (isColumn : column ∈ columns) (member : character ∈ column) :
    character ∈ List.intercalate [separator] columns := by
  induction columns with
  | nil => cases isColumn
  | cons first columns ih =>
      cases columns with
      | nil =>
          obtain rfl := List.mem_singleton.mp isColumn
          simpa using member
      | cons next columns =>
          rw [List.intercalate_cons_cons]
          rcases List.mem_cons.mp isColumn with rfl | later
          · exact List.mem_append_left _ (List.mem_append_left _ member)
          · exact List.mem_append_right _ (ih later)

section Row

variable {engine : ContainerEngine} {request : RunContainerRequest} {container : Container}

theorem splitOn_workloadRow (stored : container.labels = engine.runLabels request)
    (domain : validDomain request.domain.toList = true) :
    Text.splitOn '\t' (psRow workloadColumns container) =
      [container.shortId, container.status, request.domain.toList, natText request.port.toNat,
        request.commandId.toText, boundText request.logBounds.maxLineLength,
        boundText request.logBounds.maxBatchLines, boundText request.logBounds.maxTotalBytes] := by
  rw [psRow, print_workloadColumns stored]
  exact splitOn_intercalate fun column member => (plain_of_mem_columns domain column member).1

/-- The row is one line that is not blank. -/
theorem contentLines_workloadRow (stored : container.labels = engine.runLabels request)
    (domain : validDomain request.domain.toList = true) :
    contentLines (psRow workloadColumns container ++ ['\n']) = [psRow workloadColumns container] := by
  have noBreak : '\n' ∉ psRow workloadColumns container ∧
      '\r' ∉ psRow workloadColumns container := by
    rw [psRow, print_workloadColumns stored]
    constructor
    · exact DockerState.not_mem_intercalate (by decide) fun column member =>
        (plain_of_mem_columns domain column member).2.1
    · exact DockerState.not_mem_intercalate (by decide) fun column member =>
        (plain_of_mem_columns domain column member).2.2
  have lines : Text.lines (psRow workloadColumns container ++ ['\n']) =
      [psRow workloadColumns container] := Text.lines_append noBreak.1 noBreak.2 []
  -- the domain is on the line
  have solid : Text.isBlank (psRow workloadColumns container) = false := by
    obtain ⟨first, inDomain⟩ := List.exists_mem_of_ne_nil _ (ne_nil_of_validDomain domain)
    apply Bool.eq_false_iff.mpr
    intro blank
    rw [psRow, print_workloadColumns stored, Text.isBlank, List.all_eq_true] at blank
    have space := blank first (mem_intercalate (by simp) inDomain)
    rw [isWhiteSpace_of_validDomain domain inDomain] at space
    cases space
  rw [contentLines, lines, List.filter_cons_of_pos (by simp [solid]), List.filter_nil]

/-- What `docker ps` prints of a container is read back as the workload it was started for. -/
theorem parseWorkload_workloadRow (stored : container.labels = engine.runLabels request)
    (domain : validDomain request.domain.toList = true) (port : request.port ≠ 0) :
    parseWorkload (psRow workloadColumns container ++ ['\n']) request.projectId
      request.deploymentId = .ok (some (request.workload container)) := by
  have isSome : (some request.domain.toList).filter (fun domain => !domain.isEmpty) =
      some request.domain.toList := by
    rw [Option.filter_some, if_pos]
    simpa using ne_nil_of_validDomain domain
  rw [parseWorkload, contentLines_workloadRow stored domain]
  simp only [List.head?_cons, splitOn_workloadRow stored domain, field, List.getElem?_cons_zero,
    List.getElem?_cons_succ, Option.bind_some, Option.getD_some, isSome, parsePort port,
    parseOptionalLabel_boundText, Uuid.parseText_toText, UInt16.ofNat_toNat]
  rfl

end Row

/-- The workload that a later command finds is the one that the deployment has started: its row is
read back column by column, and so is the whole listing if it fits into what is captured. -/
theorem workload_round_trip (parsers : Parsers) (engine : ContainerEngine)
    (deployment : Deployment) (container : Container)
    (accepted : validatePayload parsers deployment.payload = .ok ())
    (stored : container.labels = engine.runLabels deployment.runRequest) :
    let started : ManagedWorkload :=
      { containerId := container.shortId
        status := container.status
        projectId := deployment.request.projectId
        deploymentId := deployment.request.deploymentId
        domain := deployment.payload.domain.toList
        port := deployment.payload.containerPort
        commandId := some deployment.request.commandId
        logBounds := deployment.payload.logBounds }
    parseWorkload (psRow workloadColumns container ++ ['\n']) deployment.request.projectId
        deployment.request.deploymentId = .ok (some started) ∧
      (Text.byteLength (psRow workloadColumns container ++ ['\n']) ≤ maxCaptureBytes →
        ∀ (result : ProcessResult) (outcome : Except RuntimeError (Option ManagedWorkload)),
          result.success = true → result.stdout = [psRow workloadColumns container] →
          (ContainerEngine.workload deployment.request.projectId
            deployment.request.deploymentId).run.Finishes
              [.done (.process (workloadListing deployment.request.projectId
                deployment.request.deploymentId)) result] outcome →
          outcome = .ok (some started)) := by
  have checked := accepted_of_validatePayload accepted
  have read : parseWorkload (psRow workloadColumns container ++ ['\n'])
      deployment.request.projectId deployment.request.deploymentId =
        .ok (some (deployment.runRequest.workload container)) := by
    have row := parseWorkload_workloadRow stored checked.domain checked.port
    exact row
  refine ⟨read, ?_⟩
  intro fits result outcome succeeded printed run
  rw [workload_eq] at run
  cases run with
  | call run =>
      cases run
      obtain ⟨output, processed, success, text⟩ : ∃ output,
          processOutcome (workloadListing deployment.request.projectId
            deployment.request.deploymentId) result = .ok output ∧ output.success = true ∧
              output.stdout = captured result.stdout := processOutcome_of_success succeeded
      have whole : captured [psRow workloadColumns container] =
          psRow workloadColumns container ++ ['\n'] := by
        rw [captured_eq (by simpa using fits)]
        simp
      rw [workloadOutcome, processed]
      change workloadVerdict _ _ output = _
      rw [workloadVerdict, if_pos success, text, printed, whole]
      exact read

/-! A deployment with one bound on its log. -/

namespace LabelledDeployment

def deployment : Deployment where
  request :=
    { Sample.deployment 1 with
      payload := { Sample.payload with logBounds := { maxBatchLines := some 20 } } }
  prepared :=
    { workspace := { name := (Sample.uuid 1).toText }
      appliedResources := { memoryMb := 256, cpuMillis := 500, pidsLimit := 128 }
      appliedTimeouts := { build := 600, start := 120 } }

theorem plain_status : Plain "Up 2 minutes".toList := by decide

def container : Container where
  id := "6f0c".toList
  name := deployment.container
  status := "Up 2 minutes".toList
  labels := Sample.executor.containers.runLabels deployment.runRequest
  plainId := by decide
  plainStatus := plain_status

end LabelledDeployment

open LabelledDeployment in
theorem workload_round_trip_bounded : ∃ workload,
    parseWorkload (psRow workloadColumns container ++ ['\n']) deployment.request.projectId
        deployment.request.deploymentId = .ok (some workload) ∧
      workload.domain = "app.run.sakala.dev".toList ∧ workload.port = 80 ∧
      workload.logBounds = { maxBatchLines := some 20 } :=
  ⟨_, (workload_round_trip Sample.executor.parsers Sample.executor.containers deployment container
    rfl rfl).1, rfl, rfl, rfl⟩

end SakalaAgent
