/-
Module: SakalaAgent.Proofs.FreeSlots
Layer: Proofs
Purpose: The free slots a node reports beside the projects it admits. Both are counts over the managed
  containers: the report counts the rows of all of them that name a project and a deployment and are
  not those of a stopped container, the admission the lines of the project labels of those that run.
Trusted boundary: none
Main exports: DockerState.workloads, DockerState.activeProjects, slots_and_admission,
  unlabelled_container_takes_no_slot
-/
import SakalaAgent.Async.Warranted
import SakalaAgent.Proofs.Workloads
import SakalaAgent.Runtime.NodeScript

namespace SakalaAgent

open Async

/-! ### Rows that are read again -/

/-- What is captured of a row that is printed. -/
def recaptured (row : Text) : Text :=
  captured (Text.lines (row ++ ['\n']))

theorem byteLength_dropCarriageReturn (line : Text) :
    Text.byteLength (Text.dropCarriageReturn line) ≤ Text.byteLength line := by
  unfold Text.dropCarriageReturn
  split
  · rename_i last
    have whole := List.dropLast_append_getLast? _ last
    rw [← whole, Text.byteLength_append, List.dropLast_concat]
    exact Nat.le_add_right ..
  · exact Nat.le_refl _

/-- Lines take no more room than the text they were read from. -/
theorem byteLength_lines (row : Text) :
    Text.byteLength ((Text.lines (row ++ ['\n'])).flatMap fun line => line ++ ['\n']) ≤
      Text.byteLength (row ++ ['\n']) := by
  rw [Text.lines_ended, ← Text.flatMap_splitOn]
  induction Text.splitOn '\n' row with
  | nil => exact Nat.le_refl _
  | cons piece pieces ih =>
      have first := byteLength_dropCarriageReturn piece
      simp only [List.map_cons, List.flatMap_cons, Text.byteLength_append] at ih ⊢
      omega

theorem byteLength_flatMap_lines (rows : List Text) :
    Text.byteLength ((rows.flatMap fun row => Text.lines (row ++ ['\n'])).flatMap
      fun line => line ++ ['\n']) ≤ Text.byteLength (rows.flatMap fun row => row ++ ['\n']) := by
  induction rows with
  | nil => exact Nat.le_refl _
  | cons row rows ih =>
      have first := byteLength_lines row
      simp only [List.flatMap_cons, List.flatMap_append, Text.byteLength_append] at ih first ⊢
      omega

/-- The lines that are read of a listing that fits are those of its rows. -/
theorem lines_captured {rows : List Text}
    (fits : Text.byteLength (rows.flatMap fun row => row ++ ['\n']) ≤ maxCaptureBytes) :
    Text.lines (captured (Text.lines (rows.flatMap fun row => row ++ ['\n']))) =
      rows.flatMap fun row => Text.lines (recaptured row) := by
  have shorter := (byteLength_flatMap_lines rows).trans fits
  have single : ∀ row ∈ rows, recaptured row =
      (Text.lines (row ++ ['\n'])).flatMap fun line => line ++ ['\n'] := by
    intro row member
    obtain ⟨before, after, rfl⟩ := List.mem_iff_append.mp member
    apply captured_eq
    apply (byteLength_lines row).trans
    simp only [List.flatMap_append, List.flatMap_cons, Text.byteLength_append] at fits ⊢
    omega
  rw [Text.lines_rows, captured_eq shorter, Text.lines_rows, List.flatMap_assoc]
  apply List.flatMap_congr
  intro row member
  rw [single row member, Text.lines_rows]

/-! ### What is counted -/

/-- The workload in one line of the listing. -/
def lineWorkloads (line : Text) : List RuntimeWorkload :=
  (inspectLine {} line).workloads

theorem inspectLine_workloads (report : RuntimeReconciliationReport) (line : Text) :
    (inspectLine report line).workloads = report.workloads ++ lineWorkloads line := by
  unfold lineWorkloads inspectLine
  dsimp only
  split
  · simp
  · simp
  · simp

theorem reconciliationReport_workloads (output : Text) :
    (reconciliationReport output).workloads = (contentLines output).flatMap lineWorkloads := by
  have counted : ∀ (lines : List Text) (report : RuntimeReconciliationReport),
      (lines.foldl inspectLine report).workloads = report.workloads ++ lines.flatMap lineWorkloads := by
    intro lines
    induction lines with
    | nil => simp
    | cons line lines ih =>
        intro report
        rw [List.foldl_cons, ih, inspectLine_workloads, List.flatMap_cons, List.append_assoc]
  exact counted _ _

namespace Container

/-- The workloads that are read in the row of a container. -/
def workloads (container : Container) : List RuntimeWorkload :=
  (reconciliationReport (recaptured (psRow inspectColumns container))).workloads

/-- The projects that are read in the row of a container. -/
def activeProjects (container : Container) : List Text :=
  SakalaAgent.activeProjects (recaptured (container.label projectIdLabel))

end Container

namespace DockerState

def managed (docker : DockerState) : List Container :=
  docker.listed true [managedLabel]

theorem mem_of_managed {docker : DockerState} {container : Container}
    (member : container ∈ docker.managed) : container ∈ docker.containers := by
  rw [managed, listed] at member
  exact List.mem_of_mem_filter member

/-- The workloads that take a slot. -/
def workloads (docker : DockerState) : List RuntimeWorkload :=
  docker.managed.flatMap Container.workloads

/-- The projects the admission counts. -/
def activeProjects (docker : DockerState) : List Text :=
  docker.running.flatMap Container.activeProjects

/-- Both listings fit into what is captured of an output. -/
structure ListingsFit (docker : DockerState) : Prop where
  inspection : Text.byteLength (docker.psOutput true false [managedLabel] inspectColumns) ≤
    maxCaptureBytes
  capacity : Text.byteLength (docker.psOutput false false [managedLabel] [.label projectIdLabel]) ≤
    maxCaptureBytes

theorem ListingsFit.workloads {docker : DockerState} (fit : docker.ListingsFit) :
    (reconciliationReport (captured
      (docker.psLines true false [managedLabel] inspectColumns))).workloads = docker.workloads := by
  have rows : docker.psOutput true false [managedLabel] inspectColumns =
      (docker.managed.map (psRow inspectColumns)).flatMap fun row => row ++ ['\n'] := by
    rw [List.flatMap_map]
    rfl
  have fits := fit.inspection
  rw [rows] at fits
  rw [reconciliationReport_workloads, contentLines, psLines, rows, lines_captured fits,
    List.filter_flatMap, List.flatMap_assoc, List.flatMap_map]
  apply List.flatMap_congr
  intro container _
  rw [Container.workloads, reconciliationReport_workloads, contentLines]

theorem ListingsFit.activeProjects {docker : DockerState} (fit : docker.ListingsFit) :
    SakalaAgent.activeProjects
      (captured (docker.psLines false false [managedLabel] [.label projectIdLabel])) =
        docker.activeProjects := by
  have rows : docker.psOutput false false [managedLabel] [.label projectIdLabel] =
      (docker.running.map fun container => container.label projectIdLabel).flatMap
        fun row => row ++ ['\n'] := by
    rw [List.flatMap_map]
    simp [psOutput, psRow, running, PsColumn.print, List.intercalate]
  have fits := fit.capacity
  rw [rows] at fits
  rw [SakalaAgent.activeProjects, psLines, rows, lines_captured fits, List.map_flatMap,
    List.filter_flatMap, List.flatMap_map]
  rfl

end DockerState

/-! ### Complete containers -/

/-- The status of a container that was never started, or does not run any more. -/
def isStoppedStatus (status : Text) : Bool :=
  Text.startsWith status "Created".toList || Text.startsWith status "Exited".toList ||
    Text.startsWith status "Dead".toList

/-- What has stopped is not listed. -/
theorem isListedStatus_of_stopped {status : Text} (stopped : isStoppedStatus status = true) :
    isListedStatus status = false := by
  have begins : ∀ start ∈ ["Created".toList, "Exited".toList, "Dead".toList], ∀ rest,
      isListedStatus (start ++ rest) = false := by
    simp [isListedStatus, isUpStatus, Text.lowerAscii, Text.startsWith, List.isPrefixOf]
  simp only [isStoppedStatus, Bool.or_eq_true, Text.startsWith, List.isPrefixOf_iff_prefix]
    at stopped
  rcases stopped with (⟨rest, rfl⟩ | ⟨rest, rfl⟩) | ⟨rest, rfl⟩
  · exact begins _ (by simp) rest
  · exact begins _ (by simp) rest
  · exact begins _ (by simp) rest

theorem orphanReason_none {status : Text} (running : isStoppedStatus status = false)
    {projectId deploymentId : Uuid} :
    orphanReason status (some projectId) (some deploymentId) = none := by
  simp only [isStoppedStatus, Bool.or_eq_false_iff] at running
  obtain ⟨⟨created, exited⟩, dead⟩ := running
  simp only [orphanReason, created, exited, dead]
  rfl

theorem orphanReason_some {status : Text} (stopped : isStoppedStatus status = true)
    (projectId deploymentId : Uuid) :
    ∃ reason, orphanReason status (some projectId) (some deploymentId) = some reason := by
  simp only [isStoppedStatus, Bool.or_eq_true] at stopped
  simp only [orphanReason, Option.isNone_some, Bool.false_eq_true, if_false]
  by_cases created : Text.startsWith status "Created".toList = true
  · rw [if_pos created]
    exact ⟨_, rfl⟩
  · have ended : Text.startsWith status "Exited".toList = true ∨
        Text.startsWith status "Dead".toList = true := by
      rcases stopped with (begun | exited) | dead
      · exact absurd begun created
      · exact .inl exited
      · exact .inr dead
    rw [if_neg created, if_pos ended]
    exact ⟨_, rfl⟩

/-- The container carries the ids of a project and a deployment, and runs or has stopped. -/
structure Container.IsComplete (container : Container) : Prop where
  project : ∃ projectId : Uuid, container.label projectIdLabel = projectId.toText
  deployment : ∃ deploymentId : Uuid, container.label deploymentIdLabel = deploymentId.toText
  status : container.isListed = true ∨ isStoppedStatus container.status = true

theorem plain_toText (uuid : Uuid) : Plain uuid.toText :=
  ⟨not_mem_toText rfl, not_mem_toText rfl, not_mem_toText rfl⟩

theorem solid_toText (uuid : Uuid) : uuid.toText.all Text.isWhiteSpace = false := by
  cases text : uuid.toText with
  | nil => exact absurd text (toText_ne_nil uuid)
  | cons character rest =>
      have solid : Text.isWhiteSpace character = false :=
        isWhiteSpace_of_mem_toText (text ▸ List.mem_cons_self)
      rw [List.all_cons, solid, Bool.false_and]

/-- A row without a line feed or a carriage return is read as it is. -/
theorem lines_recaptured {row : Text} (feed : '\n' ∉ row) (carriage : '\r' ∉ row)
    (fits : Text.byteLength (row ++ ['\n']) ≤ maxCaptureBytes) :
    Text.lines (recaptured row) = [row] := by
  have single : Text.lines (row ++ ['\n']) = [row] := by
    have read : Text.lines ([row].flatMap fun row => row ++ ['\n']) = [row] :=
      Text.lines_flatMap (by simpa using feed) (by simpa using carriage)
    simpa using read
  have whole : captured [row] = [row].flatMap fun line => line ++ ['\n'] :=
    captured_eq (by simpa using fits)
  rw [recaptured, single, whole]
  simpa using single

theorem psRow_columns (container : Container) {projectId deploymentId : Uuid}
    (project : container.label projectIdLabel = projectId.toText)
    (deployment : container.label deploymentIdLabel = deploymentId.toText) :
    psRow inspectColumns container = List.intercalate ['\t']
      [container.shortId, container.status, projectId.toText, deploymentId.toText] := by
  rw [← project, ← deployment]
  rfl

/-- The row of a complete container is that of a workload unless it has stopped. -/
theorem Container.IsComplete.workloads {container : Container} (complete : container.IsComplete)
    (fits : Text.byteLength (psRow inspectColumns container ++ ['\n']) ≤ maxCaptureBytes) :
    container.workloads.length = if container.isListed then 1 else 0 := by
  obtain ⟨projectId, project⟩ := complete.project
  obtain ⟨deploymentId, deployment⟩ := complete.deployment
  have plainId : Plain container.shortId := by
    obtain ⟨tab, feed, carriage⟩ := container.plainId
    exact ⟨fun member => tab (List.mem_of_mem_take member),
      fun member => feed (List.mem_of_mem_take member),
      fun member => carriage (List.mem_of_mem_take member)⟩
  have plain : ∀ column ∈ [container.shortId, container.status, projectId.toText,
      deploymentId.toText], Plain column := by
    simp [plainId, container.plainStatus, plain_toText]
  have row := psRow_columns container project deployment
  have columns : Text.splitOn '\t' (psRow inspectColumns container) =
      [container.shortId, container.status, projectId.toText, deploymentId.toText] := by
    rw [row]
    exact splitOn_intercalate fun column member => (plain column member).1
  have feed : '\n' ∉ psRow inspectColumns container := by
    rw [row]
    exact DockerState.not_mem_intercalate (by decide) fun column member => (plain column member).2.1
  have carriage : '\r' ∉ psRow inspectColumns container := by
    rw [row]
    exact DockerState.not_mem_intercalate (by decide) fun column member => (plain column member).2.2
  have solid : Text.isBlank (psRow inspectColumns container) = false := by
    rw [row]
    simp [List.intercalate_cons_cons, Text.isBlank, solid_toText]
  have content : contentLines (recaptured (psRow inspectColumns container)) =
      [psRow inspectColumns container] := by
    rw [contentLines, lines_recaptured feed carriage fits]
    simp [solid]
  rw [Container.workloads, reconciliationReport_workloads, content, List.flatMap_singleton,
    lineWorkloads, inspectLine, columns]
  simp only [field, List.getElem?_cons_succ, List.getElem?_cons_zero, Option.bind_some,
    Uuid.parseText_toText, Option.getD_some]
  rcases complete.status with isListed | stopped
  · have running : isStoppedStatus container.status = false := by
      apply Bool.eq_false_iff.mpr
      intro stopped
      rw [Container.isListed, isListedStatus_of_stopped stopped] at isListed
      cases isListed
    rw [orphanReason_none running, if_pos isListed]
    rfl
  · obtain ⟨reason, isOrphan⟩ := orphanReason_some stopped projectId deploymentId
    have ended : container.isListed = false := isListedStatus_of_stopped stopped
    rw [isOrphan, ended]
    rfl

/-- The project label of a complete container is one project. -/
theorem Container.IsComplete.activeProjects {container : Container}
    (complete : container.IsComplete)
    (fits : Text.byteLength (container.label projectIdLabel ++ ['\n']) ≤ maxCaptureBytes) :
    container.activeProjects.length = 1 := by
  obtain ⟨projectId, project⟩ := complete.project
  rw [project] at fits
  obtain ⟨_, feed, carriage⟩ := plain_toText projectId
  rw [Container.activeProjects, project, SakalaAgent.activeProjects,
    lines_recaptured feed carriage fits]
  simp [trim_toText, toText_ne_nil]

namespace DockerState

/-- Every managed container is complete. -/
def Complete (docker : DockerState) : Prop :=
  ∀ container ∈ docker.managed, container.IsComplete

/-- A row of a listing that fits. -/
theorem fits_of_mem {containers : List Container} {row : Container → Text}
    (fits : Text.byteLength (containers.flatMap fun container => row container ++ ['\n']) ≤
      maxCaptureBytes) {container : Container} (member : container ∈ containers) :
    Text.byteLength (row container ++ ['\n']) ≤ maxCaptureBytes := by
  obtain ⟨before, after, rfl⟩ := List.mem_iff_append.mp member
  simp only [List.flatMap_append, List.flatMap_cons, Text.byteLength_append] at fits ⊢
  omega

theorem running_eq_filter (docker : DockerState) :
    docker.running = docker.managed.filter Container.isListed := by
  simp only [running, managed, listed, List.filter_filter, Bool.false_or, Bool.true_or,
    Bool.true_and]

/-- Among complete containers those that take a slot are those that are counted. -/
theorem Complete.counts {docker : DockerState} (complete : docker.Complete)
    (fit : docker.ListingsFit) : docker.workloads.length = docker.activeProjects.length := by
  have slots : docker.workloads.length = docker.managed.countP Container.isListed := by
    have each : ∀ container ∈ docker.managed,
        container.workloads.length = if container.isListed then 1 else 0 :=
      fun container member => (complete container member).workloads (fits_of_mem fit.inspection member)
    rw [workloads, List.length_flatMap, List.map_congr_left each]
    induction docker.managed with
    | nil => rfl
    | cons container containers ih => simp [List.countP_cons, ih, Nat.add_comm]
  have projects : docker.activeProjects.length = docker.running.length := by
    have printed : docker.psOutput false false [managedLabel] [.label projectIdLabel] =
        docker.running.flatMap fun container => container.label projectIdLabel ++ ['\n'] := by
      simp [psOutput, psRow, running, PsColumn.print, List.intercalate]
    have fits := fit.capacity
    rw [printed] at fits
    have each : ∀ container ∈ docker.running, container.activeProjects.length = 1 := by
      intro container member
      have isManaged : container ∈ docker.managed := by
        rw [running_eq_filter] at member
        exact List.mem_of_mem_filter member
      exact (complete container isManaged).activeProjects (fits_of_mem fits member)
    rw [activeProjects, List.length_flatMap, List.map_congr_left each]
    simp
  rw [slots, projects, running_eq_filter, List.countP_eq_length_filter]

end DockerState

/-! ### The two answers -/

/-- The listing of all managed containers. -/
def inspectionListing : CommandSpec :=
  ContainerEngine.docker (.ps true false [managedLabel] inspectColumns)

def inspectionVerdict (output : ProcessOutput) : Except RuntimeError RuntimeReconciliationReport :=
  if output.success then .ok (reconciliationReport output.stdout)
  else
    .error (.container
      s!"docker orphan inspection exited with status {RuntimeError.statusText output.code}")

/-- What is made of the listing of all managed containers. -/
def inspectionOutcome (result : ProcessResult) : Except RuntimeError RuntimeReconciliationReport :=
  processOutcome inspectionListing result >>= inspectionVerdict

theorem detectOrphans_eq : ContainerEngine.detectOrphans =
    (Fallible.perform (I := Runtime) (.process inspectionListing) >>= fun result =>
      Fallible.ofExcept (inspectionOutcome result)) := by
  apply runProcess_null_bind
  intro output
  rw [inspectionVerdict]
  split
  · rfl
  · rfl

theorem capacity_eq (engine : ContainerEngine) :
    engine.capacity = (Fallible.perform (I := Runtime) (.process inspectionListing) >>= fun result =>
      Fallible.ofExcept ((inspectionOutcome result).map (capacityOf engine.maxActiveContainers.toNat))) := by
  rw [ContainerEngine.capacity, detectOrphans_eq, bind_assoc]
  congr
  funext result
  cases inspectionOutcome result with
  | ok report => rfl
  | error error => rfl

/-- A future that asks once and makes something of the answer. -/
theorem finishes_once {α : Type} {op : RuntimeOp} {read : op.Res → Except RuntimeError α}
    {h : History Runtime} {outcome : Except RuntimeError α}
    (finishes : (Fallible.perform (I := Runtime) op >>= fun result =>
      Fallible.ofExcept (read result) : RuntimeM α).run.Finishes h outcome) :
    ∃ result, h = [.done op result] ∧ outcome = read result := by
  cases finishes with
  | call rest =>
      cases rest
      exact ⟨_, rfl, rfl⟩

namespace DockerState

/-- Every listing of containers in the history succeeded, and shows the containers that there are. -/
def Shown (docker : DockerState) (h : History Runtime) : Prop :=
  ∀ all quiet filters columns (result : ProcessResult),
    .done (.process (ContainerEngine.docker (.ps all quiet filters columns))) result ∈ h →
      result.success = true ∧ result.stdout = docker.psLines all quiet filters columns

end DockerState

/-- There is a slot for a workload. -/
def RuntimeCapacity.HasFreeSlot (capacity : RuntimeCapacity) : Prop :=
  ∃ slots, capacity.availableWorkloadSlots = some slots ∧ 0 < slots

/-- A free slot is one that no workload takes. -/
theorem hasFreeSlot_iff {engine : ContainerEngine} {docker : DockerState} {h : History Runtime}
    {capacity : RuntimeCapacity} (fit : docker.ListingsFit) (shown : docker.Shown h)
    (reported : engine.capacity.run.Finishes h (.ok capacity)) :
    capacity.HasFreeSlot ↔ docker.workloads.length < engine.maxActiveContainers.toNat := by
  rw [capacity_eq] at reported
  obtain ⟨result, rfl, told⟩ := finishes_once reported
  obtain ⟨report, read, rfl⟩ : ∃ report, inspectionOutcome result = .ok report ∧
      capacity = capacityOf engine.maxActiveContainers.toNat report := by
    cases read : inspectionOutcome result with
    | error error =>
        rw [read] at told
        cases told
    | ok report =>
        rw [read] at told
        cases told
        exact ⟨report, rfl, rfl⟩
  obtain ⟨output, _, printed, verdict⟩ := read_of_processOutcome read
  obtain ⟨_, listing⟩ := shown _ _ _ _ result List.mem_cons_self
  have counted : report.workloads = docker.workloads := by
    unfold inspectionVerdict at verdict
    split at verdict
    · cases verdict
      rw [printed, listing, fit.workloads]
    · cases verdict
  simp only [RuntimeCapacity.HasFreeSlot, RuntimeCapacity.availableWorkloadSlots, capacityOf,
    Option.some.injEq, exists_eq_left', counted]
  omega

/-- A project without a managed container is admitted if the projects that run leave room. -/
theorem admitted_iff {engine : ContainerEngine} {docker : DockerState} {projectId : Uuid}
    {h : History Runtime} {verdict : Except RuntimeError Unit} (fit : docker.ListingsFit)
    (shown : docker.Shown h)
    (absent : ∀ container ∈ docker.managed, projectId.toText ∉ container.activeProjects)
    (decided : (engine.ensureCapacity projectId).run.Finishes h verdict) :
    verdict = .ok () ↔ docker.activeProjects.length < engine.maxActiveContainers.toNat := by
  rw [ensureCapacity_eq] at decided
  obtain ⟨result, rfl, rfl⟩ := finishes_once decided
  obtain ⟨succeeded, listing⟩ := shown _ _ _ _ result List.mem_cons_self
  obtain ⟨output, read, success, printed⟩ := processOutcome_of_success succeeded
  have other : projectId.toText ∉ docker.activeProjects := by
    intro member
    obtain ⟨container, runs, listed⟩ := List.mem_flatMap.mp member
    rw [DockerState.running_eq_filter] at runs
    exact absent container (List.mem_of_mem_filter runs) listed
  have admission : admits engine.maxActiveContainers.toNat output.stdout projectId = true ↔
      docker.activeProjects.length < engine.maxActiveContainers.toNat := by
    rw [printed, listing, admits, fit.activeProjects]
    simp [other]
  rw [← admission]
  have verdict : capacityOutcome engine projectId result = capacityVerdict engine projectId output :=
    congrArg (· >>= capacityVerdict engine projectId) read
  rw [verdict, capacityVerdict, success]
  cases admits engine.maxActiveContainers.toNat output.stdout projectId with
  | true => simp
  | false => simp

/-! ### Two nodes -/

/-- The history of a future that lists the managed containers once. -/
def listedOnce (docker : DockerState) (all : Bool) (columns : List PsColumn) : History Runtime :=
  [.done (.process (ContainerEngine.docker (.ps all false [managedLabel] columns)))
    { lines := (docker.psLines all false [managedLabel] columns).map fun line => (.stdout, line)
      finish := .ok (some 0) }]

theorem shown_listedOnce (docker : DockerState) (all : Bool) (columns : List PsColumn) :
    docker.Shown (listedOnce docker all columns) := by
  intro all' quiet filters columns' result member
  cases List.mem_singleton.mp member
  simp [ProcessResult.success, ProcessResult.stdout, List.filterMap_map]

theorem capacity_finishes (engine : ContainerEngine) (docker : DockerState) :
    ∃ capacity, engine.capacity.run.Finishes (listedOnce docker true inspectColumns)
      (.ok capacity) := by
  rw [capacity_eq]
  exact ⟨_, .call (.ret _)⟩

theorem ensureCapacity_finishes (engine : ContainerEngine) (docker : DockerState)
    (projectId : Uuid) : ∃ verdict, (engine.ensureCapacity projectId).run.Finishes
      (listedOnce docker false [.label projectIdLabel]) verdict := by
  rw [ensureCapacity_eq]
  exact ⟨_, .call (.ret _)⟩

namespace Sample

theorem plain_runningId : Plain "4c01db0b339c55d2a4c01db0b339c55d".toList := by decide

theorem plain_runningStatus : Plain "Up 3 minutes".toList := by decide

/-- A node with one managed container that runs, of the project of the digit 2. -/
def oneRunning (labels : List (Text × Text)) : DockerState where
  containers := [
    { id := "4c01db0b339c55d2a4c01db0b339c55d".toList
      name := "workload".toList
      status := "Up 3 minutes".toList
      labels := managedLabel :: (projectIdLabel, (uuid 2).toText) :: labels
      plainId := plain_runningId
      plainStatus := plain_runningStatus }]
  tags := []
  distinctIds := List.nodup_singleton _
  distinctNames := List.nodup_singleton _

end Sample

/-- The node reports a free slot exactly when it admits another project if and only if both counts are
on the same side of the maximum; for containers that are complete they are one count. -/
theorem slots_and_admission {engine : ContainerEngine} {docker : DockerState} {projectId : Uuid}
    {h h' : History Runtime} {capacity : RuntimeCapacity} {verdict : Except RuntimeError Unit}
    (fit : docker.ListingsFit)
    (reported : engine.capacity.run.Finishes h (.ok capacity)) (shown : docker.Shown h)
    (decided : (engine.ensureCapacity projectId).run.Finishes h' verdict)
    (shown' : docker.Shown h')
    (absent : ∀ container ∈ docker.managed, projectId.toText ∉ container.activeProjects) :
    ((capacity.HasFreeSlot ↔ verdict = .ok ()) ↔
      (docker.workloads.length < engine.maxActiveContainers.toNat ↔
        docker.activeProjects.length < engine.maxActiveContainers.toNat)) ∧
    (docker.Complete → (capacity.HasFreeSlot ↔ verdict = .ok ())) := by
  have slots := hasFreeSlot_iff fit shown reported
  have admission := admitted_iff fit shown' absent decided
  constructor
  · rw [slots, admission]
  · intro complete
    rw [slots, admission, complete.counts fit]

/-- A running container without the label of its deployment takes no slot of the node, which admits no
other project. -/
theorem unlabelled_container_takes_no_slot : ∃ capacity verdict,
    Sample.executor.containers.capacity.run.Finishes
      (listedOnce (Sample.oneRunning []) true inspectColumns) (.ok capacity) ∧
    (Sample.executor.containers.ensureCapacity (Sample.uuid 1)).run.Finishes
      (listedOnce (Sample.oneRunning []) false [.label projectIdLabel]) verdict ∧
    (∀ container ∈ (Sample.oneRunning []).managed,
      (Sample.uuid 1).toText ∉ container.activeProjects) ∧
    ¬(capacity.HasFreeSlot ↔ verdict = .ok ()) := by
  obtain ⟨capacity, reported⟩ := capacity_finishes Sample.executor.containers (Sample.oneRunning [])
  obtain ⟨verdict, decided⟩ :=
    ensureCapacity_finishes Sample.executor.containers (Sample.oneRunning []) (Sample.uuid 1)
  have fit : (Sample.oneRunning []).ListingsFit := ⟨by decide +kernel, by decide +kernel⟩
  have absent : ∀ container ∈ (Sample.oneRunning []).managed,
      (Sample.uuid 1).toText ∉ container.activeProjects := by decide +kernel
  have free : capacity.HasFreeSlot :=
    (hasFreeSlot_iff fit (shown_listedOnce _ _ _) reported).mpr (by decide +kernel)
  have full : ¬(Sample.oneRunning []).activeProjects.length <
      Sample.executor.containers.maxActiveContainers.toNat := by decide +kernel
  refine ⟨capacity, verdict, reported, decided, absent, fun agree => full ?_⟩
  exact (admitted_iff fit (shown_listedOnce _ _ _) absent decided).mp (agree.mp free)

/-- With both labels it takes the slot. -/
theorem slots_and_admission_full : ∃ capacity verdict,
    Sample.executor.containers.capacity.run.Finishes (listedOnce
      (Sample.oneRunning [(deploymentIdLabel, (Sample.uuid 3).toText)]) true inspectColumns)
      (.ok capacity) ∧
    (Sample.executor.containers.ensureCapacity (Sample.uuid 1)).run.Finishes (listedOnce
      (Sample.oneRunning [(deploymentIdLabel, (Sample.uuid 3).toText)]) false
        [.label projectIdLabel]) verdict ∧
    (capacity.HasFreeSlot ↔ verdict = .ok ()) := by
  obtain ⟨capacity, reported⟩ := capacity_finishes Sample.executor.containers
    (Sample.oneRunning [(deploymentIdLabel, (Sample.uuid 3).toText)])
  obtain ⟨verdict, decided⟩ := ensureCapacity_finishes Sample.executor.containers
    (Sample.oneRunning [(deploymentIdLabel, (Sample.uuid 3).toText)]) (Sample.uuid 1)
  have complete : (Sample.oneRunning [(deploymentIdLabel, (Sample.uuid 3).toText)]).Complete := by
    intro container member
    have present : container ∈
        (Sample.oneRunning [(deploymentIdLabel, (Sample.uuid 3).toText)]).containers :=
      DockerState.mem_of_managed member
    obtain rfl := List.mem_singleton.mp present
    exact ⟨⟨Sample.uuid 2, rfl⟩, ⟨Sample.uuid 3, by decide +kernel⟩, .inl (by decide)⟩
  exact ⟨capacity, verdict, reported, decided,
    (slots_and_admission ⟨by decide +kernel, by decide +kernel⟩ reported (shown_listedOnce _ _ _)
      decided (shown_listedOnce _ _ _) (by decide +kernel)).2 complete⟩

end SakalaAgent
