/-
Module: SakalaAgent.Proofs.StartupRecovery
Layer: Proofs
Purpose: Nothing of what an earlier agent has left on the node is lost at the start. While nothing else
  changes a container, the scan finds every managed workload, and its recovery accounts for each of
  them: it is reported, or its record is taken over and it is followed if it runs.
Trusted boundary: none
Main exports: Container.discovered, DockerState.Scannable, Node.Still, Recovered, startup_recovered
-/
import SakalaAgent.Proofs.FreeSlots
import SakalaAgent.Proofs.RuntimeFutures
import SakalaAgent.Proofs.Workloads
import SakalaAgent.Runtime.Followers
import SakalaAgent.Runtime.NodeScript
import SakalaAgent.Runtime.Recovery

namespace SakalaAgent

open Async

/-! ### What there is to find -/

namespace Container

/-- The deployment of a managed container. -/
def deployment (container : Container) : Option Uuid :=
  Uuid.parseText (container.label deploymentIdLabel)

/-- A container as a workload, if it is labelled as one and has not stopped. -/
def discovered (container : Container) : Option RuntimeWorkload :=
  match container.project, container.deployment with
  | some projectId, some deploymentId =>
      if isStoppedStatus container.status then none
      else some
        { containerId := container.shortId
          projectId
          deploymentId
          status := container.status }
  | _, _ => none

end Container

namespace DockerState

/-- What the start of an agent lists of the containers can be read: the listings fit into what is
captured, and the managed containers have the ids of deployments as they are printed. -/
structure Scannable (docker : DockerState) : Prop where
  scan : docker.Presentable inspectionListing.line
  lookups : ∀ projectId deploymentId,
    docker.Presentable (workloadListing projectId deploymentId).line
  deployments : ∀ container ∈ docker.managed, ∀ deploymentId,
    container.deployment = some deploymentId →
      container.label deploymentIdLabel = deploymentId.toText

end DockerState

variable {docker : DockerState}

theorem lineWorkloads_psRow (legible : docker.Legible) {container : Container}
    (present : container ∈ docker.containers) :
    lineWorkloads (psRow inspectColumns container) = container.discovered.toList := by
  have fields : Text.splitOn '\t' (psRow inspectColumns container) =
      [container.shortId, container.status, container.label projectIdLabel,
        container.label deploymentIdLabel] :=
    legible.splitOn_psRow present _ _
  have project : Uuid.parseText (container.label projectIdLabel) = container.project := rfl
  have deployment : Uuid.parseText (container.label deploymentIdLabel) = container.deployment := rfl
  simp only [lineWorkloads, inspectLine, fields, field, List.getElem?_cons_zero,
    List.getElem?_cons_succ, Option.getD_some, Option.bind_some, project, deployment,
    Container.discovered]
  cases container.project with
  | none => rfl
  | some projectId =>
      cases container.deployment with
      | none => rfl
      | some deploymentId =>
          cases stopped : isStoppedStatus container.status with
          | true =>
              obtain ⟨reason, orphaned⟩ := orphanReason_some stopped projectId deploymentId
              simp [orphaned]
          | false => simp [orphanReason_none stopped]

/-- The scan finds exactly the workloads that there are. -/
theorem DockerState.Scannable.workloads (scannable : docker.Scannable) :
    (reconciliationReport (captured
      (docker.psLines true false [managedLabel] inspectColumns))).workloads =
        docker.managed.filterMap Container.discovered := by
  obtain ⟨legible, fits⟩ := scannable.scan
  have lines := legible.contentLines fits
  rw [reconciliationReport_workloads, inspectColumns, lines, List.flatMap_map,
    List.filterMap_eq_flatMap_toList]
  exact List.flatMap_congr fun container member =>
    lineWorkloads_psRow legible (DockerState.mem_of_managed member)

theorem Container.lookup_of_label (container : Container) {key : Text} {id : Uuid}
    (same : container.label key = id.toText) : container.labels.lookup key = some id.toText := by
  unfold Container.label at same
  cases entry : container.labels.lookup key with
  | none =>
      rw [entry] at same
      exact absurd same.symm (toText_ne_nil id)
  | some text =>
      rw [entry] at same
      exact congrArg some same

/-- A container is found again under the ids it was found with. -/
theorem DockerState.Scannable.listed (scannable : docker.Scannable) {workload : RuntimeWorkload}
    (found : workload ∈ docker.managed.filterMap Container.discovered) :
    docker.listed true (workloadFilters workload.projectId workload.deploymentId) ≠ [] := by
  obtain ⟨container, managed, discovered⟩ := List.mem_filterMap.mp found
  have present := DockerState.mem_of_managed managed
  have labelled : container.labels.lookup managedLabel.1 = some managedLabel.2 := by
    simpa using (List.mem_filter.mp managed).2
  unfold Container.discovered at discovered
  split at discovered
  · rename_i projectId deploymentId project deployment
    split at discovered
    · cases discovered
    · cases discovered
      have projectLabel : container.label projectIdLabel = projectId.toText := by
        have own := (scannable.scan.1 container present).2.2.1 labelled
        rw [project] at own
        exact (Option.some.inj own).symm
      have deploymentLabel := scannable.deployments container managed deploymentId deployment
      refine List.ne_nil_of_mem (List.mem_filter.mpr ⟨present, ?_⟩)
      simp [workloadFilters, labelled, container.lookup_of_label projectLabel,
        container.lookup_of_label deploymentLabel]
  · cases discovered

/-- So its listing does not miss it. -/
theorem DockerState.Scannable.parseWorkload_ne (scannable : docker.Scannable)
    {workload : RuntimeWorkload} (found : workload ∈ docker.managed.filterMap Container.discovered) :
    parseWorkload (captured (docker.psLines true false
      (workloadFilters workload.projectId workload.deploymentId) workloadColumns))
        workload.projectId workload.deploymentId ≠ .ok none := by
  have listed := scannable.listed found
  obtain ⟨legible, fits⟩ := scannable.lookups workload.projectId workload.deploymentId
  intro missed
  rw [workloadColumns] at fits missed
  rw [parseWorkload, legible.contentLines fits, List.head?_map] at missed
  cases first : (docker.listed true
      (workloadFilters workload.projectId workload.deploymentId)).head? with
  | none => exact listed (List.head?_eq_none_iff.mp first)
  | some container =>
      rw [first, Option.map_some] at missed
      dsimp only at missed
      split at missed
      · cases missed
      · split at missed
        · cases missed
        · cases missed

theorem workloadOutcome_ne (scannable : docker.Scannable) {workload : RuntimeWorkload}
    (found : workload ∈ docker.managed.filterMap Container.discovered) {result : ProcessResult}
    (truthful : result.success = true → result.stdout = docker.psLines true false
      (workloadFilters workload.projectId workload.deploymentId) workloadColumns) :
    workloadOutcome workload.projectId workload.deploymentId result ≠ .ok none := by
  intro missed
  obtain ⟨output, succeeded, printed, verdict⟩ := read_of_processOutcome missed
  unfold workloadVerdict at verdict
  split at verdict
  · rename_i success
    rw [printed, truthful (succeeded ▸ success)] at verdict
    exact scannable.parseWorkload_ne found verdict
  · cases verdict

/-- What is found is what the listing holds. -/
theorem looked_of_workloadOutcome {projectId deploymentId : Uuid} {result : ProcessResult}
    {own : ManagedWorkload}
    (truthful : result.success = true → result.stdout =
      docker.psLines true false (workloadFilters projectId deploymentId) workloadColumns)
    (read : workloadOutcome projectId deploymentId result = .ok (some own)) :
    Followers.workload docker projectId deploymentId = .ok (some own) := by
  obtain ⟨output, succeeded, printed, verdict⟩ := read_of_processOutcome read
  unfold workloadVerdict at verdict
  split at verdict
  · rename_i success
    rw [printed, truthful (succeeded ▸ success)] at verdict
    exact verdict
  · cases verdict

/-! ### A node on which nothing else changes a container -/

/-- The containers are these, and nothing that is still in flight changes one. -/
structure Node.Still (docker : DockerState) (node : Node) : Prop where
  docker : node.docker = docker
  inFlight : ∀ spec ∈ node.inFlight, spec.line.isQuiet = true

/-- An operation of the scan: it changes no container and starts no follower. -/
def RuntimeOp.scans : RuntimeOp → Bool
  | .process spec => spec.line.isQuiet
  | .startLogFollower _ => false
  | _ => true

/-- The followers that are asked for, and whether each was started. -/
def followersAsked (h : History Runtime) : List (Text × Bool) :=
  h.filterMap fun event => match event with
    | .done (.startLogFollower reference) started => some (reference, started)
    | _ => none

theorem followersAsked_append (h h' : History Runtime) :
    followersAsked (h ++ h') = followersAsked h ++ followersAsked h' :=
  List.filterMap_append ..

section Still

variable {thread : ThreadId} {node node' : Node} {h : History Runtime}

theorem Node.Still.lands (still : node.Still docker) (lands : node.Lands node') :
    node'.Still docker := by
  refine ⟨?_, fun spec flying => still.inFlight spec (inFlight_of_lands lands flying)⟩
  obtain ⟨before, spec, after, flying, settled⟩ := lands
  have member : spec ∈ node.inFlight := flying ▸ List.mem_append_right _ List.mem_cons_self
  exact (settled.docker_of_isQuiet (still.inFlight spec member)).trans still.docker

theorem Node.Still.step (still : node.Still docker) {op : RuntimeOp} {res : op.Res}
    (quiet : ∀ spec, op = .process spec → spec.line.isQuiet = true)
    (step : node.step thread op res node') : node'.Still docker := by
  refine ⟨?_, inFlight_of_step step ▸ still.inFlight⟩
  cases op with
  | process spec => exact (step.2.docker_of_isQuiet (quiet spec rfl)).trans still.docker
  | _ => exact (docker_of_step (fun spec same => by cases same) step).trans still.docker

theorem Node.Still.leave (still : node.Still docker) {op : RuntimeOp} {outcome : Option op.Res}
    (quiet : ∀ spec, op = .process spec → spec.line.isQuiet = true)
    (left : node.leave op outcome node') : node'.Still docker := by
  refine ⟨(docker_of_leave left).trans still.docker, fun spec flying => ?_⟩
  rcases inFlight_of_leave left flying with old | same
  · exact still.inFlight spec old
  · exact quiet spec same

theorem Node.Still.drifts (still : node.Still docker)
    (drifts : Drifts (runtimeSemantics thread) node node') : node'.Still docker :=
  drifts.keeps (fun node => node.Still docker) (fun _ _ => Node.Still.lands) still

/-- A listing shows the containers that there are, and leaves them as they are. -/
theorem Node.Still.listing (still : node.Still docker) {all quiet : Bool}
    {filters : List LabelFilter} {columns : List PsColumn} {result : ProcessResult}
    (stepped : node.step thread
      (.process (ContainerEngine.docker (.ps all quiet filters columns))) result node') :
    node'.Still docker ∧
      (result.success = true → result.stdout = docker.psLines all quiet filters columns) := by
  constructor
  · apply still.step ?_ stepped
    rintro spec ⟨⟩
    rfl
  · intro succeeded
    have shown : result.stdout = node.docker.psLines all quiet filters columns :=
      stepped.1 succeeded
    rw [shown, still.docker]

/-- What the scan asks for leaves the containers as they are, and starts no follower. -/
theorem preserves_scans : Prog.Preserves (runtimeSemantics thread) (fun op => op.scans = true)
    fun node h => node.Still docker ∧ followersAsked h = [] := by
  have quiet : ∀ {op : RuntimeOp}, op.scans = true →
      ∀ spec, op = .process spec → spec.line.isQuiet = true := by
    rintro _ scans spec rfl
    exact scans
  refine ⟨?_, ?_, ?_, ?_⟩
  · intro op scans node h res node' known step
    refine ⟨known.1.step (quiet scans) step, ?_⟩
    rw [followersAsked_append, known.2]
    cases op with
    | startLogFollower reference => cases scans
    | _ => rfl
  · intro op scans node h outcome node' known left
    refine ⟨known.1.leave (quiet scans) left, ?_⟩
    rw [followersAsked_append, known.2]
    rfl
  · intro which op node h known
    refine ⟨known.1, ?_⟩
    rw [followersAsked_append, known.2]
    rfl
  · intro node h node' known lands
    exact ⟨known.1.lands lands, known.2⟩

end Still

/-! ### What becomes of the workloads -/

/-- The container a workload is about, by its id and those of its deployment. -/
def RuntimeWorkload.key (workload : RuntimeWorkload) : Text × Uuid × Uuid :=
  (workload.containerId, workload.projectId, workload.deploymentId)

def RuntimeCompatibilityIssue.key (issue : RuntimeCompatibilityIssue) : Text × Uuid × Uuid :=
  (issue.containerId, issue.projectId, issue.deploymentId)

/-- A workload is looked up and found in a container, with the command that deployed it. -/
structure RuntimeWorkload.FoundIn (workload : RuntimeWorkload) (docker : DockerState)
    (own : ManagedWorkload) (container : Container) : Prop where
  found : docker.Found workload.projectId workload.deploymentId own container
  looked : Followers.workload docker workload.projectId workload.deploymentId = .ok (some own)
  recorded : own.commandId.isSome = true

/-- One of the workloads runs in the container that a follower is asked for. -/
def MayFollow (docker : DockerState) (reporterFactory : Bool) (workloads : List RuntimeWorkload)
    (reference : Text) : Prop :=
  reporterFactory = true ∧ ∃ workload ∈ workloads, ∃ own container,
    workload.FoundIn docker own container ∧ reference = container.shortId ∧
      isUpStatus container.status = true

/-- The record of a workload is taken over, and it is followed if it runs and there is somebody to
report to. -/
def TakenOver (docker : DockerState) (reporterFactory : Bool) (asked : List (Text × Bool))
    (workload : RuntimeWorkload) : Prop :=
  ∃ own container, workload.FoundIn docker own container ∧
    (reporterFactory = true → isUpStatus container.status = true →
      container.shortId ∈ asked.map Prod.fst)

/-- What a recovery of workloads adds to a report, and which followers it asks for. -/
structure Accounts (docker : DockerState) (reporterFactory : Bool) (workloads : List RuntimeWorkload)
    (report report' : StartupReport) (asked : List (Text × Bool)) : Prop where
  kept : report'.workloads = report.workloads
  counted : report'.recoveredExecutionRecords + report'.compatibilityIssues.length =
    report.recoveredExecutionRecords + report.compatibilityIssues.length + workloads.length
  flagged : ∃ issues, report'.compatibilityIssues = report.compatibilityIssues ++ issues ∧
    (issues.map RuntimeCompatibilityIssue.key).Sublist (workloads.map RuntimeWorkload.key)
  settled : ∀ workload ∈ workloads, (∃ issue ∈ report'.compatibilityIssues,
    issue.key = workload.key) ∨ TakenOver docker reporterFactory asked workload
  followed : ∀ entry ∈ asked, MayFollow docker reporterFactory workloads entry.1
  reattached : report'.reattachedLogFollowers =
    report.reattachedLogFollowers + (asked.filter Prod.snd).length

namespace Accounts

variable {reporterFactory : Bool} {workload : RuntimeWorkload} {workloads : List RuntimeWorkload}
  {report report' report'' : StartupReport} {asked asked' : List (Text × Bool)}

theorem nil : Accounts docker reporterFactory [] report report [] where
  kept := rfl
  counted := rfl
  flagged := ⟨[], (List.append_nil _).symm, .slnil⟩
  settled _ member := by cases member
  followed _ member := by cases member
  reattached := rfl

/-- One workload, and then the others. -/
theorem cons (first : Accounts docker reporterFactory [workload] report report' asked)
    (rest : Accounts docker reporterFactory workloads report' report'' asked') :
    Accounts docker reporterFactory (workload :: workloads) report report'' (asked ++ asked') where
  kept := rest.kept.trans first.kept
  counted := by
    have one := first.counted
    have others := rest.counted
    simp only [List.length_cons, List.length_nil] at one ⊢
    omega
  flagged := by
    obtain ⟨issues, added, own⟩ := first.flagged
    obtain ⟨issues', added', others⟩ := rest.flagged
    refine ⟨issues ++ issues', by rw [added', added, List.append_assoc], ?_⟩
    rw [List.map_append]
    exact own.append others
  settled other member := by
    obtain ⟨issues', added', -⟩ := rest.flagged
    rcases List.mem_cons.mp member with rfl | later
    · rcases first.settled other List.mem_cons_self with ⟨issue, reported, same⟩ |
        ⟨own, container, found, follows⟩
      · exact .inl ⟨issue, added' ▸ List.mem_append_left _ reported, same⟩
      · refine .inr ⟨own, container, found, fun factory up => ?_⟩
        rw [List.map_append]
        exact List.mem_append_left _ (follows factory up)
    · refine (rest.settled other later).imp_right ?_
      rintro ⟨own, container, found, follows⟩
      refine ⟨own, container, found, fun factory up => ?_⟩
      rw [List.map_append]
      exact List.mem_append_right _ (follows factory up)
  followed entry member := by
    rcases List.mem_append.mp member with early | late
    · obtain ⟨factory, other, same, known⟩ := first.followed entry early
      obtain rfl := List.mem_singleton.mp same
      exact ⟨factory, other, List.mem_cons_self, known⟩
    · obtain ⟨factory, other, later, known⟩ := rest.followed entry late
      exact ⟨factory, other, List.mem_cons_of_mem _ later, known⟩
  reattached := by
    rw [rest.reattached, first.reattached, List.filter_append, List.length_append, Nat.add_assoc]

/-- A workload that is reported. -/
theorem issue (report : StartupReport) (workload : RuntimeWorkload) (reason : String) :
    Accounts docker reporterFactory [workload] report (report.addIssue workload reason) [] where
  kept := rfl
  counted := by
    simp only [StartupReport.addIssue, List.length_append, List.length_cons, List.length_nil]
    omega
  flagged := ⟨_, rfl, List.Sublist.refl _⟩
  settled other member := by
    obtain rfl := List.mem_singleton.mp member
    exact .inl ⟨_, List.mem_append_right _ (List.mem_singleton_self _), rfl⟩
  followed _ member := by cases member
  reattached := rfl

/-- A workload of which the record is taken over, while nobody follows it. -/
theorem record (taken : TakenOver docker reporterFactory [] workload) :
    Accounts docker reporterFactory [workload] report report.addRecord [] where
  kept := rfl
  counted := by
    simp only [StartupReport.addRecord, List.length_cons, List.length_nil]
    omega
  flagged := ⟨[], (List.append_nil _).symm, List.nil_sublist _⟩
  settled other member := by
    obtain rfl := List.mem_singleton.mp member
    exact .inr taken
  followed _ member := by cases member
  reattached := rfl

/-- A workload that is followed. -/
theorem follow {own : ManagedWorkload} {container : Container} {started : Bool}
    (found : workload.FoundIn docker own container) (factory : reporterFactory = true)
    (up : isUpStatus container.status = true) :
    Accounts docker reporterFactory [workload] report
      (if started then report.addRecord.addFollower else report.addRecord)
      [(container.shortId, started)] where
  kept := by cases started <;> rfl
  counted := by
    cases started <;>
      · simp only [StartupReport.addRecord, StartupReport.addFollower, List.length_cons,
          List.length_nil, if_true, if_false, Bool.false_eq_true]
        omega
  flagged := ⟨[], by cases started <;> exact (List.append_nil _).symm, List.nil_sublist _⟩
  settled other member := by
    obtain rfl := List.mem_singleton.mp member
    exact .inr ⟨own, container, found, fun _ _ => List.mem_singleton_self _⟩
  followed entry member := by
    obtain rfl := List.mem_singleton.mp member
    exact ⟨factory, workload, List.mem_singleton_self _, own, container, found, rfl, up⟩
  reattached := by cases started <;> rfl

end Accounts

/-! ### The recovery of the workloads -/

section Recovery

variable {thread : ThreadId} {node : Node} {h : History Runtime} {reporterFactory : Bool}
  {report : StartupReport}

/-- The report that ends a recovery, behind what has been asked for before. -/
def Recovers (docker : DockerState) (reporterFactory : Bool) (workloads : List RuntimeWorkload)
    (report : StartupReport) (h : History Runtime) (outcome : Except RuntimeError StartupReport)
    (node' : Node) (h' : History Runtime) : Prop :=
  ∃ report' asked, outcome = .ok report' ∧ node'.Still docker ∧
    followersAsked h' = followersAsked h ++ asked ∧
    Accounts docker reporterFactory workloads report report' asked

/-- What is looked up is made of such a listing. -/
theorem wp_lookup {β : Type} {projectId deploymentId : Uuid}
    {f : Except RuntimeError (Option ManagedWorkload) → RuntimeM β}
    {Q : Except RuntimeError β → Node → History Runtime → Prop} (still : node.Still docker)
    (after : ∀ (node' : Node) (result : ProcessResult), node'.Still docker →
      (result.success = true → result.stdout =
        docker.psLines true false (workloadFilters projectId deploymentId) workloadColumns) →
      Prog.wp (runtimeSemantics thread) Q (fun _ _ => True)
        (f (workloadOutcome projectId deploymentId result)).run node'
        (h ++ [.done (.process (workloadListing projectId deploymentId)) result])) :
    Prog.wp (runtimeSemantics thread) Q (fun _ _ => True)
      (Fallible.attempt (ContainerEngine.workload projectId deploymentId) >>= f).run node h := by
  rw [Fallible.wp_attempt, workload_eq]
  intro node₀ drifts
  refine ⟨fun _ _ _ _ => trivial, fun result node' step => ?_⟩
  have stepped : node₀.step thread (.process (workloadListing projectId deploymentId)) result
      node' := step
  obtain ⟨still', truthful⟩ := (still.drifts drifts).listing stepped
  exact after node' result still' truthful

theorem wp_recoverRecord {workload : RuntimeWorkload} {own : ManagedWorkload}
    {container : Container} (still : node.Still docker)
    (found : workload.FoundIn docker own container) :
    Prog.wp (runtimeSemantics thread)
      (Recovers docker reporterFactory [workload] report h) (fun _ _ => True)
      (DockerRuntimeExecutor.recoverRecord reporterFactory report.addRecord own).run node h := by
  unfold DockerRuntimeExecutor.recoverRecord
  split
  · rename_i follows
    obtain ⟨up, factory⟩ := Bool.and_eq_true_iff.mp follows
    intro node₀ drifts
    refine ⟨fun _ _ _ _ => trivial, fun started node' step => ?_⟩
    have stepped : node₀.step thread (.startLogFollower own.containerId) started node' := step
    refine ⟨_, [(container.shortId, started)], rfl,
      (still.drifts drifts).step (fun spec same => by cases same) stepped, ?_, ?_⟩
    · rw [followersAsked_append, ← found.found.containerId]
      rfl
    · exact .follow found factory (found.found.status ▸ up)
  · rename_i silent
    refine ⟨_, [], rfl, still, (List.append_nil _).symm, .record ⟨own, container, found, ?_⟩⟩
    intro factory up
    rw [← found.found.status] at up
    exact absurd (Bool.and_eq_true_iff.mpr ⟨up, factory⟩) silent

/-- One turn of the loop accounts for its workload. -/
theorem wp_recoverWorkload (scannable : docker.Scannable) {workload : RuntimeWorkload}
    (discovered : workload ∈ docker.managed.filterMap Container.discovered)
    (still : node.Still docker) :
    Prog.wp (runtimeSemantics thread)
      (Recovers docker reporterFactory [workload] report h) (fun _ _ => True)
      (DockerRuntimeExecutor.recoverWorkload reporterFactory report workload).run node h := by
  apply wp_lookup still
  intro node' result still truthful
  have unheard : followersAsked (h ++ [.done (.process
      (workloadListing workload.projectId workload.deploymentId)) result]) = followersAsked h := by
    rw [followersAsked_append]
    exact List.append_nil _
  cases read : workloadOutcome workload.projectId workload.deploymentId result with
  | error error =>
      exact ⟨_, [], rfl, still, unheard.trans (List.append_nil _).symm, .issue report workload _⟩
  | ok found =>
      cases found with
      | none => exact absurd read (workloadOutcome_ne scannable discovered truthful)
      | some own =>
          obtain ⟨container, found⟩ := found_of_workloadOutcome (scannable.lookups _ _) truthful read
          cases recorded : own.commandId with
          | none =>
              simp only [recorded]
              exact ⟨_, [], rfl, still, unheard.trans (List.append_nil _).symm,
                .issue report workload _⟩
          | some commandId =>
              simp only [recorded]
              have foundIn : workload.FoundIn docker own container :=
                ⟨found, looked_of_workloadOutcome truthful read, recorded ▸ rfl⟩
              apply Prog.wp_mono (wp_recoverRecord still foundIn) ?_ fun _ _ holds => holds
              rintro outcome node h' ⟨report', asked, same, still, heard, accounts⟩
              exact ⟨report', asked, same, still, heard.trans (unheard ▸ rfl), accounts⟩

/-- The loop accounts for all of them. -/
theorem wp_recoverWorkloads (scannable : docker.Scannable) {workloads : List RuntimeWorkload}
    (discovered : ∀ workload ∈ workloads, workload ∈ docker.managed.filterMap Container.discovered)
    (still : node.Still docker) :
    Prog.wp (runtimeSemantics thread)
      (Recovers docker reporterFactory workloads report h) (fun _ _ => True)
      (DockerRuntimeExecutor.recoverWorkloads reporterFactory workloads report).run node h := by
  induction workloads generalizing node h report with
  | nil => exact ⟨report, [], rfl, still, (List.append_nil _).symm, .nil⟩
  | cons workload workloads ih =>
      apply Fallible.wp_bind.mpr
      apply Prog.wp_mono
        (wp_recoverWorkload scannable (discovered workload List.mem_cons_self) still) ?_
        fun _ _ holds => holds
      rintro _ node' h' ⟨report', asked, rfl, still, heard, first⟩
      apply Prog.wp_mono (ih (fun other member => discovered other (List.mem_cons_of_mem _ member))
        still) ?_ fun _ _ holds => holds
      rintro outcome node'' h'' ⟨report'', asked', same, still, heard', rest⟩
      exact ⟨report'', asked ++ asked', same, still,
        by rw [heard', heard, List.append_assoc], first.cons rest⟩

end Recovery

/-! ### The scan in front of it -/

section Startup

variable {thread : ThreadId} {node : Node} {h : History Runtime} {executor : DockerRuntimeExecutor}
  {detectStaleImages : RuntimeM (List RuntimeStaleImage)} {reporterFactory : Bool}

/-- Every workload of the node is accounted for: it is reported, or its record is taken over and it is
followed if it runs. Nothing else is followed. -/
structure Recovered (docker : DockerState) (reporterFactory : Bool) (report : StartupReport)
    (h : History Runtime) : Prop where
  found : report.workloads = docker.managed.filterMap Container.discovered
  counted : report.recoveredExecutionRecords + report.compatibilityIssues.length =
    report.workloads.length
  flagged : (report.compatibilityIssues.map RuntimeCompatibilityIssue.key).Sublist
    (report.workloads.map RuntimeWorkload.key)
  settled : ∀ workload ∈ report.workloads, (∃ issue ∈ report.compatibilityIssues,
    issue.key = workload.key) ∨ TakenOver docker reporterFactory (followersAsked h) workload
  followed : ∀ entry ∈ followersAsked h, MayFollow docker reporterFactory report.workloads entry.1
  reattached : report.reattachedLogFollowers = ((followersAsked h).filter Prod.snd).length

/-- How a start ends: an error leaves everything unfollowed. -/
structure Started (docker : DockerState) (reporterFactory : Bool)
    (outcome : Except RuntimeError StartupReport) (node' : Node) (h : History Runtime) : Prop where
  still : node'.Still docker
  recovered : ∀ report, outcome = .ok report → Recovered docker reporterFactory report h
  failed : ∀ error, outcome = .error error → followersAsked h = []

theorem Started.error {error : RuntimeError} (still : node.Still docker)
    (unheard : followersAsked h = []) :
    Started docker reporterFactory (.error error) node h where
  still := still
  recovered report same := by cases same
  failed _ _ := unheard

/-- The loop behind a scan that has found what there is. -/
theorem Started.of_recovers (report : StartupReport) {node' : Node} {h' : History Runtime}
    {outcome : Except RuntimeError StartupReport}
    (found : report.workloads = docker.managed.filterMap Container.discovered)
    (records : report.recoveredExecutionRecords = 0) (issues : report.compatibilityIssues = [])
    (followers : report.reattachedLogFollowers = 0) (unheard : followersAsked h = [])
    (recovers : Recovers docker reporterFactory report.workloads report h outcome node' h') :
    Started docker reporterFactory outcome node' h' := by
  obtain ⟨report', asked, rfl, still, heard, accounts⟩ := recovers
  rw [unheard, List.nil_append] at heard
  refine ⟨still, ?_, fun error same => by cases same⟩
  rintro _ ⟨⟩
  constructor
  · exact accounts.kept.trans found
  · rw [accounts.counted, records, issues, accounts.kept]
    exact Nat.zero_add _
  · obtain ⟨added, same, own⟩ := accounts.flagged
    rw [same, issues, accounts.kept]
    exact own
  · rw [heard, accounts.kept]
    exact accounts.settled
  · rw [heard, accounts.kept]
    exact accounts.followed
  · rw [heard, accounts.reattached, followers, Nat.zero_add]

/-- A part of the scan leaves the containers as they are, and starts no follower. -/
theorem wp_scan_bind {α : Type} {p : RuntimeM α} {f : α → RuntimeM StartupReport}
    (ops : Fallible.AllOps (fun op : RuntimeOp => op.scans = true) p) (still : node.Still docker)
    (unheard : followersAsked h = [])
    (after : ∀ value (node' : Node) h', node'.Still docker → followersAsked h' = [] →
      Prog.wp (runtimeSemantics thread) (Started docker reporterFactory) (fun _ _ => True)
        (f value).run node' h') :
    Prog.wp (runtimeSemantics thread) (Started docker reporterFactory) (fun _ _ => True)
      (p >>= f).run node h := by
  apply Fallible.wp_bind.mpr
  apply Prog.wp_preserved preserves_scans ops ⟨still, unheard⟩ ?_ fun _ _ _ => trivial
  rintro (error | value) node' h' ⟨still, unheard⟩
  · exact .error still unheard
  · exact after value node' h' still unheard

theorem recover_eq : executor.recover detectStaleImages reporterFactory = (do
    let report ← ContainerEngine.detectOrphans
    let staleRoutes ← executor.routes.discoverStaleRoutes
      (DockerRuntimeExecutor.routableRoutes report)
    let staleImages ← detectStaleImages
    let cleanedWorkspaces ← WorkspaceManager.cleanupStale executor.workspaceGcMaxAge
    DockerRuntimeExecutor.recoverWorkloads reporterFactory report.workloads
      { report with staleRoutes, staleImages, cleanedWorkspaces }) := by
  simp only [DockerRuntimeExecutor.recover, DockerRuntimeExecutor.reconcile, bind_assoc, pure_bind]

/-- The listing of the scan shows the workloads that there are. -/
theorem workloads_of_inspectionOutcome (scannable : docker.Scannable) {result : ProcessResult}
    {report : RuntimeReconciliationReport}
    (truthful : result.success = true → result.stdout =
      docker.psLines true false [managedLabel] inspectColumns)
    (read : inspectionOutcome result = .ok report) :
    report.workloads = docker.managed.filterMap Container.discovered := by
  obtain ⟨output, succeeded, printed, verdict⟩ := read_of_processOutcome read
  unfold inspectionVerdict at verdict
  split at verdict
  · rename_i success
    rw [printed, truthful (succeeded ▸ success)] at verdict
    cases verdict
    exact scannable.workloads
  · cases verdict

theorem wp_recover (scannable : docker.Scannable) (still : node.Still docker)
    (images : Fallible.AllOps (fun op : RuntimeOp => op.scans = true) detectStaleImages) :
    Prog.wp (runtimeSemantics thread) (Started docker reporterFactory) (fun _ _ => True)
      (executor.recover detectStaleImages reporterFactory).run node [] := by
  rw [recover_eq, detectOrphans_eq, bind_assoc, Fallible.wp_perform]
  intro node₀ drifts
  refine ⟨fun _ _ _ _ => trivial, fun result node' step => ?_⟩
  have stepped : node₀.step thread (.process inspectionListing) result node' := step
  obtain ⟨still', truthful⟩ := (still.drifts drifts).listing stepped
  rw [Fallible.wp_ofExcept]
  cases read : inspectionOutcome result with
  | error error => exact .error still' rfl
  | ok report =>
      have found := workloads_of_inspectionOutcome scannable truthful read
      apply wp_scan_bind (Admits.discoverStaleRoutes (fun _ _ => rfl) _ _) still' rfl
      intro staleRoutes node h still unheard
      apply wp_scan_bind images still unheard
      intro staleImages node h still unheard
      apply wp_scan_bind (Admits.cleanupStale (fun _ _ => rfl) _) still unheard
      intro cleanedWorkspaces node h still unheard
      apply Prog.wp_mono (wp_recoverWorkloads scannable (fun _ member => found ▸ member) still) ?_
        fun _ _ holds => holds
      exact fun outcome node' h' recovers =>
        .of_recovers { report with staleRoutes, staleImages, cleanedWorkspaces } found rfl rfl rfl
          unheard recovers

/-- In every run of the start of an executor during which nothing else changes a container. -/
theorem startup_recovered (scannable : docker.Scannable) (still : node.Still docker)
    (images : Fallible.AllOps (fun op : RuntimeOp => op.scans = true) detectStaleImages)
    {outcome : Except RuntimeError StartupReport} {node' : Node}
    (run : Exec (runtimeSemantics thread)
      (executor.recover detectStaleImages reporterFactory).run node [] outcome node' h) :
    Started docker reporterFactory outcome node' h :=
  Prog.wp_sound _ run (wp_recover scannable still images)

end Startup

/-! ### A node with two workloads, one of which an earlier agent has labelled -/

theorem byteLength_flatMap_filter (row : Container → Text) (keep : Container → Bool)
    (containers : List Container) :
    Text.byteLength ((containers.filter keep).flatMap row) ≤
      Text.byteLength (containers.flatMap row) := by
  induction containers with
  | nil => exact Nat.le_refl _
  | cons container containers ih =>
      rw [List.filter_cons, List.flatMap_cons, Text.byteLength_append]
      split
      · rw [List.flatMap_cons, Text.byteLength_append]
        exact Nat.add_le_add_left ih _
      · exact ih.trans (Nat.le_add_left ..)

/-- A listing of some of the containers is not longer than that of all. -/
theorem byteLength_psOutput_le (docker : DockerState) (filters : List LabelFilter)
    (columns : List PsColumn) :
    Text.byteLength (docker.psOutput true false filters columns) ≤
      Text.byteLength (docker.psOutput true false [] columns) := by
  have whole : docker.listed true [] = docker.containers :=
    List.filter_eq_self.mpr fun _ _ => rfl
  rw [DockerState.psOutput, DockerState.psOutput, whole]
  exact byteLength_flatMap_filter _ _ _

namespace LeftBehind

theorem plain_id (project : Fin 16) : Plain (List.replicate 64 (Uuid.hexDigit project)) := by
  revert project
  decide

theorem plain_status : Plain "Up 2 days".toList := by
  decide

/-- The container of a deployment of the project of the given digit. -/
def container (project : Fin 16) (more : List (Text × Text)) : Container where
  id := List.replicate 64 (Uuid.hexDigit project)
  name := (Sample.deployment project).container
  status := "Up 2 days".toList
  labels := [managedLabel, (projectIdLabel, (Sample.uuid project).toText),
    (deploymentIdLabel, (Sample.uuid project).toText), (domainLabel, "app.run.sakala.dev".toList),
    (portLabel, "80".toList)] ++ more
  plainId := plain_id project
  plainStatus := plain_status

def recorded : Container :=
  container 1 [(commandIdLabel, (Sample.uuid 5).toText)]

theorem distinct_ids : ([recorded, container 2 []].map Container.id).Nodup := by
  decide

theorem distinct_names : ([recorded, container 2 []].map Container.name).Nodup := by
  decide

def daemon : DockerState where
  containers := [recorded, container 2 []]
  tags := []
  distinctIds := distinct_ids
  distinctNames := distinct_names

def node : Node :=
  { Sample.node with docker := daemon }

theorem legible : daemon.Legible := by
  decide +kernel

theorem fits (columns : List PsColumn)
    (all : Text.byteLength (daemon.psOutput true false [] columns) ≤ maxCaptureBytes)
    (filters : List LabelFilter) : daemon.Presentable (.docker (.ps true false filters columns)) :=
  ⟨legible, (byteLength_psOutput_le daemon filters columns).trans all⟩

theorem label_deployment (project : Fin 16) (more : List (Text × Text)) :
    (container project more).label deploymentIdLabel = (Sample.uuid project).toText :=
  rfl

theorem scannable : daemon.Scannable where
  scan := fits inspectColumns (by decide +kernel) _
  lookups _ _ := fits workloadColumns (by decide +kernel) _
  deployments other managed deploymentId read := by
    have known : ∃ project more, other = container project more := by
      rcases List.mem_cons.mp (DockerState.mem_of_managed managed) with rfl | member
      · exact ⟨1, _, rfl⟩
      · exact ⟨2, [], List.mem_singleton.mp member⟩
    obtain ⟨project, more, rfl⟩ := known
    rw [Container.deployment, label_deployment, Uuid.parseText_toText] at read
    cases read
    exact label_deployment project more

theorem still : node.Still daemon :=
  ⟨rfl, fun _ flying => by cases flying⟩

/-- One record is taken over, and one workload is reported. -/
def isSplit : Except RuntimeError StartupReport → Bool
  | .ok report => report.recoveredExecutionRecords = 1 && report.compatibilityIssues.length = 1 &&
      report.reattachedLogFollowers = 1
  | .error _ => false

theorem recovers : ∃ outcome node' h,
    Exec (runtimeSemantics 0) (Sample.executor.recover (pure []) true).run node [] outcome node' h ∧
      isSplit outcome = true := by
  have finished : ∃ ended, Prog.play (Sample.script.script 0)
      (Sample.executor.recover (pure []) true).run node [] = some ended ∧
      isSplit ended.1 = true := by
    apply (Option.any_eq_true ..).mp
    decide +kernel
  obtain ⟨⟨outcome, node', h⟩, played, split⟩ := finished
  exact ⟨outcome, node', h, Prog.play_sound (Sample.script.sound 0) played, split⟩

end LeftBehind

theorem startup_recovered_leftBehind : ∃ outcome node' h,
    Exec (runtimeSemantics 0) (Sample.executor.recover (pure []) true).run LeftBehind.node []
      outcome node' h ∧
    LeftBehind.isSplit outcome = true ∧ Started LeftBehind.daemon true outcome node' h := by
  obtain ⟨outcome, node', h, run, split⟩ := LeftBehind.recovers
  exact ⟨outcome, node', h, run, split,
    startup_recovered LeftBehind.scannable LeftBehind.still (Fallible.allOps_pure _) run⟩

end SakalaAgent
