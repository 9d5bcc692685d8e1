/-
Module: SakalaAgent.Proofs.SilentLogs
Layer: Proofs
Purpose: The delivery of logs decides nothing. No future of a deployment depends on what the reporter
  answers to a log line: the sink of a process ends a line that is not delivered and goes on, and the
  warnings of the executor are not asked about. So two deployments in which everything else has the
  same outcomes do the same and have the same result.
Trusted boundary: as for the runtime
Main exports: DeafToLogs, deaf_runChecked, deaf_prepareDeployment, deaf_runDeployment,
  logs_decide_nothing
-/
import SakalaAgent.Async.Alike
import SakalaAgent.Runtime.NodeScript

namespace SakalaAgent

open Async

/-- A line for the reporter. -/
def RuntimeOp.isLog : RuntimeOp → Bool
  | .log _ => true
  | _ => false

/-- The future does the same whatever the reporter answers to log lines. -/
abbrev DeafToLogs {α : Type} (alarms : Set RuntimeAlarm) (future : RuntimeM α) : Prop :=
  Fallible.Deaf RuntimeOp.isLog alarms future

variable {alarms : Set RuntimeAlarm}

/-! ### Lines and warnings -/

/-- The future only passes lines on. -/
abbrev OnlyLogs (future : RuntimeM Unit) : Prop :=
  Prog.Mute RuntimeOp.isLog (.ok ()) future.run

theorem onlyLogs_pure : OnlyLogs (pure ()) :=
  ⟨trivial, rfl, trivial⟩

theorem onlyLogs_log {line : DeploymentLog} {next : Except RuntimeExecutionError Unit → RuntimeM Unit}
    (rest : ∀ delivered, OnlyLogs (next delivered)) :
    OnlyLogs (Fallible.perform (I := Runtime) (.log line) >>= next) :=
  ⟨⟨rfl, fun delivered => (rest delivered).ops⟩, fun delivered => (rest delivered).result,
    fun delivered => (rest delivered).noAlarms⟩

theorem onlyLogs_reportFrames (phase : String) (stream : ProcessStream) (frames : List Text) :
    OnlyLogs (reportFrames phase stream frames) := by
  induction frames with
  | nil => exact onlyLogs_pure
  | cons frame frames ih =>
      simp only [reportFrames]
      split
      · exact ih
      · apply onlyLogs_log
        rintro (error | _)
        · exact onlyLogs_pure
        · exact ih

theorem deaf_line (sink : OutputSink) (line : ProcessStream × Text) :
    DeafToLogs alarms (sink.line line) := by
  cases sink with
  | null => exact Fallible.deaf_pure _
  | reporter phase => exact (onlyLogs_reportFrames _ _ _).deaf

theorem deaf_systemLog (message : String) : DeafToLogs alarms (systemLog message) :=
  Prog.Mute.deaf (onlyLogs_log fun _ => onlyLogs_pure)

theorem deaf_warnOnError (outcome : Except RuntimeError Unit) (warning : RuntimeError → String) :
    DeafToLogs alarms (warnOnError outcome warning) := by
  cases outcome with
  | ok _ => exact Fallible.deaf_pure _
  | error error => exact deaf_systemLog _

/-! ### Processes, files and events -/

theorem deaf_runProcess (spec : CommandSpec) (sink : OutputSink) :
    DeafToLogs ∅ (runProcess spec sink) := by
  apply Fallible.deaf_bind (Fallible.deaf_perform rfl)
  intro result
  apply Fallible.deaf_bind
  · exact Fallible.deaf_forM fun line _ => deaf_line sink line
  · intro _
    split
    · exact Fallible.deaf_throw _
    · exact Fallible.deaf_pure _

theorem deaf_runChecked (spec : CommandSpec) (phase : String) :
    DeafToLogs ∅ (runChecked spec phase) := by
  apply Fallible.deaf_bind (deaf_runProcess spec _)
  intro output
  split
  · exact Fallible.deaf_pure _
  · exact Fallible.deaf_throw _

theorem deaf_emitEvent (eventType message : String) (metadata : Json) :
    DeafToLogs ∅ (emitEvent eventType message metadata) :=
  Fallible.deaf_bind (Fallible.deaf_perform rfl) fun _ => Fallible.deaf_ofExcept _

theorem deaf_onlyIf {action : RuntimeM Unit} (condition : Bool) (deaf : DeafToLogs alarms action) :
    DeafToLogs alarms (onlyIf condition action) := by
  cases condition with
  | true => exact deaf
  | false => exact Fallible.deaf_pure _

theorem deaf_tryFileOp (op : FsOp) : DeafToLogs alarms (tryFileOp op) :=
  Fallible.deaf_perform rfl

theorem deaf_fileOp (op : FsOp) : DeafToLogs ∅ (fileOp op) :=
  Fallible.deaf_bind (deaf_tryFileOp op) fun _ => Fallible.deaf_ofExcept _

/-- A deadline that the future does not know yet. -/
theorem deaf_withTimeout {α : Type} {which : RuntimeAlarm} {operation : String} {seconds : Nat}
    {future : RuntimeM α} (deaf : DeafToLogs ∅ future) :
    DeafToLogs {which} (withTimeout which operation seconds future) := by
  have timed : Prog.Deaf (I := Runtime) RuntimeOp.isLog (insert which ∅)
      (future.run.timeout which) := Prog.deaf_timeout (Set.notMem_empty _) deaf
  rw [insert_empty_eq] at timed
  have bound := Prog.deaf_bind (Set.disjoint_empty _) timed
    fun outcome => Prog.deaf_ret (outcome.getD (.error (.timeout operation seconds)))
  rwa [Set.union_empty] at bound

/-! ### Containers -/

theorem deaf_ensureCapacity (engine : ContainerEngine) (projectId : Uuid) :
    DeafToLogs ∅ (engine.ensureCapacity projectId) := by
  apply Fallible.deaf_bind (deaf_runProcess _ _)
  intro output
  split
  · exact Fallible.deaf_throw _
  · split
    · exact Fallible.deaf_pure _
    · exact Fallible.deaf_throw _

theorem deaf_reportStartupLogs (container : Text) :
    DeafToLogs ∅ (ContainerEngine.reportStartupLogs container) :=
  Fallible.deaf_bind (deaf_runChecked _ _) fun _ => Fallible.deaf_pure _

theorem deaf_waitAttempts (checker : HealthChecker) (container : Text) (remaining : Nat) :
    DeafToLogs ∅ (checker.waitAttempts container remaining) := by
  induction remaining with
  | zero => exact Fallible.deaf_throw _
  | succ remaining ih =>
      apply Fallible.deaf_bind (deaf_runProcess _ _)
      intro output
      dsimp only
      split
      · exact Fallible.deaf_pure _
      · split
        · exact Fallible.deaf_throw _
        · exact Fallible.deaf_bind (Fallible.deaf_perform rfl) fun _ => ih

theorem deaf_waitUntilReady (checker : HealthChecker) (container : Text) :
    DeafToLogs ∅ (checker.waitUntilReady container) :=
  deaf_waitAttempts checker container _

theorem deaf_cleanupArtifact (artifact : String) (command : DockerCommand) :
    DeafToLogs ∅ (ContainerEngine.cleanupArtifact artifact command) := by
  apply Fallible.deaf_bind (Fallible.deaf_attempt (deaf_runProcess _ _))
  rintro (error | output)
  · exact Fallible.deaf_pure _
  · exact Fallible.deaf_pure _

theorem deaf_cleanupCandidate (container image : Text) :
    DeafToLogs ∅ (ContainerEngine.cleanupCandidate container image) := by
  apply Fallible.deaf_bind (deaf_cleanupArtifact _ _)
  intro first
  apply Fallible.deaf_bind (deaf_cleanupArtifact _ _)
  intro second
  split
  · exact Fallible.deaf_pure _
  · exact Fallible.deaf_throw _

theorem deaf_cleanupPreviousContainer (current containerId : Text) :
    DeafToLogs ∅ (ContainerEngine.cleanupPreviousContainer current containerId) := by
  apply Fallible.deaf_bind (deaf_runProcess _ _)
  intro inspected
  split
  · exact Fallible.deaf_throw _
  · dsimp only
    split
    · exact Fallible.deaf_pure _
    · apply Fallible.deaf_bind
      · apply deaf_onlyIf
        exact Fallible.deaf_bind (deaf_runChecked _ _) fun _ => Fallible.deaf_pure _
      · intro _
        exact Fallible.deaf_bind (deaf_runChecked _ _) fun _ => Fallible.deaf_pure _

theorem deaf_cleanupPrevious (projectId : Uuid) (current : Text) :
    DeafToLogs ∅ (ContainerEngine.cleanupPrevious projectId current) := by
  apply Fallible.deaf_bind (deaf_runProcess _ _)
  intro output
  split
  · exact Fallible.deaf_throw _
  · exact Fallible.deaf_forM fun containerId _ => deaf_cleanupPreviousContainer current containerId

theorem deaf_writeEnvFile (workspace : Text) (environment : List (String × String)) :
    DeafToLogs ∅ (ContainerEngine.writeEnvFile workspace environment) := by
  unfold ContainerEngine.writeEnvFile
  split
  · exact Fallible.deaf_pure _
  · apply Fallible.deaf_bind (deaf_fileOp _)
    intro _
    apply Fallible.deaf_bind
    · exact Fallible.deaf_forM fun entry _ => deaf_fileOp _
    · exact fun _ => Fallible.deaf_pure _

theorem deaf_start (engine : ContainerEngine) (request : RunContainerRequest) :
    DeafToLogs ∅ (engine.start request) := by
  apply Fallible.deaf_bind (deaf_writeEnvFile _ _)
  intro hasEnvFile
  apply Fallible.deaf_bind (Fallible.deaf_attempt (deaf_runChecked _ _))
  intro result
  split
  · apply Fallible.deaf_bind (deaf_tryFileOp _)
    intro removed
    cases result with
    | ok _ => exact Fallible.deaf_ofExcept _
    | error error => exact Fallible.deaf_throw _
  · exact Fallible.deaf_ofExcept _

/-! ### Workspaces and images -/

theorem deaf_cleanup (workspace : DeploymentWorkspace) :
    DeafToLogs ∅ (WorkspaceManager.cleanup workspace) := by
  apply Fallible.deaf_bind (deaf_tryFileOp _)
  rintro (error | _)
  · dsimp only
    split
    · exact Fallible.deaf_pure _
    · exact Fallible.deaf_throw _
  · exact Fallible.deaf_pure _

theorem deaf_prepareWorkspace (workspace : DeploymentWorkspace)
    (credential : Option RepositoryCredential) :
    DeafToLogs ∅ (WorkspaceManager.prepareWorkspace workspace credential) := by
  apply Fallible.deaf_bind (deaf_fileOp _)
  intro found
  apply Fallible.deaf_bind (deaf_onlyIf _ (deaf_fileOp _))
  intro _
  apply Fallible.deaf_bind (deaf_fileOp _)
  intro _
  apply Fallible.deaf_bind (deaf_fileOp _)
  intro _
  apply deaf_onlyIf
  exact Fallible.deaf_bind (deaf_fileOp _) fun _ => deaf_fileOp _

theorem deaf_abandonCheckout (workspace : DeploymentWorkspace) (error : RuntimeError) :
    DeafToLogs ∅ (WorkspaceManager.abandonCheckout workspace error) :=
  Fallible.deaf_bind (Fallible.deaf_attempt (deaf_cleanup workspace)) fun _ => Fallible.deaf_throw _

theorem deaf_runCheckout (manager : WorkspaceManager) (workspace : DeploymentWorkspace)
    (source : RepositorySource) : DeafToLogs ∅ (manager.runCheckout workspace source) := by
  apply Fallible.deaf_forM
  intro entry _
  exact Fallible.deaf_bind (deaf_runChecked _ _) fun _ => Fallible.deaf_pure _

theorem deaf_checkout (manager : WorkspaceManager) (commandId : Uuid) (source : RepositorySource) :
    DeafToLogs ∅ (manager.checkout commandId source) := by
  apply Fallible.deaf_bind (deaf_prepareWorkspace _ _)
  intro _
  apply Fallible.deaf_bind (Fallible.deaf_attempt (deaf_runCheckout manager _ source))
  intro checkedOut
  apply Fallible.deaf_bind
  · unfold WorkspaceManager.removeAskpass
    split
    · exact Fallible.deaf_pure _
    · exact deaf_tryFileOp _
  · intro askpassCleanup
    split
    · exact deaf_abandonCheckout _ _
    · exact deaf_abandonCheckout _ _
    · exact Fallible.deaf_pure _

theorem deaf_availableDiskBytes (manager : WorkspaceManager) :
    DeafToLogs ∅ manager.availableDiskBytes := by
  apply Fallible.deaf_bind (deaf_runProcess _ _)
  intro output
  split
  · exact Fallible.deaf_ofExcept _
  · exact Fallible.deaf_throw _

theorem deaf_build (service : ImageBuildService) (request : BuildRequest) :
    DeafToLogs ∅ (service.build request) := by
  apply Fallible.deaf_bind (deaf_fileOp _)
  intro dockerfileFound
  apply Fallible.deaf_bind (Fallible.deaf_ofExcept _)
  intro builder
  split
  · apply Fallible.deaf_bind (deaf_runChecked _ _)
    intro _
    exact Fallible.deaf_bind (deaf_runChecked _ _) fun _ => Fallible.deaf_pure _
  · exact Fallible.deaf_bind (deaf_runChecked _ _) fun _ => Fallible.deaf_pure _

/-! ### Routes -/

theorem deaf_validateAndReload (manager : RouteManager) :
    DeafToLogs ∅ manager.validateAndReload := by
  apply Fallible.deaf_forM
  intro action _
  exact Fallible.deaf_bind (deaf_runChecked _ _) fun _ => Fallible.deaf_pure _

theorem deaf_reloadAfterRollback (manager : RouteManager) :
    DeafToLogs ∅ manager.reloadAfterRollback :=
  Fallible.deaf_bind (Fallible.deaf_attempt (deaf_runProcess _ _)) fun _ => Fallible.deaf_pure _

theorem deaf_readIfPresent (path : FilePath) : DeafToLogs ∅ (readIfPresent path) := by
  apply Fallible.deaf_bind (deaf_tryFileOp _)
  rintro (error | content)
  · dsimp only
    split
    · exact Fallible.deaf_pure _
    · exact Fallible.deaf_throw _
  · exact Fallible.deaf_pure _

theorem deaf_writeRoute (route : RouteSpec) : DeafToLogs ∅ (writeRoute route) := by
  apply Fallible.deaf_bind (deaf_fileOp _)
  intro _
  apply Fallible.deaf_bind (deaf_readIfPresent _)
  intro previous
  apply Fallible.deaf_bind (deaf_fileOp _)
  intro _
  exact Fallible.deaf_bind (deaf_fileOp _) fun _ => Fallible.deaf_pure _

theorem deaf_restore (snapshot : RouteSnapshot) : DeafToLogs ∅ snapshot.restore := by
  unfold RouteSnapshot.restore
  split
  · exact deaf_fileOp _
  · apply Fallible.deaf_bind (deaf_tryFileOp _)
    rintro (error | _)
    · dsimp only
      split
      · exact Fallible.deaf_pure _
      · exact Fallible.deaf_throw _
    · exact Fallible.deaf_pure _

theorem deaf_locked {α : Type} {body : RuntimeM α} (deaf : DeafToLogs ∅ body) :
    DeafToLogs ∅ (RouteManager.locked body) := by
  apply Fallible.deaf_bind (Fallible.deaf_perform rfl)
  intro _
  apply Fallible.deaf_bind (Fallible.deaf_attempt deaf)
  intro outcome
  exact Fallible.deaf_bind (Fallible.deaf_perform rfl) fun _ => Fallible.deaf_ofExcept _

theorem deaf_reloadOrRestore (manager : RouteManager) (snapshot : RouteSnapshot) :
    DeafToLogs ∅ (manager.reloadOrRestore snapshot) := by
  apply Fallible.deaf_bind (Fallible.deaf_attempt (deaf_validateAndReload manager))
  rintro (error | _)
  · apply Fallible.deaf_bind (deaf_restore snapshot)
    intro _
    exact Fallible.deaf_bind (deaf_reloadAfterRollback manager) fun _ => Fallible.deaf_throw _
  · exact Fallible.deaf_pure _

theorem deaf_activate (manager : RouteManager) (route : RouteSpec) :
    DeafToLogs ∅ (manager.activate route) :=
  deaf_locked (Fallible.deaf_bind (deaf_writeRoute route)
    fun snapshot => deaf_reloadOrRestore manager snapshot)

/-! ### Deployments -/

namespace DockerRuntimeExecutor

theorem deaf_prepareDeployment (executor : DockerRuntimeExecutor) (request : DeployProjectRequest) :
    DeafToLogs ∅ (executor.prepareDeployment request) := by
  apply Fallible.deaf_bind (Fallible.deaf_ofExcept _)
  intro _
  apply Fallible.deaf_bind (Fallible.deaf_ofExcept _)
  intro appliedTimeouts
  apply Fallible.deaf_bind (Fallible.deaf_ofExcept _)
  intro appliedResources
  apply Fallible.deaf_bind (Fallible.deaf_ofExcept _)
  intro source
  apply Fallible.deaf_bind
  · apply Fallible.deaf_bind (deaf_availableDiskBytes _)
    intro available
    split
    · exact Fallible.deaf_throw _
    · exact Fallible.deaf_pure _
  · intro _
    apply Fallible.deaf_bind (deaf_ensureCapacity _ _)
    intro _
    apply Fallible.deaf_bind (deaf_emitEvent _ _ _)
    intro _
    apply Fallible.deaf_bind (deaf_emitEvent _ _ _)
    intro _
    apply Fallible.deaf_bind (deaf_emitEvent _ _ _)
    intro _
    exact Fallible.deaf_bind (deaf_checkout _ _ _) fun _ => Fallible.deaf_pure _

theorem deaf_buildImage (executor : DockerRuntimeExecutor) (deployment : Deployment) :
    DeafToLogs {.buildTimeout} (executor.buildImage deployment) := by
  apply Fallible.deaf_bind (Fallible.deaf_perform rfl)
  intro acquired
  split
  · exact Fallible.deaf_throw _
  · apply Fallible.deaf_bind_last
    · apply Fallible.deaf_attempt
      apply Fallible.deaf_bind (deaf_emitEvent _ _ _)
      exact fun _ => deaf_withTimeout (deaf_build executor.builder _)
    · intro built
      exact Fallible.deaf_bind (Fallible.deaf_perform rfl) fun _ => Fallible.deaf_ofExcept _

theorem deaf_startAndWait (executor : DockerRuntimeExecutor) (deployment : Deployment) :
    DeafToLogs ∅ (executor.startAndWait deployment) := by
  apply Fallible.deaf_bind (Fallible.deaf_perform rfl)
  intro _
  apply Fallible.deaf_bind
  · apply Fallible.deaf_attempt
    apply Fallible.deaf_bind (deaf_ensureCapacity _ _)
    exact fun _ => deaf_start executor.containers _
  · intro started
    apply Fallible.deaf_bind (Fallible.deaf_perform rfl)
    intro _
    apply Fallible.deaf_bind (Fallible.deaf_ofExcept _)
    exact fun _ => deaf_waitUntilReady _ _

theorem deaf_startCandidate (executor : DockerRuntimeExecutor) (deployment : Deployment) :
    DeafToLogs {.startTimeout} (executor.startCandidate deployment) := by
  apply Fallible.deaf_bind (deaf_emitEvent _ _ _)
  intro _
  apply Fallible.deaf_bind_last
  · exact Fallible.deaf_attempt (deaf_withTimeout (executor.deaf_startAndWait deployment))
  · intro started
    exact Fallible.deaf_bind (Fallible.deaf_perform rfl) fun _ => Fallible.deaf_ofExcept _

theorem deaf_finalizeDeployment (deployment : Deployment) (builder : DeploymentBuilder) :
    DeafToLogs ∅ (finalizeDeployment deployment builder) := by
  apply Fallible.deaf_bind (Fallible.deaf_attempt (deaf_reportStartupLogs _))
  intro logged
  apply Fallible.deaf_bind (deaf_warnOnError _ _)
  intro _
  apply Fallible.deaf_bind (Fallible.deaf_attempt (deaf_cleanupPrevious _ _))
  intro cleaned
  apply Fallible.deaf_bind (deaf_warnOnError _ _)
  intro _
  apply Fallible.deaf_bind (Fallible.deaf_attempt (deaf_emitEvent _ _ _))
  intro _
  exact Fallible.deaf_bind (Fallible.deaf_perform rfl) fun _ => Fallible.deaf_ofExcept _

theorem deaf_deployInner (executor : DockerRuntimeExecutor) (deployment : Deployment) :
    DeafToLogs ({.buildTimeout} ∪ {.startTimeout}) (executor.deployInner deployment) := by
  apply Fallible.deaf_bind_apart (by simp) (executor.deaf_buildImage deployment)
  intro builder
  apply Fallible.deaf_bind_last (executor.deaf_startCandidate deployment)
  intro _
  apply Fallible.deaf_bind (deaf_activate _ _)
  intro _
  apply Fallible.deaf_bind (Fallible.deaf_perform rfl)
  intro _
  apply Fallible.deaf_bind (Fallible.deaf_perform rfl)
  exact fun _ => deaf_finalizeDeployment deployment builder

/-- What is done with the rest of a future whose cancellation was seen depends on nothing that the
reporter answers: the flag of the cutover decides. -/
theorem deaf_untilCancelled {future : RuntimeM Unit} (fresh : RuntimeAlarm.cancelled ∉ alarms)
    (deaf : DeafToLogs alarms future) :
    DeafToLogs (insert .cancelled alarms) (untilCancelled future) := by
  have raced : Prog.Deaf RuntimeOp.isLog (insert .cancelled alarms)
      (future.run.race RuntimeAlarm.cancelled
        (fun rest => (Prog.perform (I := Runtime) .routeActivated).bind fun activated : Bool =>
          if activated then rest else rest.drop (.ret (.error .cancelled))) id) := by
    apply Prog.deaf_race fresh deaf
    · intro op op' next next' place alike
      have isHeard : RuntimeOp.isLog .routeActivated = false := rfl
      refine Prog.Alike.call isHeard fun activated => ?_
      cases activated with
      | true => exact alike
      | false => exact Prog.alike_drop next next' place (.ret _)
    · intro rest all activated
      cases activated with
      | true => exact all
      | false => exact Prog.alarms_drop trivial
  have lifted := Prog.deaf_bind (Set.disjoint_empty _) raced
    fun outcome => Prog.deaf_ret (Except.ok (ε := RuntimeError) outcome)
  rwa [Set.union_empty] at lifted

theorem deaf_cleanupFailed (deployment : Deployment) (result : Except RuntimeError Unit) :
    DeafToLogs ∅ (cleanupFailed deployment result) := by
  cases result with
  | ok _ => exact Fallible.deaf_pure _
  | error error =>
      apply Fallible.deaf_bind (Fallible.deaf_perform rfl)
      intro activated
      split
      · exact Fallible.deaf_pure _
      · apply Fallible.deaf_bind (Fallible.deaf_attempt (deaf_cleanupCandidate _ _))
        exact fun _ => deaf_warnOnError _ _

theorem deaf_dropDeployment : DeafToLogs ∅ dropDeployment := by
  apply Fallible.deaf_bind (Fallible.deaf_perform rfl)
  intro _
  apply Fallible.deaf_bind (Fallible.deaf_perform rfl)
  exact fun _ => Fallible.deaf_perform rfl

theorem deaf_runCheckedOut (executor : DockerRuntimeExecutor) (deployment : Deployment) :
    DeafToLogs (insert .cancelled ({.buildTimeout} ∪ {.startTimeout}))
      (executor.runCheckedOut deployment) := by
  apply Fallible.deaf_bind (Fallible.deaf_perform rfl)
  intro _
  apply Fallible.deaf_bind_last
    (deaf_untilCancelled (by simp) (executor.deaf_deployInner deployment))
  intro result
  apply Fallible.deaf_bind (deaf_cleanupFailed _ _)
  intro _
  apply Fallible.deaf_bind (Fallible.deaf_attempt (deaf_cleanup _))
  intro cleaned
  apply Fallible.deaf_bind (deaf_warnOnError _ _)
  intro _
  apply Fallible.deaf_bind deaf_dropDeployment
  intro _
  exact Fallible.deaf_bind (Fallible.deaf_ofExcept _) fun _ => Fallible.deaf_pure _

theorem deaf_runDeployment (executor : DockerRuntimeExecutor) (request : DeployProjectRequest) :
    DeafToLogs (insert .cancelled ({.buildTimeout} ∪ {.startTimeout}))
      (executor.runDeployment request) := by
  apply Fallible.deaf_bind (executor.deaf_prepareDeployment request)
  exact fun prepared => executor.deaf_runCheckedOut _

end DockerRuntimeExecutor

/-! ### Two deployments -/

/-- A process, or an operation on files. -/
def RuntimeOp.isWork : RuntimeOp → Bool
  | .process _ => true
  | .file _ => true
  | _ => false

/-- The processes and the operations on files of a run, in their order. -/
def works (h : History Runtime) : List RuntimeOp :=
  (h.filterMap Event.asked).filter RuntimeOp.isWork

/-- The deployment has been reported as committed. -/
def MarkedCommitted (h : History Runtime) : Prop :=
  ∃ output, Event.done (I := Runtime) (.markDeploymentCommitted output) () ∈ h

theorem works_heard (h : History Runtime) :
    works h = ((heard RuntimeOp.isLog h).filterMap Heard.asked).filter RuntimeOp.isWork := by
  have audible : ∀ op : RuntimeOp, (op.isWork && !op.isLog) = op.isWork := by
    intro op
    cases op <;> rfl
  rw [asked_heard, List.filter_filter, works]
  exact List.filter_congr fun op _ => (audible op).symm

theorem markedCommitted_heard (h : History Runtime) : MarkedCommitted h ↔
    ∃ output, Heard.done (I := Runtime) (.markDeploymentCommitted output) () ∈
      heard RuntimeOp.isLog h := by
  apply exists_congr
  intro output
  have isHeard : RuntimeOp.isLog (.markDeploymentCommitted output) = false := rfl
  exact (mem_heard_done (I := Runtime) isHeard).symm

/-- Two deployments of one request in which everything but the delivery of logs has the same outcomes
have the same result, do the same, and are both committed or both not. -/
theorem logs_decide_nothing (executor : DockerRuntimeExecutor) (request : DeployProjectRequest)
    {h h' : History Runtime} {result result' : Except RuntimeError CommandOutput}
    (run : (executor.runDeployment request).run.Finishes h result)
    (run' : (executor.runDeployment request).run.Finishes h' result')
    (same : SameOutcomes (heard RuntimeOp.isLog h) (heard RuntimeOp.isLog h')) :
    result = result' ∧ works h = works h' ∧ (MarkedCommitted h ↔ MarkedCommitted h') ∧
      heard RuntimeOp.isLog h = heard RuntimeOp.isLog h' := by
  obtain ⟨results, agree⟩ := (executor.deaf_runDeployment request).agree run run' same
  refine ⟨results, ?_, ?_, agree⟩
  · rw [works_heard, works_heard, agree]
  · rw [markedCommitted_heard, markedCommitted_heard, agree]

/-! ### A deployment whose lines are lost -/

/-- Git and the builder print a line each time they run. -/
def printingScript : NodeScript :=
  { Sample.script with
    prints := fun docker spec =>
      match spec.line with
      | .git _ | .railpack _ => ["done".toList]
      | _ => Sample.script.prints docker spec }

/-- The lines are answered as given. -/
def deliveringScript (delivered : Except RuntimeExecutionError Unit) : Script Runtime Node :=
  { printingScript.script 0 with
    answer := fun h node op =>
      match op with
      | .log _ => some (delivered, node)
      | op => printingScript.answer 0 h node op }

theorem deliveringScript_sound (delivered : Except RuntimeExecutionError Unit) :
    (deliveringScript delivered).Sound (runtimeSemantics 0) where
  answer := by
    intro h node op res node' answered
    have sound : (printingScript.script 0).answer h node op = some (res, node') →
        (runtimeSemantics 0).step node op res node' := (printingScript.sound 0).answer
    cases op with
    | log line =>
        cases answered
        rfl
    | _ => exact sound answered
  leave := (printingScript.sound 0).leave

def deliveringRun (delivered : Except RuntimeExecutionError Unit) :
    Option (Except RuntimeError CommandOutput × Node × History Runtime) :=
  (Sample.executor.runDeployment (Sample.deployment 1)).run.play (deliveringScript delivered)
    Sample.node []

/-- A line the reporter has not taken. -/
def isLost : Event Runtime → Bool
  | .done (.log _) res => match res with
      | .ok _ => false
      | .error _ => true
  | _ => false

theorem deliveringRun_ends (delivered : Except RuntimeExecutionError Unit) (loses : Bool)
    (computed : (deliveringRun delivered).any
      (fun run => run.1.isOk && run.2.2.any isLost == loses) = true) :
    ∃ output node h, deliveringRun delivered = some (.ok output, node, h) ∧
      (Sample.executor.runDeployment (Sample.deployment 1)).run.Finishes h (.ok output) ∧
      h.any isLost = loses := by
  obtain ⟨⟨result, node, h⟩, played, checked⟩ := (Option.any_eq_true ..).mp computed
  rw [Bool.and_eq_true, beq_iff_eq] at checked
  obtain ⟨succeeded, lost⟩ := checked
  obtain ⟨added, rfl, run⟩ := Prog.finishes_of_exec
    (Prog.play_sound (deliveringScript_sound delivered) played)
  cases result with
  | ok output => exact ⟨output, node, _, played, run, lost⟩
  | error error => cases succeeded

def lostLine : RuntimeExecutionError :=
  .reporting "deployment log line not delivered"

set_option maxRecDepth 100000 in
theorem deliveringRun_heard :
    (deliveringRun (.ok ())).map (fun run => heard RuntimeOp.isLog run.2.2) =
      (deliveringRun (.error lostLine)).map fun run => heard RuntimeOp.isLog run.2.2 := by
  rfl

theorem lost_lines_decide_nothing : ∃ h h' output,
    (Sample.executor.runDeployment (Sample.deployment 1)).run.Finishes h (.ok output) ∧
    (Sample.executor.runDeployment (Sample.deployment 1)).run.Finishes h' (.ok output) ∧
    h.any isLost = false ∧ h'.any isLost = true ∧ works h = works h' ∧
    (MarkedCommitted h ↔ MarkedCommitted h') := by
  obtain ⟨output, node, h, played, run, kept⟩ :=
    deliveringRun_ends (.ok ()) false (by decide +kernel)
  obtain ⟨output', node', h', played', run', lost⟩ :=
    deliveringRun_ends (.error lostLine) true (by decide +kernel)
  have agree := deliveringRun_heard
  rw [played, played', Option.map_some, Option.map_some] at agree
  have same : SameOutcomes (heard RuntimeOp.isLog h) (heard RuntimeOp.isLog h') :=
    Option.some.inj agree ▸ sameOutcomes_refl _
  obtain ⟨results, sameWorks, committed, _⟩ :=
    logs_decide_nothing Sample.executor (Sample.deployment 1) run run' same
  cases results
  exact ⟨h, h', output, run, run', kept, lost, sameWorks, committed⟩

end SakalaAgent
