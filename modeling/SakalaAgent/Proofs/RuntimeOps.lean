/-
Module: SakalaAgent.Proofs.RuntimeOps
Layer: Proofs
Purpose: What the futures of the runtime ask for: which of them leave the route files alone, and
  which processes they start. One lemma for each future, for any set of processes that has those it
  starts; the facts about files, containers and locks are then read off the operations.
Trusted boundary: none
Main exports: FsOp.keepsSites, CommandLine.isQuiet, CommandLine.isTame, Asks, Spawns, Starts,
  asks_runProcess, asks_buildImage, asks_startCandidate, asks_prepareDeployment, starts_activate,
  Node.docker_of_step, Node.holder_of_step, Node.holder_of_step_other
-/
import SakalaAgent.Runtime.Executor
import SakalaAgent.Async.Semantics

namespace SakalaAgent

open Async

/-! ### Operations that leave the route files alone -/

/-- A path of the directory of the sites. -/
def FilePath.inSites : FilePath → Bool
  | .sites => true
  | .site _ => true
  | _ => false

/-- The operation changes no route file, whatever it answers. -/
def FsOp.keepsSites : FsOp → Bool
  | .createDirAll (.site _) => false
  | .write path _ => !path.inSites
  | .createNew path => !path.inSites
  | .append path _ => !path.inSites
  | .rename source target => !source.inSites && !target.inSites
  | .removeFile path => !path.inSites
  | .removeDirAll path => !path.inSites
  | _ => true

theorem Files.sameSites_update {files : Files} {path : FilePath} {entry : Option FileEntry}
    (outside : path.inSites = false) : files.SameSites (Function.update files path entry) := by
  intro name
  apply Function.update_of_ne
  rintro rfl
  cases outside

theorem Files.SameSites.trans {files files' files'' : Files} (first : files.SameSites files')
    (second : files'.SameSites files'') : files.SameSites files'' :=
  fun name => (second name).trans (first name)

/-- The tree below a path outside the sites has no route file. -/
theorem Files.below_site {path : FilePath} (outside : path.inSites = false) (name : Text) :
    Files.below path (.site name) = false := by
  cases path <;> first | rfl | cases outside

theorem Files.Step.sameSites {files files' : Files} {op : FsOp} {res : op.Res}
    (keeps : op.keepsSites = true) (step : files.Step files' op res) : files.SameSites files' := by
  cases op with
  | createDirAll path =>
      rcases step with rfl | ⟨_, rfl⟩
      · exact fun _ => rfl
      · intro name
        apply Function.update_of_ne
        rintro rfl
        cases keeps
  | tryExists path =>
      cases res with
      | ok found => exact step.1 ▸ fun _ => rfl
      | error error => exact (show files' = files from step) ▸ fun _ => rfl
  | setPermissions path mode => exact (show files' = files from step) ▸ fun _ => rfl
  | read path => cases res <;> exact step.1 ▸ fun _ => rfl
  | write path content =>
      have outside : path.inSites = false := by simpa [FsOp.keepsSites] using keeps
      cases res with
      | ok _ => exact (show files' = _ from step) ▸ sameSites_update outside
      | error error =>
          obtain ⟨left, rfl⟩ := step
          exact sameSites_update outside
  | createNew path =>
      have outside : path.inSites = false := by simpa [FsOp.keepsSites] using keeps
      cases res with
      | ok _ => exact step.2 ▸ sameSites_update outside
      | error error => exact (show files' = files from step) ▸ fun _ => rfl
  | append path content =>
      have outside : path.inSites = false := by simpa [FsOp.keepsSites] using keeps
      obtain ⟨left, rfl⟩ := step
      exact sameSites_update outside
  | rename source target =>
      have outside : source.inSites = false ∧ target.inSites = false := by
        simpa [FsOp.keepsSites] using keeps
      cases res with
      | ok _ =>
          obtain ⟨entry, _, rfl⟩ := step
          exact (sameSites_update outside.1).trans (sameSites_update outside.2)
      | error error => exact (show files' = files from step) ▸ fun _ => rfl
  | removeFile path =>
      have outside : path.inSites = false := by simpa [FsOp.keepsSites] using keeps
      cases res with
      | ok _ => exact step.2 ▸ sameSites_update outside
      | error error => exact step.1 ▸ fun _ => rfl
  | removeDirAll path =>
      have outside : path.inSites = false := by simpa [FsOp.keepsSites] using keeps
      exact fun name => step.1 _ (below_site outside name)
  | readDir path =>
      cases res with
      | ok entries => exact step.1 ▸ fun _ => rfl
      | error error => exact (show files' = files from step) ▸ fun _ => rfl
  | age path => exact (show files' = files from step) ▸ fun _ => rfl

/-! ### Operations of a future -/

/-- The process changes no container and no tag. -/
def CommandLine.isQuiet : CommandLine → Bool
  | .docker (.ps _ _ _ _) => true
  | .docker (.logs _ _ _) => true
  | .docker (.inspect _ _) => true
  | .docker (.imagePrune _ _) => true
  | .docker (.exec _ _) => true
  | .docker _ => false
  | _ => true

/-- The process starts no container. -/
def CommandLine.isTame : CommandLine → Bool
  | .docker (.run _) => false
  | .docker (.start _) => false
  | .docker (.restart _ _) => false
  | _ => true

/-- The operation leaves the route files and the flag of the cutover alone, and a process it starts
is one of the allowed. -/
def Asks (allowed : CommandLine → Prop) : RuntimeOp → Prop
  | .process spec => allowed spec.line
  | .file op => op.keepsSites = true
  | .setRouteActivated _ => False
  | _ => True

/-- The operation starts one of the allowed processes, or passes on what one prints. -/
def Spawns (allowed : CommandLine → Prop) : RuntimeOp → Prop
  | .process spec => allowed spec.line
  | .log _ => True
  | _ => False

section Spawns

variable {allowed : CommandLine → Prop}

theorem Spawns.asks {op : RuntimeOp} (spawns : Spawns allowed op) : Asks allowed op := by
  cases op with
  | process spec => exact spawns
  | log line => trivial
  | _ => exact absurd spawns not_false

theorem spawns_reportFrames (phase : String) (stream : ProcessStream) (frames : List Text) :
    Fallible.AllOps (Spawns allowed) (reportFrames phase stream frames) := by
  induction frames with
  | nil => trivial
  | cons frame frames ih =>
      simp only [reportFrames]
      split
      · exact ih
      · apply Fallible.allOps_bind (Fallible.allOps_perform trivial)
        rintro (error | _)
        · trivial
        · exact ih

theorem spawns_sink (sink : OutputSink) (lines : List (ProcessStream × Text)) :
    Fallible.AllOps (Spawns allowed) (forM lines sink.line) := by
  apply Fallible.allOps_forM
  intro line _
  cases sink with
  | null => trivial
  | reporter phase => exact spawns_reportFrames _ _ _

theorem spawns_runProcess {spec : CommandSpec} (starts : allowed spec.line) (sink : OutputSink) :
    Fallible.AllOps (Spawns allowed) (runProcess spec sink) := by
  apply Fallible.allOps_bind (Fallible.allOps_perform starts)
  intro result
  apply Fallible.allOps_bind (spawns_sink sink result.lines)
  intro _
  split <;> trivial

theorem spawns_runChecked {spec : CommandSpec} (starts : allowed spec.line) (phase : String) :
    Fallible.AllOps (Spawns allowed) (runChecked spec phase) := by
  apply Fallible.allOps_bind (spawns_runProcess starts _)
  intro output
  split <;> trivial

end Spawns

section Asks

variable {allowed : CommandLine → Prop}

theorem asks_runProcess {spec : CommandSpec} (starts : allowed spec.line) (sink : OutputSink) :
    Fallible.AllOps (Asks allowed) (runProcess spec sink) :=
  (spawns_runProcess starts sink).mono fun _ => Spawns.asks

theorem asks_runChecked {spec : CommandSpec} (starts : allowed spec.line) (phase : String) :
    Fallible.AllOps (Asks allowed) (runChecked spec phase) :=
  (spawns_runChecked starts phase).mono fun _ => Spawns.asks

theorem asks_emitEvent (eventType message : String) (metadata : Json) :
    Fallible.AllOps (Asks allowed) (emitEvent eventType message metadata) :=
  Fallible.allOps_bind (Fallible.allOps_perform trivial) fun _ => trivial

theorem asks_systemLog (message : String) : Fallible.AllOps (Asks allowed) (systemLog message) :=
  Fallible.allOps_bind (Fallible.allOps_perform trivial) fun _ => trivial

theorem asks_warnOnError (outcome : Except RuntimeError Unit) (warning : RuntimeError → String) :
    Fallible.AllOps (Asks allowed) (warnOnError outcome warning) := by
  cases outcome with
  | ok _ => trivial
  | error error => exact asks_systemLog _

theorem asks_onlyIf {action : RuntimeM Unit} (condition : Bool)
    (asks : Fallible.AllOps (Asks allowed) action) :
    Fallible.AllOps (Asks allowed) (onlyIf condition action) := by
  cases condition with
  | true => exact asks
  | false => trivial

theorem asks_tryFileOp {op : FsOp} (keeps : op.keepsSites = true) :
    Fallible.AllOps (Asks allowed) (tryFileOp op) :=
  ⟨keeps, fun _ => trivial⟩

theorem asks_fileOp {op : FsOp} (keeps : op.keepsSites = true) :
    Fallible.AllOps (Asks allowed) (fileOp op) :=
  Fallible.allOps_bind (p := tryFileOp op) (asks_tryFileOp keeps) fun _ => trivial

theorem asks_perform {op : RuntimeOp} (asks : Asks allowed op) :
    Fallible.AllOps (Asks allowed) (Fallible.perform (I := Runtime) (ε := RuntimeError) op) :=
  ⟨asks, fun _ => trivial⟩

/-- A future with a deadline asks for what the future asks for. -/
theorem asks_withTimeout {α : Type} {which : RuntimeAlarm} {operation : String} {seconds : Nat}
    {future : RuntimeM α} (asks : Fallible.AllOps (Asks allowed) future) :
    Fallible.AllOps (Asks allowed) (withTimeout which operation seconds future) :=
  Prog.allOps_bind (Prog.allOps_timeout asks) fun _ => trivial

/-! ### Containers -/

section Quiet

variable (quiet : ∀ line, line.isQuiet = true → allowed line)
include quiet

theorem asks_ensureCapacity (engine : ContainerEngine) (projectId : Uuid) :
    Fallible.AllOps (Asks allowed) (engine.ensureCapacity projectId) := by
  apply Fallible.allOps_bind (asks_runProcess (quiet _ rfl) _)
  intro output
  split
  · trivial
  · split <;> trivial

theorem asks_workload (projectId deploymentId : Uuid) :
    Fallible.AllOps (Asks allowed) (ContainerEngine.workload projectId deploymentId) := by
  apply Fallible.allOps_bind (asks_runProcess (quiet _ rfl) _)
  intro output
  split <;> trivial

theorem asks_reportStartupLogs (container : Text) :
    Fallible.AllOps (Asks allowed) (ContainerEngine.reportStartupLogs container) :=
  Fallible.allOps_bind (asks_runChecked (quiet _ rfl) _) fun _ => trivial

theorem asks_waitAttempts (checker : HealthChecker) (container : Text) (remaining : Nat) :
    Fallible.AllOps (Asks allowed) (checker.waitAttempts container remaining) := by
  induction remaining with
  | zero => trivial
  | succ remaining ih =>
      apply Fallible.allOps_bind (asks_runProcess (quiet _ rfl) _)
      intro output
      simp only []
      split
      · trivial
      · split
        · trivial
        · exact Fallible.allOps_bind (asks_perform trivial) fun _ => ih

theorem asks_waitUntilReady (checker : HealthChecker) (container : Text) :
    Fallible.AllOps (Asks allowed) (checker.waitUntilReady container) :=
  asks_waitAttempts quiet checker container _

end Quiet

theorem asks_runContainerCommand {command : DockerCommand} (starts : allowed (.docker command))
    (phase : String) :
    Fallible.AllOps (Asks allowed) (ContainerEngine.runContainerCommand command phase) := by
  apply Fallible.allOps_bind (asks_runProcess starts _)
  intro output
  split <;> trivial

theorem asks_cleanupArtifact {command : DockerCommand} (starts : allowed (.docker command))
    (artifact : String) :
    Fallible.AllOps (Asks allowed) (ContainerEngine.cleanupArtifact artifact command) := by
  apply Fallible.allOps_bind (Fallible.allOps_attempt (asks_runProcess starts _))
  rintro (error | output) <;> trivial

theorem asks_cleanupCandidate {container image : Text}
    (rm : allowed (.docker (.rm true container)))
    (imageRemove : allowed (.docker (.imageRemove image))) :
    Fallible.AllOps (Asks allowed) (ContainerEngine.cleanupCandidate container image) := by
  apply Fallible.allOps_bind (asks_cleanupArtifact rm _)
  intro first
  apply Fallible.allOps_bind (asks_cleanupArtifact imageRemove _)
  intro second
  split <;> trivial

theorem asks_cleanupPrevious (tame : ∀ line, line.isTame = true → allowed line)
    (projectId : Uuid) (current : Text) :
    Fallible.AllOps (Asks allowed) (ContainerEngine.cleanupPrevious projectId current) := by
  apply Fallible.allOps_bind (asks_runProcess (tame _ rfl) _)
  intro output
  split
  · trivial
  · apply Fallible.allOps_forM
    intro containerId _
    apply Fallible.allOps_bind (asks_runProcess (tame _ rfl) _)
    intro inspected
    split
    · trivial
    · simp only []
      split
      · trivial
      · apply Fallible.allOps_bind
        · exact asks_onlyIf _ (Fallible.allOps_bind (asks_runChecked (tame _ rfl) _) fun _ => trivial)
        · exact fun _ => Fallible.allOps_bind (asks_runChecked (tame _ rfl) _) fun _ => trivial

theorem asks_writeEnvFile (workspace : Text) (environment : List (String × String)) :
    Fallible.AllOps (Asks allowed) (ContainerEngine.writeEnvFile workspace environment) := by
  simp only [ContainerEngine.writeEnvFile]
  split
  · trivial
  · apply Fallible.allOps_bind (asks_fileOp rfl)
    intro _
    apply Fallible.allOps_bind
    · exact Fallible.allOps_forM fun entry _ => asks_fileOp rfl
    · exact fun _ => trivial

theorem asks_start (engine : ContainerEngine) {request : RunContainerRequest}
    (run : ∀ options : RunOptions, options.name = request.name →
      allowed (.docker (.run options))) :
    Fallible.AllOps (Asks allowed) (engine.start request) := by
  apply Fallible.allOps_bind (asks_writeEnvFile _ _)
  intro hasEnvFile
  apply Fallible.allOps_bind (Fallible.allOps_attempt (asks_runChecked (run _ rfl) _))
  intro result
  split
  · apply Fallible.allOps_bind (asks_tryFileOp rfl)
    intro removed
    cases result <;> trivial
  · trivial

/-! ### Workspaces -/

theorem asks_cleanup (workspace : DeploymentWorkspace) :
    Fallible.AllOps (Asks allowed) (WorkspaceManager.cleanup workspace) := by
  apply Fallible.allOps_bind (asks_tryFileOp rfl)
  rintro (error | _)
  · dsimp only
    split <;> trivial
  · trivial

theorem asks_prepareWorkspace (workspace : DeploymentWorkspace)
    (credential : Option RepositoryCredential) :
    Fallible.AllOps (Asks allowed) (WorkspaceManager.prepareWorkspace workspace credential) := by
  apply Fallible.allOps_bind (asks_fileOp rfl)
  intro found
  apply Fallible.allOps_bind (asks_onlyIf _ (asks_fileOp rfl))
  intro _
  apply Fallible.allOps_bind (asks_fileOp rfl)
  intro _
  apply Fallible.allOps_bind (asks_fileOp rfl)
  intro _
  apply asks_onlyIf
  exact Fallible.allOps_bind (asks_fileOp rfl) fun _ => asks_fileOp rfl

theorem asks_abandonCheckout (workspace : DeploymentWorkspace) (error : RuntimeError) :
    Fallible.AllOps (Asks allowed) (WorkspaceManager.abandonCheckout workspace error) :=
  Fallible.allOps_bind (Fallible.allOps_attempt (asks_cleanup workspace)) fun _ => trivial

section Quiet

variable (quiet : ∀ line, line.isQuiet = true → allowed line)
include quiet

theorem asks_runCheckout (manager : WorkspaceManager) (workspace : DeploymentWorkspace)
    (source : RepositorySource) :
    Fallible.AllOps (Asks allowed) (manager.runCheckout workspace source) := by
  apply Fallible.allOps_forM
  intro entry member
  have isQuiet : entry.2.line.isQuiet = true := by
    simp only [WorkspaceManager.checkoutCommands, List.mem_cons, List.not_mem_nil, or_false]
      at member
    rcases member with rfl | rfl | rfl | rfl
    · rfl
    · rfl
    · simp only [WorkspaceManager.fetchCommand]
      split <;> rfl
    · rfl
  exact Fallible.allOps_bind (asks_runChecked (quiet _ isQuiet) _) fun _ => trivial

theorem asks_checkout (manager : WorkspaceManager) (commandId : Uuid) (source : RepositorySource) :
    Fallible.AllOps (Asks allowed) (manager.checkout commandId source) := by
  apply Fallible.allOps_bind (asks_prepareWorkspace _ _)
  intro _
  apply Fallible.allOps_bind (Fallible.allOps_attempt (asks_runCheckout quiet manager _ source))
  intro checkedOut
  apply Fallible.allOps_bind
  · simp only [WorkspaceManager.removeAskpass]
    split
    · trivial
    · exact asks_tryFileOp rfl
  · intro askpassCleanup
    split
    · exact asks_abandonCheckout _ _
    · exact asks_abandonCheckout _ _
    · trivial

theorem asks_availableDiskBytes (manager : WorkspaceManager) :
    Fallible.AllOps (Asks allowed) manager.availableDiskBytes := by
  apply Fallible.allOps_bind (asks_runProcess (quiet _ rfl) _)
  intro output
  split <;> trivial

theorem asks_build (service : ImageBuildService) {request : BuildRequest}
    (buildx : ∀ buildArguments file source labels,
      allowed (.docker (.buildx buildArguments file source request.image labels))) :
    Fallible.AllOps (Asks allowed) (service.build request) := by
  apply Fallible.allOps_bind (asks_fileOp rfl)
  intro dockerfileFound
  apply Fallible.allOps_bind (Fallible.allOps_ofExcept _)
  intro builder
  split
  · apply Fallible.allOps_bind (asks_runChecked (quiet _ rfl) _)
    intro _
    exact Fallible.allOps_bind (asks_runChecked (buildx _ _ _ _) _) fun _ => trivial
  · exact Fallible.allOps_bind (asks_runChecked (buildx _ _ _ _) _) fun _ => trivial

end Quiet

/-! ### Routes -/

section Quiet

variable (quiet : ∀ line, line.isQuiet = true → allowed line)
include quiet

theorem spawns_validateAndReload (manager : RouteManager) :
    Fallible.AllOps (Spawns allowed) manager.validateAndReload := by
  apply Fallible.allOps_forM
  intro action _
  exact Fallible.allOps_bind (spawns_runChecked (quiet _ rfl) _) fun _ => trivial

theorem spawns_reloadAfterRollback (manager : RouteManager) :
    Fallible.AllOps (Spawns allowed) manager.reloadAfterRollback :=
  Fallible.allOps_bind (Fallible.allOps_attempt (spawns_runProcess (quiet _ rfl) _))
    fun _ => trivial

theorem asks_validateAndReload (manager : RouteManager) :
    Fallible.AllOps (Asks allowed) manager.validateAndReload :=
  (spawns_validateAndReload quiet manager).mono fun _ => Spawns.asks

theorem asks_reloadAfterRollback (manager : RouteManager) :
    Fallible.AllOps (Asks allowed) manager.reloadAfterRollback :=
  (spawns_reloadAfterRollback quiet manager).mono fun _ => Spawns.asks

end Quiet

/-- The process that the operation starts, if it starts one, is one of the allowed. -/
def Starts (allowed : CommandLine → Prop) : RuntimeOp → Prop
  | .process spec => allowed spec.line
  | _ => True

theorem Asks.starts {op : RuntimeOp} (asks : Asks allowed op) : Starts allowed op := by
  cases op with
  | process spec => exact asks
  | _ => trivial

theorem starts_perform {op : RuntimeOp} (starts : Starts allowed op) :
    Fallible.AllOps (Starts allowed) (Fallible.perform (I := Runtime) (ε := RuntimeError) op) :=
  ⟨starts, fun _ => trivial⟩

/-- A reload asks for quiet processes, and for what puts the file back. -/
theorem allOps_reloadOrRestore {ok : RuntimeOp → Prop}
    (spawns : ∀ op, Spawns (fun line => line.isQuiet = true) op → ok op) (manager : RouteManager)
    {snapshot : RouteSnapshot} (restored : Fallible.AllOps ok snapshot.restore) :
    Fallible.AllOps ok (manager.reloadOrRestore snapshot) := by
  have isQuiet : ∀ line : CommandLine, line.isQuiet = true → line.isQuiet = true := fun _ same => same
  apply Fallible.allOps_bind (Fallible.allOps_attempt
    ((spawns_validateAndReload isQuiet manager).mono spawns))
  rintro (error | _)
  · apply Fallible.allOps_bind restored
    intro _
    exact Fallible.allOps_bind ((spawns_reloadAfterRollback isQuiet manager).mono spawns)
      fun _ => trivial
  · trivial

/-- The operation removes no directory. -/
def FsOp.keepsDirectories : FsOp → Bool
  | .removeDirAll _ => false
  | _ => true

/-- The operations a change of a route is made of inside the lock: files, and quiet processes. -/
structure AdmitsRouteFiles (ok : RuntimeOp → Prop) : Prop where
  file : ∀ op : FsOp, op.keepsDirectories = true → ok (.file op)
  spawns : ∀ op, Spawns (fun line => line.isQuiet = true) op → ok op

namespace AdmitsRouteFiles

variable {ok : RuntimeOp → Prop} (admits : AdmitsRouteFiles ok)
include admits

theorem tryFileOp (op : FsOp) (keeps : op.keepsDirectories = true) :
    Fallible.AllOps ok (tryFileOp op) :=
  ⟨admits.file op keeps, fun _ => trivial⟩

theorem fileOp (op : FsOp) (keeps : op.keepsDirectories = true) : Fallible.AllOps ok (fileOp op) :=
  Fallible.allOps_bind (p := SakalaAgent.tryFileOp op) (admits.tryFileOp op keeps) fun _ => trivial

theorem readIfPresent (path : FilePath) : Fallible.AllOps ok (readIfPresent path) := by
  apply Fallible.allOps_bind (admits.tryFileOp _ rfl)
  rintro (error | content)
  · dsimp only
    split <;> trivial
  · trivial

theorem writeRoute (route : RouteSpec) : Fallible.AllOps ok (writeRoute route) := by
  apply Fallible.allOps_bind (admits.fileOp _ rfl)
  intro _
  apply Fallible.allOps_bind (admits.readIfPresent _)
  intro previous
  apply Fallible.allOps_bind (admits.fileOp _ rfl)
  intro _
  exact Fallible.allOps_bind (admits.fileOp _ rfl) fun _ => trivial

theorem restore (snapshot : RouteSnapshot) : Fallible.AllOps ok snapshot.restore := by
  simp only [RouteSnapshot.restore]
  split
  · exact admits.fileOp _ rfl
  · apply Fallible.allOps_bind (admits.tryFileOp _ rfl)
    rintro (error | _)
    · dsimp only
      split <;> trivial
    · trivial

theorem removeRoute (manager : RouteManager) (identity : RouteIdentity) :
    Fallible.AllOps ok (manager.removeRoute identity) := by
  apply Fallible.allOps_bind (admits.readIfPresent _)
  rintro (_ | content)
  · trivial
  · dsimp only
    split
    · trivial
    · split
      · trivial
      · exact Fallible.allOps_bind (admits.fileOp _ rfl) fun _ => trivial

theorem reloadOrRestore (manager : RouteManager) (snapshot : RouteSnapshot) :
    Fallible.AllOps ok (manager.reloadOrRestore snapshot) :=
  allOps_reloadOrRestore admits.spawns manager (admits.restore snapshot)

omit admits in
theorem locked (lock : ok (.lock .routes)) (release : ok (.release .routes)) {α : Type}
    {body : RuntimeM α} (inside : Fallible.AllOps ok body) :
    Fallible.AllOps ok (RouteManager.locked body) := by
  refine Fallible.allOps_bind (Fallible.allOps_perform lock) fun _ => ?_
  apply Fallible.allOps_bind (Fallible.allOps_attempt inside)
  intro outcome
  exact Fallible.allOps_bind (Fallible.allOps_perform release) fun _ => trivial

theorem activate (lock : ok (.lock .routes)) (release : ok (.release .routes))
    (manager : RouteManager) (route : RouteSpec) : Fallible.AllOps ok (manager.activate route) :=
  locked lock release (Fallible.allOps_bind (admits.writeRoute route)
    fun snapshot => admits.reloadOrRestore manager snapshot)

theorem deactivate (lock : ok (.lock .routes)) (release : ok (.release .routes))
    (manager : RouteManager) (identity : RouteIdentity) :
    Fallible.AllOps ok (manager.deactivate identity) := by
  apply locked lock release
  apply Fallible.allOps_bind (admits.removeRoute manager identity)
  intro snapshot
  split
  · exact Fallible.allOps_bind (admits.reloadOrRestore manager snapshot) fun _ => trivial
  · trivial

end AdmitsRouteFiles

/-- The operations a change of a route is made of: the lock, the files, and quiet processes. -/
structure AdmitsRoutes (ok : RuntimeOp → Prop) : Prop where
  file : ∀ op, ok (.file op)
  spawns : ∀ op, Spawns (fun line => line.isQuiet = true) op → ok op
  lock : ok (.lock .routes)
  release : ok (.release .routes)

namespace AdmitsRoutes

variable {ok : RuntimeOp → Prop} (admits : AdmitsRoutes ok)
include admits

theorem files : AdmitsRouteFiles ok where
  file op _ := admits.file op
  spawns := admits.spawns

theorem activate (manager : RouteManager) (route : RouteSpec) :
    Fallible.AllOps ok (manager.activate route) :=
  admits.files.activate admits.lock admits.release manager route

theorem deactivate (manager : RouteManager) (identity : RouteIdentity) :
    Fallible.AllOps ok (manager.deactivate identity) :=
  admits.files.deactivate admits.lock admits.release manager identity

end AdmitsRoutes

section Quiet

variable (quiet : ∀ line, line.isQuiet = true → allowed line)
include quiet

theorem admitsRoutes_starts : AdmitsRoutes (Starts allowed) where
  file _ := trivial
  spawns op spawned := by
    cases op with
    | process spec => exact quiet _ spawned
    | _ => trivial
  lock := trivial
  release := trivial

theorem starts_activate (manager : RouteManager) (route : RouteSpec) :
    Fallible.AllOps (Starts allowed) (manager.activate route) :=
  (admitsRoutes_starts quiet).activate manager route

theorem starts_deactivate (manager : RouteManager) (identity : RouteIdentity) :
    Fallible.AllOps (Starts allowed) (manager.deactivate identity) :=
  (admitsRoutes_starts quiet).deactivate manager identity

end Quiet

/-! ### Deployments -/

section Quiet

variable (quiet : ∀ line, line.isQuiet = true → allowed line)
include quiet

theorem asks_prepareDeployment (executor : DockerRuntimeExecutor)
    (request : DeployProjectRequest) :
    Fallible.AllOps (Asks allowed) (executor.prepareDeployment request) := by
  apply Fallible.allOps_bind (Fallible.allOps_ofExcept _)
  intro _
  apply Fallible.allOps_bind (Fallible.allOps_ofExcept _)
  intro appliedTimeouts
  apply Fallible.allOps_bind (Fallible.allOps_ofExcept _)
  intro appliedResources
  apply Fallible.allOps_bind (Fallible.allOps_ofExcept _)
  intro source
  apply Fallible.allOps_bind
  · apply Fallible.allOps_bind (asks_availableDiskBytes quiet _)
    intro available
    split <;> trivial
  · intro _
    apply Fallible.allOps_bind (asks_ensureCapacity quiet _ _)
    intro _
    apply Fallible.allOps_bind (asks_emitEvent _ _ _)
    intro _
    apply Fallible.allOps_bind (asks_emitEvent _ _ _)
    intro _
    apply Fallible.allOps_bind (asks_emitEvent _ _ _)
    intro _
    exact Fallible.allOps_bind (asks_checkout quiet _ _ _) fun _ => trivial

theorem asks_buildImage (executor : DockerRuntimeExecutor) {deployment : Deployment}
    (buildx : ∀ buildArguments file source labels,
      allowed (.docker (.buildx buildArguments file source deployment.image labels))) :
    Fallible.AllOps (Asks allowed) (executor.buildImage deployment) := by
  refine Fallible.allOps_bind (asks_perform trivial) fun acquired => ?_
  split
  · trivial
  · apply Fallible.allOps_bind
    · apply Fallible.allOps_attempt
      apply Fallible.allOps_bind (asks_emitEvent _ _ _)
      intro _
      exact asks_withTimeout (asks_build quiet executor.builder buildx)
    · intro built
      exact Fallible.allOps_bind (asks_perform trivial) fun _ => trivial

theorem asks_startCandidate (executor : DockerRuntimeExecutor) {deployment : Deployment}
    (run : ∀ options : RunOptions, options.name = deployment.container →
      allowed (.docker (.run options))) :
    Fallible.AllOps (Asks allowed) (executor.startCandidate deployment) := by
  apply Fallible.allOps_bind (asks_emitEvent _ _ _)
  intro _
  apply Fallible.allOps_bind
  · apply Fallible.allOps_attempt
    apply asks_withTimeout
    refine Fallible.allOps_bind (asks_perform trivial) fun _ => ?_
    apply Fallible.allOps_bind
    · apply Fallible.allOps_attempt
      apply Fallible.allOps_bind (asks_ensureCapacity quiet _ _)
      intro _
      exact asks_start executor.containers run
    · intro started
      refine Fallible.allOps_bind (asks_perform trivial) fun _ => ?_
      exact Fallible.allOps_bind (Fallible.allOps_ofExcept _) fun _ => asks_waitUntilReady quiet _ _
  · intro started
    exact Fallible.allOps_bind (asks_perform trivial) fun _ => trivial

end Quiet

theorem CommandLine.isTame_of_isQuiet {line : CommandLine} (quiet : line.isQuiet = true) :
    line.isTame = true := by
  cases line with
  | docker command => cases command <;> first | rfl | cases quiet
  | git arguments => rfl
  | railpack arguments => rfl
  | df arguments => rfl

theorem asks_finalizeDeployment (tame : ∀ line, line.isTame = true → allowed line)
    (deployment : Deployment) (builder : DeploymentBuilder) :
    Fallible.AllOps (Asks allowed)
      (DockerRuntimeExecutor.finalizeDeployment deployment builder) := by
  apply Fallible.allOps_bind
    (Fallible.allOps_attempt (asks_reportStartupLogs
      (fun _ quiet => tame _ (CommandLine.isTame_of_isQuiet quiet)) _))
  intro logged
  apply Fallible.allOps_bind (asks_warnOnError _ _)
  intro _
  apply Fallible.allOps_bind (Fallible.allOps_attempt (asks_cleanupPrevious tame _ _))
  intro cleaned
  apply Fallible.allOps_bind (asks_warnOnError _ _)
  intro _
  apply Fallible.allOps_bind (Fallible.allOps_attempt (asks_emitEvent _ _ _))
  intro _
  exact Fallible.allOps_bind (asks_perform trivial) fun _ => trivial

theorem asks_cleanupFailed {deployment : Deployment}
    (rm : allowed (.docker (.rm true deployment.container)))
    (imageRemove : allowed (.docker (.imageRemove deployment.image)))
    (result : Except RuntimeError Unit) :
    Fallible.AllOps (Asks allowed) (DockerRuntimeExecutor.cleanupFailed deployment result) := by
  cases result with
  | ok _ => trivial
  | error error =>
      refine Fallible.allOps_bind (asks_perform trivial) fun activated => ?_
      split
      · trivial
      · apply Fallible.allOps_bind
          (Fallible.allOps_attempt (asks_cleanupCandidate rm imageRemove))
        exact fun _ => asks_warnOnError _ _

theorem asks_dropDeployment : Fallible.AllOps (Asks allowed) DockerRuntimeExecutor.dropDeployment := by
  refine Fallible.allOps_bind (asks_perform trivial) fun _ => ?_
  exact Fallible.allOps_bind (asks_perform trivial) fun _ => asks_perform trivial

/-- What a deployment does when its future has ended, with whatever result. -/
theorem asks_afterDeployment (executor : DockerRuntimeExecutor) {deployment : Deployment}
    (rm : allowed (.docker (.rm true deployment.container)))
    (imageRemove : allowed (.docker (.imageRemove deployment.image)))
    (result : Except RuntimeError Unit) :
    Fallible.AllOps (Asks allowed) (do
      DockerRuntimeExecutor.cleanupFailed deployment result
      let cleaned : Except RuntimeError Unit ←
        Fallible.attempt (WorkspaceManager.cleanup deployment.prepared.workspace)
      warnOnError cleaned fun error =>
        s!"workspace cleanup warning for {executor.workspace.rootPath deployment.prepared.workspace}: {error.message}"
      DockerRuntimeExecutor.dropDeployment
      Fallible.ofExcept result
      return deploymentOutput deployment.payload.resources
        deployment.prepared.appliedResources) := by
  apply Fallible.allOps_bind (asks_cleanupFailed rm imageRemove result)
  intro _
  apply Fallible.allOps_bind (Fallible.allOps_attempt (asks_cleanup _))
  intro cleaned
  apply Fallible.allOps_bind (asks_warnOnError _ _)
  intro _
  apply Fallible.allOps_bind asks_dropDeployment
  intro _
  exact Fallible.allOps_bind (Fallible.allOps_ofExcept _) fun _ => Fallible.allOps_pure _

end Asks

/-! ### What an operation leaves as it is -/

namespace Node

variable {thread other : ThreadId} {node node' : Node} {op : RuntimeOp}

/-- An operation that is no process leaves the containers as they are. -/
theorem docker_of_step {res : op.Res} (noProcess : ∀ spec, op ≠ .process spec)
    (step : node.step thread op res node') : node'.docker = node.docker := by
  cases op with
  | process spec => exact absurd rfl (noProcess spec)
  | file op =>
      obtain ⟨files, _, rfl⟩ := step
      rfl
  | acquireBuildPermit =>
      rcases step with ⟨_, _, rfl⟩ | ⟨_, rfl⟩
      · rfl
      · rfl
  | lock which => rw [step.2]
  | routeActivated => rw [step.2]
  | _ => rw [show node' = _ from step]

/-- A process that is quiet leaves the containers as they are. -/
theorem Settled.docker_of_isQuiet {line : CommandLine} {succeeded : Bool}
    (quiet : line.isQuiet = true) (settled : node.Settled line succeeded node') :
    node'.docker = node.docker := by
  obtain ⟨files, docker, _, rfl, outcome⟩ := settled
  cases line with
  | docker command =>
      rcases outcome with effect | ⟨_, rfl⟩
      · cases effect <;> first | rfl | cases quiet
      · rfl
  | git | railpack | df => exact outcome

/-- A process that is quiet can leave everything as it is. -/
theorem settled_of_isQuiet (node : Node) (line : CommandLine) (succeeded : Bool)
    (quiet : line.isQuiet = true) : node.Settled line succeeded node := by
  refine ⟨node.files, node.docker, fun _ => rfl, rfl, ?_⟩
  cases line with
  | docker command =>
      left
      cases command with
      | ps => exact .ps ..
      | logs => exact .logs ..
      | inspect => exact .inspect ..
      | imagePrune => exact .imagePrune ..
      | exec => exact .exec ..
      | _ => cases quiet
  | git | railpack | df => rfl

theorem docker_of_leave {outcome : Option op.Res}
    (left : node.leave op outcome node') : node'.docker = node.docker := by
  cases op with
  | file op =>
      obtain ⟨_, files, _, _, rfl⟩ := left
      rfl
  | _ => rw [left.2]

/-- What is waited for is not in flight. -/
theorem inFlight_of_step {res : op.Res} (step : node.step thread op res node') :
    node'.inFlight = node.inFlight := by
  cases op with
  | process spec =>
      obtain ⟨_, _, _, rfl, _⟩ := step.2
      rfl
  | file op =>
      obtain ⟨files, _, rfl⟩ := step
      rfl
  | acquireBuildPermit =>
      rcases step with ⟨_, _, rfl⟩ | ⟨_, rfl⟩
      · rfl
      · rfl
  | lock which => rw [step.2]
  | routeActivated => rw [step.2]
  | _ => rw [show node' = _ from step]

/-- A process that is left is in flight. -/
theorem inFlight_of_leave {outcome : Option op.Res} (left : node.leave op outcome node')
    {spec : CommandSpec} (flying : spec ∈ node'.inFlight) :
    spec ∈ node.inFlight ∨ op = .process spec := by
  cases op with
  | process other =>
      obtain ⟨_, rfl⟩ := left
      rcases List.mem_cons.mp flying with rfl | old
      · exact .inr rfl
      · exact .inl old
  | file op =>
      obtain ⟨_, files, _, _, rfl⟩ := left
      exact .inl flying
  | _ =>
      rw [left.2] at flying
      exact .inl flying

/-- What is in flight comes down. -/
theorem inFlight_of_lands (lands : node.Lands node') {spec : CommandSpec}
    (flying : spec ∈ node'.inFlight) : spec ∈ node.inFlight := by
  obtain ⟨before, landed, after, split, _, _, _, rfl, _⟩ := lands
  rw [split]
  simp only [List.mem_append, List.mem_cons] at flying ⊢
  exact flying.imp_right .inr

/-- An operation that is no lock leaves the holders as they are. -/
theorem holder_of_step {res : op.Res} (noLock : ∀ which, op ≠ .lock which ∧ op ≠ .release which)
    (step : node.step thread op res node') : node'.holder = node.holder := by
  cases op with
  | process spec =>
      obtain ⟨files, docker, _, rfl, _⟩ := step.2
      rfl
  | file op =>
      obtain ⟨files, _, rfl⟩ := step
      rfl
  | acquireBuildPermit =>
      rcases step with ⟨_, _, rfl⟩ | ⟨_, rfl⟩
      · rfl
      · rfl
  | lock which => exact absurd rfl (noLock which).1
  | release which => exact absurd rfl (noLock which).2
  | routeActivated => rw [step.2]
  | _ => rw [show node' = _ from step]

theorem holder_of_leave {outcome : Option op.Res} (left : node.leave op outcome node') :
    node'.holder = node.holder := by
  cases op with
  | file op =>
      obtain ⟨_, files, _, _, rfl⟩ := left
      rfl
  | _ => rw [left.2]

/-- Nobody takes a lock from the thread that holds it. -/
theorem holder_of_step_other {res : op.Res} {which : NodeLock} (ne : other ≠ thread)
    (held : node.holder which = some other) (step : node.step thread op res node') :
    node'.holder which = some other := by
  cases op with
  | lock taken =>
      obtain ⟨free, rfl⟩ := step
      have apart : which ≠ taken := by
        rintro rfl
        rw [free] at held
        cases held
      exact (Function.update_of_ne apart ..).trans held
  | release given =>
      obtain rfl : node' = _ := step
      simp only [released]
      split
      · rename_i own
        have apart : which ≠ given := by
          rintro rfl
          rw [held] at own
          exact ne (Option.some.inj own)
        exact (Function.update_of_ne apart ..).trans held
      · exact held
  | _ => rw [holder_of_step (fun _ => by simp) step, held]

end Node

end SakalaAgent
