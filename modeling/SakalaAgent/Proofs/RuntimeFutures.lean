/-
Module: SakalaAgent.Proofs.RuntimeFutures
Layer: Proofs
Purpose: The futures of the runtime by what they ask for, one lemma for each: a condition on
  operations holds of all that a future asks for as soon as it holds of the few kinds of operations
  the future is made of. Files are told apart by where they are: in the workspace of a command, the
  route file of a project, or the directories a cleanup looks over.
Trusted boundary: none
Main exports: CommandLine.builds, FsOp.inWorkspace, FsOp.inRoute, FsOp.sweeps, Admits, Admits.runChecked,
  Admits.checkout, Admits.start, Admits.activation, Admits.cleanupTarget
-/
import SakalaAgent.Proofs.RuntimeOps
import SakalaAgent.Runtime.Inspection

namespace SakalaAgent

open Async

/-! ### Kinds of operations -/

/-- The process builds an image, or prepares its build. -/
def CommandLine.builds : CommandLine → Bool
  | .docker (.buildx _ _ _ _ _) => true
  | .railpack arguments => arguments.head? = some "prepare".toList
  | _ => false

/-- The paths an operation names. -/
def FsOp.paths : FsOp → List FilePath
  | .rename source target => [source, target]
  | .createDirAll path | .tryExists path | .setPermissions path _ | .read path | .write path _
  | .createNew path | .append path _ | .removeFile path | .removeDirAll path | .readDir path
  | .age path => [path]

/-- A workspace, or what lies in it. -/
def FilePath.inWorkspace (name : Text) : FilePath → Bool
  | .workspace other => other = name
  | .within other _ => other = name
  | _ => false

/-- The operation is on one workspace. -/
def FsOp.inWorkspace (name : Text) (op : FsOp) : Bool :=
  op.paths.all (FilePath.inWorkspace name)

/-- The operation is on the route file of one project, or makes the directory of the sites. -/
def FsOp.inRoute (projectId : Uuid) (op : FsOp) : Bool :=
  op = .createDirAll .sites ||
    op.paths.all fun path => path = siteFile projectId || path = temporarySiteFile projectId

/-- The operation looks over a directory of the node, or takes a workspace away. -/
def FsOp.sweeps : FsOp → Bool
  | .readDir _ => true
  | .read (.site _) => true
  | .age (.workspace _) => true
  | .removeDirAll (.workspace _) => true
  | _ => false

/-- The condition holds of what goes on around the files: processes that change no container and build
nothing, reports, and waiting. -/
structure Admits (ok : RuntimeOp → Prop) : Prop where
  process : ∀ spec : CommandSpec, spec.line.isQuiet = true → spec.line.builds = false →
    ok (.process spec)
  log : ∀ line, ok (.log line)
  event : ∀ event, ok (.event event)
  sleep : ok .sleep
  isCancelled : ok .isCancelled

/-- The condition holds of a Docker command without ties to its request. -/
abbrev StartsDocker (ok : RuntimeOp → Prop) (command : DockerCommand) : Prop :=
  ok (.process (ContainerEngine.docker command))

namespace Admits

variable {ok : RuntimeOp → Prop}

/-! ### Files -/

theorem tryFileOp {op : FsOp} (file : ok (.file op)) : Fallible.AllOps ok (tryFileOp op) :=
  ⟨file, fun _ => trivial⟩

theorem fileOp {op : FsOp} (file : ok (.file op)) : Fallible.AllOps ok (fileOp op) :=
  Fallible.allOps_bind (p := SakalaAgent.tryFileOp op) (tryFileOp file) fun _ => trivial

theorem onlyIf {action : RuntimeM Unit} (condition : Bool) (ops : Fallible.AllOps ok action) :
    Fallible.AllOps ok (onlyIf condition action) := by
  cases condition with
  | true => exact ops
  | false => trivial

theorem withTimeout {α : Type} {which : RuntimeAlarm} {operation : String} {seconds : Nat}
    {future : RuntimeM α} (ops : Fallible.AllOps ok future) :
    Fallible.AllOps ok (withTimeout which operation seconds future) :=
  Prog.allOps_bind (Prog.allOps_timeout ops) fun _ => trivial

variable (admits : Admits ok)
include admits

/-! ### Processes and reports -/

/-- A process that is started, whatever it is for, passes its lines on. -/
theorem spawned {spec : CommandSpec} (started : ok (.process spec)) (sink : OutputSink) :
    Fallible.AllOps ok (SakalaAgent.runProcess spec sink) := by
  apply Fallible.allOps_bind (Fallible.allOps_perform started)
  intro result
  have spawned : Fallible.AllOps (Spawns fun _ => False) (forM result.lines sink.line) :=
    spawns_sink sink result.lines
  have passed : Fallible.AllOps ok (forM result.lines sink.line) :=
    spawned.mono fun op spawns => by
      cases op with
      | log line => exact admits.log line
      | _ => exact spawns.elim
  apply Fallible.allOps_bind passed
  intro _
  split <;> trivial

theorem checked {spec : CommandSpec} (started : ok (.process spec)) (phase : String) :
    Fallible.AllOps ok (SakalaAgent.runChecked spec phase) := by
  apply Fallible.allOps_bind (admits.spawned started _)
  intro output
  split <;> trivial

theorem runProcess {spec : CommandSpec} (isQuiet : spec.line.isQuiet = true)
    (builds : spec.line.builds = false) (sink : OutputSink) :
    Fallible.AllOps ok (runProcess spec sink) :=
  admits.spawned (admits.process spec isQuiet builds) sink

theorem runChecked {spec : CommandSpec} (isQuiet : spec.line.isQuiet = true)
    (builds : spec.line.builds = false) (phase : String) :
    Fallible.AllOps ok (runChecked spec phase) :=
  admits.checked (admits.process spec isQuiet builds) phase

theorem emitEvent (eventType message : String) (metadata : Json) :
    Fallible.AllOps ok (emitEvent eventType message metadata) :=
  Fallible.allOps_bind (Fallible.allOps_perform (admits.event _)) fun _ => trivial

theorem warnOnError (outcome : Except RuntimeError Unit) (warning : RuntimeError → String) :
    Fallible.AllOps ok (warnOnError outcome warning) := by
  cases outcome with
  | ok _ => trivial
  | error error => exact Fallible.allOps_bind (Fallible.allOps_perform (admits.log _)) fun _ => trivial

theorem cancellable {α : Type} {body : Bool → RuntimeM α}
    (ops : ∀ isCancelled, Fallible.AllOps ok (body isCancelled)) :
    Fallible.AllOps ok (Fallible.perform (I := Runtime) .isCancelled >>= body) :=
  Fallible.allOps_bind (Fallible.allOps_perform admits.isCancelled) ops

/-! ### Containers -/

theorem ensureCapacity (engine : ContainerEngine) (projectId : Uuid) :
    Fallible.AllOps ok (engine.ensureCapacity projectId) := by
  apply Fallible.allOps_bind (admits.runProcess rfl rfl _)
  intro output
  split
  · trivial
  · split <;> trivial

theorem detectOrphans : Fallible.AllOps ok ContainerEngine.detectOrphans := by
  apply Fallible.allOps_bind (admits.runProcess rfl rfl _)
  intro output
  split <;> trivial

theorem workload (projectId deploymentId : Uuid) :
    Fallible.AllOps ok (ContainerEngine.workload projectId deploymentId) := by
  apply Fallible.allOps_bind (admits.runProcess rfl rfl _)
  intro output
  split <;> trivial

theorem waitAttempts (checker : HealthChecker) (container : Text) (remaining : Nat) :
    Fallible.AllOps ok (checker.waitAttempts container remaining) := by
  induction remaining with
  | zero => trivial
  | succ remaining ih =>
      apply Fallible.allOps_bind (admits.runProcess rfl rfl _)
      intro output
      dsimp only
      split
      · trivial
      · split
        · trivial
        · exact Fallible.allOps_bind (Fallible.allOps_perform admits.sleep) fun _ => ih

theorem waitUntilReady (checker : HealthChecker) (container : Text) :
    Fallible.AllOps ok (checker.waitUntilReady container) :=
  admits.waitAttempts checker container _

theorem runContainerCommand {command : DockerCommand} (started : StartsDocker ok command)
    (phase : String) :
    Fallible.AllOps ok (ContainerEngine.runContainerCommand command phase) := by
  apply Fallible.allOps_bind (admits.spawned started _)
  intro output
  split <;> trivial

theorem stop {workload : ManagedWorkload} {graceSeconds : Nat}
    (started : StartsDocker ok (.stop graceSeconds workload.containerId)) :
    Fallible.AllOps ok (ContainerEngine.stop workload graceSeconds) := by
  unfold ContainerEngine.stop
  split
  · exact admits.runContainerCommand started _
  · exact Fallible.allOps_pure _

theorem startExisting {workload : ManagedWorkload}
    (started : StartsDocker ok (.start workload.containerId)) :
    Fallible.AllOps ok (ContainerEngine.startExisting workload) := by
  unfold ContainerEngine.startExisting
  split
  · exact Fallible.allOps_pure _
  · exact admits.runContainerCommand started _

theorem cleanupArtifact {command : DockerCommand} (started : StartsDocker ok command)
    (artifact : String) :
    Fallible.AllOps ok (ContainerEngine.cleanupArtifact artifact command) := by
  apply Fallible.allOps_bind (Fallible.allOps_attempt (admits.spawned started _))
  rintro (error | output) <;> trivial

theorem cleanupCandidate {container image : Text} (rm : StartsDocker ok (.rm true container))
    (imageRemove : StartsDocker ok (.imageRemove image)) :
    Fallible.AllOps ok (ContainerEngine.cleanupCandidate container image) := by
  apply Fallible.allOps_bind (admits.cleanupArtifact rm _)
  intro first
  apply Fallible.allOps_bind (admits.cleanupArtifact imageRemove _)
  intro second
  split <;> trivial

theorem cleanupPreviousContainer {containerId : Text}
    (stop : StartsDocker ok (.stop 10 containerId)) (rm : StartsDocker ok (.rm false containerId))
    (current : Text) :
    Fallible.AllOps ok (ContainerEngine.cleanupPreviousContainer current containerId) := by
  apply Fallible.allOps_bind (admits.runProcess rfl rfl _)
  intro inspected
  split
  · trivial
  · dsimp only
    split
    · trivial
    · apply Fallible.allOps_bind
      · apply onlyIf
        exact Fallible.allOps_bind (admits.checked stop _) fun _ => trivial
      · exact fun _ => Fallible.allOps_bind (admits.checked rm _) fun _ => trivial

theorem cleanupPrevious (stop : ∀ reference, StartsDocker ok (.stop 10 reference))
    (rm : ∀ reference, StartsDocker ok (.rm false reference)) (projectId : Uuid) (current : Text) :
    Fallible.AllOps ok (ContainerEngine.cleanupPrevious projectId current) := by
  apply Fallible.allOps_bind (admits.runProcess rfl rfl _)
  intro output
  split
  · trivial
  · apply Fallible.allOps_forM
    exact fun containerId _ =>
      admits.cleanupPreviousContainer (stop containerId) (rm containerId) current

theorem cleanupStaleImages (engine : ContainerEngine) (maxAgeSeconds : Nat) :
    Fallible.AllOps ok (engine.cleanupStaleImages maxAgeSeconds) := by
  apply Fallible.allOps_bind (admits.runProcess rfl rfl _)
  intro output
  split <;> trivial

/-! ### Workspaces -/

section Workspace

omit admits in
theorem cleanup {workspace : DeploymentWorkspace}
    (files : ∀ op : FsOp, op.inWorkspace workspace.name = true → ok (.file op)) :
    Fallible.AllOps ok (WorkspaceManager.cleanup workspace) := by
  have removes : (FsOp.removeDirAll workspace.root).inWorkspace workspace.name = true := by
    simp [FsOp.inWorkspace, FsOp.paths, DeploymentWorkspace.root, FilePath.inWorkspace]
  apply Fallible.allOps_bind (tryFileOp (files _ removes))
  rintro (error | _)
  · dsimp only
    split <;> trivial
  · trivial

variable {name : Text} (files : ∀ op : FsOp, op.inWorkspace name = true → ok (.file op))
include files

omit admits in
/-- An operation on the workspace itself. -/
theorem onRoot {op : FsOp} (paths : op.paths = [.workspace name]) : ok (.file op) := by
  apply files
  simp [FsOp.inWorkspace, paths, FilePath.inWorkspace]

omit admits in
/-- An operation on a file of the workspace. -/
theorem onFile {op : FsOp} (relative : Text) (paths : op.paths = [.within name relative]) :
    ok (.file op) := by
  apply files
  simp [FsOp.inWorkspace, paths, FilePath.inWorkspace]

omit admits in
theorem writeEnvFile (environment : List (String × String)) :
    Fallible.AllOps ok (ContainerEngine.writeEnvFile name environment) := by
  unfold ContainerEngine.writeEnvFile
  split
  · exact Fallible.allOps_pure _
  · apply Fallible.allOps_bind (fileOp (onFile files _ rfl))
    intro _
    apply Fallible.allOps_bind
    · exact Fallible.allOps_forM fun entry _ => fileOp (onFile files _ rfl)
    · exact fun _ => Fallible.allOps_pure _

omit admits in
theorem prepareWorkspace (credential : Option RepositoryCredential) :
    Fallible.AllOps ok (WorkspaceManager.prepareWorkspace { name } credential) := by
  apply Fallible.allOps_bind (fileOp (onRoot files rfl))
  intro found
  apply Fallible.allOps_bind (onlyIf _ (fileOp (onRoot files rfl)))
  intro _
  apply Fallible.allOps_bind (fileOp (onRoot files rfl))
  intro _
  apply Fallible.allOps_bind (fileOp (onRoot files rfl))
  intro _
  apply onlyIf
  exact Fallible.allOps_bind (fileOp (onFile files _ rfl)) fun _ => fileOp (onFile files _ rfl)

omit admits in
theorem removeAskpass (credential : Option RepositoryCredential) :
    Fallible.AllOps ok (WorkspaceManager.removeAskpass { name } credential) := by
  cases credential with
  | none => exact Fallible.allOps_pure _
  | some credential => exact tryFileOp (onFile files _ rfl)

omit admits in
theorem abandonCheckout (error : RuntimeError) :
    Fallible.AllOps ok (WorkspaceManager.abandonCheckout { name } error) :=
  Fallible.allOps_bind (Fallible.allOps_attempt (cleanup files)) fun _ => trivial

omit files in
theorem runCheckout (manager : WorkspaceManager) (workspace : DeploymentWorkspace)
    (source : RepositorySource) : Fallible.AllOps ok (manager.runCheckout workspace source) := by
  apply Fallible.allOps_forM
  intro entry member
  have harmless : entry.2.line.isQuiet = true ∧ entry.2.line.builds = false := by
    simp only [WorkspaceManager.checkoutCommands, List.mem_cons, List.not_mem_nil, or_false]
      at member
    rcases member with rfl | rfl | rfl | rfl
    · exact ⟨rfl, rfl⟩
    · exact ⟨rfl, rfl⟩
    · simp only [WorkspaceManager.fetchCommand]
      split <;> exact ⟨rfl, rfl⟩
    · exact ⟨rfl, rfl⟩
  exact Fallible.allOps_bind (admits.runChecked harmless.1 harmless.2 _) fun _ => trivial

theorem start (engine : ContainerEngine) {request : RunContainerRequest}
    (own : request.workspace = name) (run : ∀ options, StartsDocker ok (.run options)) :
    Fallible.AllOps ok (engine.start request) := by
  subst own
  apply Fallible.allOps_bind (writeEnvFile files _)
  intro hasEnvFile
  apply Fallible.allOps_bind (Fallible.allOps_attempt (admits.checked (run _) _))
  intro result
  split
  · apply Fallible.allOps_bind (tryFileOp (onFile files _ rfl))
    intro removed
    cases result <;> trivial
  · trivial

end Workspace

theorem checkout (manager : WorkspaceManager) {commandId : Uuid}
    (files : ∀ op : FsOp, op.inWorkspace commandId.toText = true → ok (.file op))
    (source : RepositorySource) : Fallible.AllOps ok (manager.checkout commandId source) := by
  apply Fallible.allOps_bind (prepareWorkspace files _)
  intro _
  apply Fallible.allOps_bind (Fallible.allOps_attempt (admits.runCheckout manager _ source))
  intro checkedOut
  apply Fallible.allOps_bind (removeAskpass files _)
  intro askpassCleanup
  split
  · exact abandonCheckout files _
  · exact abandonCheckout files _
  · trivial

theorem availableDiskBytes (manager : WorkspaceManager) :
    Fallible.AllOps ok manager.availableDiskBytes := by
  apply Fallible.allOps_bind (admits.runProcess rfl rfl _)
  intro output
  split <;> trivial

/-- A build asks for processes that build. -/
theorem build (service : ImageBuildService) {request : BuildRequest}
    (files : ∀ op : FsOp, op.inWorkspace request.workspace.name = true → ok (.file op))
    (process : ∀ spec : CommandSpec, spec.line.builds = true → ok (.process spec)) :
    Fallible.AllOps ok (service.build request) := by
  apply Fallible.allOps_bind (fileOp (onFile files _ rfl))
  intro dockerfileFound
  apply Fallible.allOps_bind (Fallible.allOps_ofExcept _)
  intro builder
  split
  · apply Fallible.allOps_bind (admits.checked (process _ rfl) _)
    intro _
    exact Fallible.allOps_bind (admits.checked (process _ rfl) _) fun _ => trivial
  · exact Fallible.allOps_bind (admits.checked (process _ rfl) _) fun _ => trivial

omit admits in
theorem detectedManifests {workspace : DeploymentWorkspace}
    (files : ∀ op : FsOp, op.inWorkspace workspace.name = true → ok (.file op))
    (candidates : List String) :
    Fallible.AllOps ok (detectedManifests workspace candidates) := by
  induction candidates with
  | nil => exact Fallible.allOps_pure _
  | cons candidate candidates ih =>
      apply Fallible.allOps_bind (fileOp (onFile files _ rfl))
      exact fun found => Fallible.allOps_bind ih fun _ => Fallible.allOps_pure _

theorem inspect (inspector : RailpackProjectInspector) {workspace : DeploymentWorkspace}
    (files : ∀ op : FsOp, op.inWorkspace workspace.name = true → ok (.file op))
    (source : RepositorySource) : Fallible.AllOps ok (inspector.inspect workspace source) := by
  apply Fallible.allOps_bind (admits.runChecked rfl rfl _)
  intro _
  apply Fallible.allOps_bind (fileOp (onFile files _ rfl))
  intro metadata
  split
  · exact Fallible.allOps_throw _
  · apply Fallible.allOps_bind (fileOp (onFile files _ rfl))
    intro content
    apply Fallible.allOps_bind (Fallible.allOps_ofExcept _)
    intro railpack
    exact Fallible.allOps_bind (detectedManifests files _) fun _ => Fallible.allOps_pure _

/-! ### Routes -/

/-- What the router is asked, and told again when a change is taken back. -/
theorem reloadOrRestore (manager : RouteManager) {snapshot : RouteSnapshot}
    (restored : Fallible.AllOps ok snapshot.restore) :
    Fallible.AllOps ok (manager.reloadOrRestore snapshot) := by
  have validated : Fallible.AllOps ok manager.validateAndReload := by
    apply Fallible.allOps_forM
    intro action _
    exact Fallible.allOps_bind (admits.runChecked rfl rfl _) fun _ => trivial
  have reloaded : Fallible.AllOps ok manager.reloadAfterRollback :=
    Fallible.allOps_bind (Fallible.allOps_attempt (admits.runProcess rfl rfl _)) fun _ => trivial
  apply Fallible.allOps_bind (Fallible.allOps_attempt validated)
  rintro (error | _)
  · apply Fallible.allOps_bind restored
    exact fun _ => Fallible.allOps_bind reloaded fun _ => trivial
  · trivial

section Route

variable {projectId : Uuid} (files : ∀ op : FsOp, op.inRoute projectId = true → ok (.file op))
include files

omit admits in
theorem onSite {op : FsOp}
    (paths : ∀ path ∈ op.paths, path = siteFile projectId ∨ path = temporarySiteFile projectId) :
    ok (.file op) := by
  apply files
  simp only [FsOp.inRoute, Bool.or_eq_true, List.all_eq_true, decide_eq_true_eq]
  exact .inr paths

omit admits in
theorem onSiteFile {op : FsOp} (paths : op.paths = [siteFile projectId]) : ok (.file op) := by
  apply onSite files
  simp [paths]

omit admits in
theorem readIfPresent : Fallible.AllOps ok (readIfPresent (siteFile projectId)) := by
  apply Fallible.allOps_bind (tryFileOp (onSiteFile files rfl))
  rintro (error | content)
  · dsimp only
    split <;> trivial
  · trivial

/-- The snapshot is that of the route file. -/
theorem reloadOrRestoreSite (manager : RouteManager) (previous : Option FileContent)
    (changed : Bool) :
    Fallible.AllOps ok (manager.reloadOrRestore { path := siteFile projectId, previous, changed }) := by
  apply admits.reloadOrRestore
  cases previous with
  | some content => exact fileOp (onSiteFile files rfl)
  | none =>
      apply Fallible.allOps_bind (tryFileOp (onSiteFile files rfl))
      rintro (error | _)
      · dsimp only
        split <;> trivial
      · trivial

theorem activation (manager : RouteManager) {route : RouteSpec} (own : route.projectId = projectId) :
    Fallible.AllOps ok (writeRoute route >>= manager.reloadOrRestore) := by
  subst own
  rw [writeRoute]
  simp only [bind_assoc, pure_bind]
  apply Fallible.allOps_bind (fileOp (files _ rfl))
  intro _
  apply Fallible.allOps_bind (readIfPresent files)
  intro previous
  apply Fallible.allOps_bind (fileOp (onSite files (by simp [FsOp.paths])))
  intro _
  apply Fallible.allOps_bind (fileOp (onSite files (by simp [FsOp.paths])))
  exact fun _ => admits.reloadOrRestoreSite files manager previous true

/-- What `deactivate` does inside the lock. -/
theorem deactivation (manager : RouteManager) {identity : RouteIdentity}
    (own : identity.projectId = projectId) :
    Fallible.AllOps ok (do
      let snapshot ← manager.removeRoute identity
      if snapshot.changed then
        manager.reloadOrRestore snapshot
        return true
      else return false) := by
  subst own
  unfold RouteManager.removeRoute
  simp only [bind_assoc]
  apply Fallible.allOps_bind (readIfPresent files)
  rintro (_ | content)
  · exact Fallible.allOps_pure _
  · dsimp only
    split
    · exact Fallible.allOps_throw _
    · split
      · exact Fallible.allOps_pure _
      · simp only [bind_assoc]
        apply Fallible.allOps_bind (fileOp (onSiteFile files rfl))
        intro _
        apply Fallible.allOps_bind (admits.reloadOrRestoreSite files manager (some content) true)
        exact fun _ => Fallible.allOps_pure _

end Route

/-! ### Cleanup -/

section Sweep

variable (sweeps : ∀ op : FsOp, op.sweeps = true → ok (.file op))
include sweeps

omit admits in
theorem inspectEntries (manager : RouteManager) (known : List RouteIdentity)
    (entries : List (Text × FileKind)) : Fallible.AllOps ok (manager.inspectEntries known entries) := by
  induction entries with
  | nil => exact Fallible.allOps_pure _
  | cons entry entries ih =>
      obtain ⟨name, kind⟩ := entry
      apply Fallible.allOps_bind
      · unfold RouteManager.inspectEntry
        split
        · apply Fallible.allOps_bind
          · apply Fallible.allOps_bind (fileOp (sweeps _ rfl))
            intro content
            split <;> trivial
          · intro content
            dsimp only
            split
            · exact Fallible.allOps_pure _
            · split <;> exact Fallible.allOps_pure _
        · exact Fallible.allOps_pure _
      · exact fun found => Fallible.allOps_bind ih fun _ => Fallible.allOps_pure _

omit admits in
theorem discoverStaleRoutes (manager : RouteManager) (known : List RouteIdentity) :
    Fallible.AllOps ok (manager.discoverStaleRoutes known) := by
  apply Fallible.allOps_bind (tryFileOp (sweeps _ rfl))
  rintro (error | entries)
  · dsimp only
    split <;> trivial
  · exact inspectEntries sweeps manager known entries

omit admits in
theorem cleanupStale (minimumAge : Nat) :
    Fallible.AllOps ok (WorkspaceManager.cleanupStale minimumAge) := by
  apply Fallible.allOps_bind (tryFileOp (sweeps _ rfl))
  rintro (error | entries)
  · dsimp only
    split <;> trivial
  · induction entries with
    | nil => trivial
    | cons entry entries ih =>
        obtain ⟨name, kind⟩ := entry
        apply Fallible.allOps_bind
        · unfold WorkspaceManager.cleanupEntry
          split
          · apply Fallible.allOps_bind (fileOp (sweeps _ rfl))
            intro age
            split
            · exact Fallible.allOps_pure _
            · exact Fallible.allOps_bind (fileOp (sweeps _ rfl)) fun _ => trivial
          · exact Fallible.allOps_pure _
        · exact fun gone => Fallible.allOps_bind ih fun _ => trivial

end Sweep

/-! ### Deployments -/

theorem prepareDeployment (executor : DockerRuntimeExecutor) {request : DeployProjectRequest}
    (files : ∀ op : FsOp, op.inWorkspace request.commandId.toText = true → ok (.file op)) :
    Fallible.AllOps ok (executor.prepareDeployment request) := by
  apply Fallible.allOps_bind (Fallible.allOps_ofExcept _)
  intro _
  apply Fallible.allOps_bind (Fallible.allOps_ofExcept _)
  intro appliedTimeouts
  apply Fallible.allOps_bind (Fallible.allOps_ofExcept _)
  intro appliedResources
  apply Fallible.allOps_bind (Fallible.allOps_ofExcept _)
  intro source
  apply Fallible.allOps_bind
  · apply Fallible.allOps_bind (admits.availableDiskBytes _)
    intro available
    split <;> trivial
  · intro _
    apply Fallible.allOps_bind (admits.ensureCapacity _ _)
    intro _
    apply Fallible.allOps_bind (admits.emitEvent _ _ _)
    intro _
    apply Fallible.allOps_bind (admits.emitEvent _ _ _)
    intro _
    apply Fallible.allOps_bind (admits.emitEvent _ _ _)
    intro _
    exact Fallible.allOps_bind (admits.checkout _ files _) fun _ => trivial

theorem finalizeDeployment (follower : ∀ reference, ok (.startLogFollower reference))
    (stop : ∀ reference, StartsDocker ok (.stop 10 reference))
    (rm : ∀ reference, StartsDocker ok (.rm false reference))
    (deployment : Deployment) (builder : DeploymentBuilder) :
    Fallible.AllOps ok (DockerRuntimeExecutor.finalizeDeployment deployment builder) := by
  apply Fallible.allOps_bind
  · apply Fallible.allOps_attempt
    exact Fallible.allOps_bind (admits.runChecked rfl rfl _) fun _ => trivial
  intro logged
  apply Fallible.allOps_bind (admits.warnOnError _ _)
  intro _
  apply Fallible.allOps_bind (Fallible.allOps_attempt (admits.cleanupPrevious stop rm _ _))
  intro cleaned
  apply Fallible.allOps_bind (admits.warnOnError _ _)
  intro _
  apply Fallible.allOps_bind (Fallible.allOps_attempt (admits.emitEvent _ _ _))
  intro _
  exact Fallible.allOps_bind (Fallible.allOps_perform (follower _)) fun _ => trivial

theorem cleanupFailed (activated : ok .routeActivated) {deployment : Deployment}
    (rm : StartsDocker ok (.rm true deployment.container))
    (imageRemove : StartsDocker ok (.imageRemove deployment.image))
    (result : Except RuntimeError Unit) :
    Fallible.AllOps ok (DockerRuntimeExecutor.cleanupFailed deployment result) := by
  cases result with
  | ok _ => trivial
  | error error =>
      refine Fallible.allOps_bind (Fallible.allOps_perform activated) fun activated => ?_
      split
      · trivial
      · apply Fallible.allOps_bind (Fallible.allOps_attempt (admits.cleanupCandidate rm imageRemove))
        exact fun _ => admits.warnOnError _ _

omit admits in
theorem succeeds_warnOnError (outcome : Except RuntimeError Unit)
    (warning : RuntimeError → String) : Fallible.Succeeds (SakalaAgent.warnOnError outcome warning) := by
  cases outcome with
  | ok _ => exact Fallible.succeeds_pure _
  | error error =>
      exact Fallible.succeeds_bind (Fallible.succeeds_perform _) fun _ => Fallible.succeeds_pure _

omit admits in
theorem succeeds_cleanupFailed (deployment : Deployment) (result : Except RuntimeError Unit) :
    Fallible.Succeeds (DockerRuntimeExecutor.cleanupFailed deployment result) := by
  cases result with
  | ok _ => exact Fallible.succeeds_pure _
  | error error =>
      apply Fallible.succeeds_bind (Fallible.succeeds_perform _)
      intro activated
      split
      · exact Fallible.succeeds_pure _
      · apply Fallible.succeeds_bind (Fallible.succeeds_attempt _)
        exact fun _ => succeeds_warnOnError _ _

/-! ### Inspections -/

theorem runInspection (executor : DockerRuntimeExecutor) (inspector : RailpackProjectInspector)
    (request : InspectProjectRequest)
    (files : ∀ name, ∀ op : FsOp, op.inWorkspace name = true → ok (.file op)) :
    Fallible.AllOps ok (executor.runInspection inspector.toProjectInspector request) := by
  apply Fallible.allOps_bind (Fallible.allOps_ofExcept _)
  intro source
  apply Fallible.allOps_bind (admits.emitEvent _ _ _)
  intro _
  apply Fallible.allOps_bind (admits.checkout _ (files _) _)
  intro workspace
  apply Fallible.allOps_bind
  · apply admits.cancellable
    intro isCancelled
    split
    · exact Fallible.allOps_pure _
    · apply Fallible.allOps_attempt
      refine Prog.allOps_bind (Prog.allOps_timeout ?_) fun _ => trivial
      exact admits.inspect inspector (files _) _
  intro result
  apply Fallible.allOps_bind (Fallible.allOps_attempt (cleanup (files _)))
  intro cleanup
  apply Fallible.allOps_bind (Fallible.allOps_ofExcept _)
  intro inspection
  apply Fallible.allOps_bind (Fallible.allOps_ofExcept _)
  intro _
  exact Fallible.allOps_bind (admits.emitEvent _ _ _) fun _ => Fallible.allOps_pure _

/-! ### Lifecycle of a workload -/

theorem workloadOf (request : WorkloadLifecycleRequest) :
    Fallible.AllOps ok (DockerRuntimeExecutor.workload request) :=
  Fallible.allOps_bind (admits.workload _ _) fun _ => Fallible.allOps_ofExcept _

theorem runHealthCheck (executor : DockerRuntimeExecutor) (request : WorkloadLifecycleRequest) :
    Fallible.AllOps ok (executor.runHealthCheck request) := by
  apply Fallible.allOps_bind (admits.workloadOf request)
  intro workload
  apply Fallible.allOps_bind
  · unfold DockerRuntimeExecutor.readiness
    split
    · exact Fallible.allOps_attempt (admits.waitUntilReady _ _)
    · exact Fallible.allOps_pure _
  · exact fun ready => Fallible.allOps_pure _

omit admits in
theorem restartLogFollower (follower : ∀ reference, ok (.startLogFollower reference))
    (workload : ManagedWorkload) (reporterFactory : Bool) :
    Fallible.AllOps ok (DockerRuntimeExecutor.restartLogFollower workload reporterFactory) := by
  unfold DockerRuntimeExecutor.restartLogFollower
  split
  · exact Fallible.allOps_throw _
  · split
    · exact Fallible.allOps_throw _
    · split
      · exact Fallible.allOps_throw _
      · exact Fallible.allOps_bind (Fallible.allOps_perform (follower _))
          fun _ => Fallible.allOps_pure _

theorem cleanupFailedCandidate {workload : ManagedWorkload}
    (rm : StartsDocker ok (.rm false workload.containerId)) :
    Fallible.AllOps ok (DockerRuntimeExecutor.cleanupFailedCandidate workload) := by
  unfold DockerRuntimeExecutor.cleanupFailedCandidate
  split
  · exact Fallible.allOps_throw _
  · exact Fallible.allOps_bind (admits.runContainerCommand rm _) fun _ => Fallible.allOps_pure _

end Admits

end SakalaAgent
