/-
Module: SakalaAgent.Runtime.Executor
Layer: Runtime
Purpose: The commands of the Docker runtime executor: deployments, with the cancellation that may be
  seen wherever they wait, the lifecycle of a workload, its reconciliation, and the cleanup of the
  node.
Trusted boundary: as for the modules below; telemetry and the startup scan are left out.
Main exports: DockerRuntimeExecutor, DockerRuntimeExecutor.runDeployment,
  DockerRuntimeExecutor.runWake, DockerRuntimeExecutor.cleanupRuntime, routableRoutes
-/
import SakalaAgent.Runtime.Routing
import SakalaAgent.Runtime.Validation

namespace SakalaAgent

open Async

structure DockerRuntimeExecutor where
  parsers : Parsers
  workspace : WorkspaceManager
  builder : ImageBuildService
  containers : ContainerEngine
  resourceSafety : ResourceSafetyConfig
  health : HealthChecker
  routes : RouteManager
  timeoutSafety : TimeoutSafetyConfig
  workspaceGcMaxAge : Nat
  imageGcMaxAge : Nat
  minWorkspaceFreeBytes : UInt64

/-! ### Records as JSON -/

def numberJson (value : Nat) : Json :=
  .number (.unsigned (UInt64.ofNat value))

def optionalJson (value : Option Nat) : Json :=
  (value.map numberJson).getD .null

def textJson (text : Text) : Json :=
  .string (String.ofList text)

def Uuid.toJson (uuid : Uuid) : Json :=
  textJson uuid.toText

def DeploymentBuilder.toJson : DeploymentBuilder → Json
  | .auto => .string "auto"
  | .dockerfile => .string "dockerfile"
  | .railpack => .string "railpack"

def RuntimeResourceLimits.toJson (limits : RuntimeResourceLimits) : Json :=
  Json.ofEntries [("memory_mb", optionalJson (limits.memoryMb.map UInt64.toNat)),
    ("cpu_millis", optionalJson (limits.cpuMillis.map UInt32.toNat)),
    ("pids_limit", optionalJson (limits.pidsLimit.map UInt32.toNat))]

def AppliedRuntimeResources.toJson (resources : AppliedRuntimeResources) : Json :=
  Json.ofEntries [("memory_mb", numberJson resources.memoryMb.toNat),
    ("cpu_millis", numberJson resources.cpuMillis.toNat),
    ("pids_limit", numberJson resources.pidsLimit.toNat)]

/-- The output of a deployment, marked at its cutover and returned at its end. -/
def deploymentOutput (requested : RuntimeResourceLimits) (applied : AppliedRuntimeResources) :
    CommandOutput where
  result :=
    Json.ofEntries [("requested_resources", requested.toJson), ("applied_resources", applied.toJson)]

def statusOutput (status : String) : CommandOutput where
  result := Json.ofEntries [("status", .string status)]

/-! ### Deployments -/

namespace DeployProjectRequest

def image (request : DeployProjectRequest) : Text :=
  imageName request.projectId request.deploymentId request.payload.commitSha.toList

def container (request : DeployProjectRequest) : Text :=
  containerName request.projectId request.deploymentId

def route (request : DeployProjectRequest) : RouteSpec where
  projectId := request.projectId
  deploymentId := request.deploymentId
  domain := request.payload.domain
  upstream := request.container
  port := request.payload.containerPort

end DeployProjectRequest

/-- What a request has been turned into before its deployment starts. -/
structure PreparedDeployment where
  workspace : DeploymentWorkspace
  appliedResources : AppliedRuntimeResources
  appliedTimeouts : AppliedRuntimeTimeouts

/-- A deployment: the request, and what was prepared for it. -/
structure Deployment where
  request : DeployProjectRequest
  prepared : PreparedDeployment

namespace Deployment

def payload (deployment : Deployment) : DeployProjectPayload :=
  deployment.request.payload

def image (deployment : Deployment) : Text :=
  deployment.request.image

def container (deployment : Deployment) : Text :=
  deployment.request.container

def runRequest (deployment : Deployment) : RunContainerRequest where
  commandId := deployment.request.commandId
  projectId := deployment.request.projectId
  deploymentId := deployment.request.deploymentId
  name := deployment.container
  image := deployment.image
  workspace := deployment.prepared.workspace.name
  environment := deployment.payload.environment
  resources := deployment.prepared.appliedResources
  domain := deployment.payload.domain
  port := deployment.payload.containerPort
  logBounds := deployment.payload.logBounds

def buildRequest (deployment : Deployment) : BuildRequest where
  projectId := deployment.request.projectId
  deploymentId := deployment.request.deploymentId
  workspace := deployment.prepared.workspace
  image := deployment.image
  requested := deployment.payload.builder

end Deployment

/-- A future with a deadline: when it has passed, the future is dropped. -/
def withTimeout {α : Type} (which : RuntimeAlarm) (operation : String) (seconds : Nat)
    (future : RuntimeM α) : RuntimeM α :=
  ExceptT.mk ((future.run.timeout which).bind fun outcome =>
    .ret (outcome.getD (.error (.timeout operation seconds))))

/-- A future raced with the cancellation of its request, the future first. A cancellation that is
seen after the cutover waits for the future; before it, the future is not polled any more. -/
def untilCancelled (future : RuntimeM Unit) : RuntimeM (Except RuntimeError Unit) :=
  ExceptT.lift (future.run.race RuntimeAlarm.cancelled
    (fun rest => (Prog.perform (I := Runtime) .routeActivated).bind fun activated : Bool =>
      if activated then rest else rest.drop (.ret (.error .cancelled))) id)

namespace DockerRuntimeExecutor

def ensureWorkspaceCapacity (executor : DockerRuntimeExecutor) : RuntimeM Unit := do
  let available ← executor.workspace.availableDiskBytes
  if available < executor.minWorkspaceFreeBytes then
    throw (.diskPressure
      s!"workspace has {available} free bytes; node requires at least {executor.minWorkspaceFreeBytes} bytes before a deployment build")
  else return ()

/-- The first part of `deploy_inner`: the image is built under a build permit. -/
def buildImage (executor : DockerRuntimeExecutor) (deployment : Deployment) :
    RuntimeM DeploymentBuilder := do
  let acquired : Bool ← Fallible.perform (I := Runtime) .acquireBuildPermit
  if !acquired then throw (.execution "build concurrency scheduler is unavailable")
  else do
    let built : Except RuntimeError DeploymentBuilder ← Fallible.attempt do
      emitEvent "deployment.build.started" "Preparing application image."
        (Json.ofEntries [("requested_builder", deployment.payload.builder.toJson)])
      withTimeout .buildTimeout "deployment-build" deployment.prepared.appliedTimeouts.build
        (executor.builder.build deployment.buildRequest)
    Fallible.perform (I := Runtime) .releaseBuildPermit
    .ofExcept built

/-- A container is started under the admission lock, after a check that closes the race of the first
one, and has to become ready. -/
def startAndWait (executor : DockerRuntimeExecutor) (deployment : Deployment) : RuntimeM Unit := do
  Fallible.perform (I := Runtime) (.lock .admission)
  let started : Except RuntimeError Unit ← Fallible.attempt do
    executor.containers.ensureCapacity deployment.request.projectId
    executor.containers.start deployment.runRequest
  Fallible.perform (I := Runtime) (.release .admission)
  Fallible.ofExcept started
  executor.health.waitUntilReady deployment.container

/-- The second part of `deploy_inner`: the candidate is started within its deadline. -/
def startCandidate (executor : DockerRuntimeExecutor) (deployment : Deployment) :
    RuntimeM Unit := do
  emitEvent "deployment.container.started" "Starting candidate application container."
    (Json.ofEntries
      [("container", textJson deployment.container), ("image", textJson deployment.image)])
  let started : Except RuntimeError Unit ← Fallible.attempt
    (withTimeout .startTimeout "deployment-start" deployment.prepared.appliedTimeouts.start
      (executor.startAndWait deployment))
  Fallible.perform (I := Runtime) (.release .admission)
  .ofExcept started

/-- What `deploy_inner` does after the cutover. -/
def finalizeDeployment (deployment : Deployment) (builder : DeploymentBuilder) : RuntimeM Unit := do
  let container := String.ofList deployment.container
  let logged : Except RuntimeError Unit ←
    Fallible.attempt (ContainerEngine.reportStartupLogs deployment.container)
  warnOnError logged fun error =>
    s!"startup log collection warning for {container}: {error.message}"
  let cleaned : Except RuntimeError Unit ←
    Fallible.attempt (ContainerEngine.cleanupPrevious deployment.request.projectId deployment.container)
  warnOnError cleaned fun error =>
    s!"previous container cleanup warning for project {deployment.request.projectId.toString}: {error.message}"
  let _ ← Fallible.attempt (ε := RuntimeError)
    (emitEvent "deployment.runtime.ready" "Application container and route are ready."
      (Json.ofEntries [("builder", builder.toJson), ("container", .string container),
        ("domain", .string deployment.payload.domain), ("image", textJson deployment.image),
        ("resources", deployment.prepared.appliedResources.toJson)]))
  let _ ← ContainerEngine.startLogFollower deployment.container
  .ofExcept cleaned

def deployInner (executor : DockerRuntimeExecutor) (deployment : Deployment) : RuntimeM Unit := do
  let builder ← executor.buildImage deployment
  executor.startCandidate deployment
  executor.routes.activate deployment.request.route
  Fallible.perform (I := Runtime) (.setRouteActivated true)
  Fallible.perform (I := Runtime) (.markDeploymentCommitted
    (deploymentOutput deployment.payload.resources deployment.prepared.appliedResources))
  finalizeDeployment deployment builder

/-- The candidate of a deployment that failed before its cutover is taken away. -/
def cleanupFailed (deployment : Deployment) (result : Except RuntimeError Unit) : RuntimeM Unit :=
  match result with
  | .ok _ => return ()
  | .error _ => do
      let activated : Bool ← Fallible.perform (I := Runtime) .routeActivated
      if activated then return ()
      else do
        let cleaned : Except RuntimeError Unit ←
          Fallible.attempt (ContainerEngine.cleanupCandidate deployment.container deployment.image)
        warnOnError cleaned fun error =>
          s!"candidate cleanup warning for {String.ofList deployment.container}: {error.message}"

/-- The future of the deployment goes out of scope, and gives back what it still holds. -/
def dropDeployment : RuntimeM Unit := do
  Fallible.perform (I := Runtime) (.release .routes)
  Fallible.perform (I := Runtime) (.release .admission)
  Fallible.perform (I := Runtime) .releaseBuildPermit

/-- `run_deployment` from the checked-out repository on. -/
def runCheckedOut (executor : DockerRuntimeExecutor) (deployment : Deployment) :
    RuntimeM CommandOutput := do
  Fallible.perform (I := Runtime) (.setRouteActivated false)
  let result ← untilCancelled (executor.deployInner deployment)
  cleanupFailed deployment result
  let cleaned : Except RuntimeError Unit ←
    Fallible.attempt (WorkspaceManager.cleanup deployment.prepared.workspace)
  warnOnError cleaned fun error =>
    s!"workspace cleanup warning for {executor.workspace.rootPath deployment.prepared.workspace}: {error.message}"
  dropDeployment
  Fallible.ofExcept result
  return deploymentOutput deployment.payload.resources deployment.prepared.appliedResources

/-- `run_deployment` up to its checkout. -/
def prepareDeployment (executor : DockerRuntimeExecutor) (request : DeployProjectRequest) :
    RuntimeM PreparedDeployment := do
  let payload := request.payload
  Fallible.ofExcept (validatePayload executor.parsers payload)
  let appliedTimeouts ← Fallible.ofExcept (executor.timeoutSafety.resolve payload.timeouts)
  let appliedResources ← Fallible.ofExcept (executor.resourceSafety.resolve payload.resources)
  let source ← Fallible.ofExcept
    (deploymentSource executor.parsers payload request.repositoryCredential)
  executor.ensureWorkspaceCapacity
  executor.containers.ensureCapacity request.projectId
  emitEvent "deployment.resources.resolved" "Runtime resource request passed node safety checks."
    (Json.ofEntries
      [("requested", payload.resources.toJson), ("applied", appliedResources.toJson)])
  emitEvent "deployment.timeouts.resolved" "Runtime timeout request passed node safety checks."
    (Json.ofEntries [("build_timeout_seconds", numberJson appliedTimeouts.build),
      ("start_timeout_seconds", numberJson appliedTimeouts.start)])
  emitEvent "deployment.checkout.started" "Cloning repository at the requested commit."
    (Json.ofEntries [("commit_sha", .string payload.commitSha)])
  let workspace ← executor.workspace.checkout request.commandId source
  return { workspace, appliedResources, appliedTimeouts }

def runDeployment (executor : DockerRuntimeExecutor) (request : DeployProjectRequest) :
    RuntimeM CommandOutput := do
  let prepared ← executor.prepareDeployment request
  executor.runCheckedOut { request, prepared }

/-! ### Lifecycle of a workload -/

def workload (request : WorkloadLifecycleRequest) : RuntimeM ManagedWorkload := do
  let found ← ContainerEngine.workload request.projectId request.deploymentId
  .ofExcept (found.elim (.error .workloadNotFound) .ok)

def activateWorkload (executor : DockerRuntimeExecutor) (workload : ManagedWorkload) :
    RuntimeM Unit := do
  executor.health.waitUntilReady workload.containerId
  executor.routes.activate {
    projectId := workload.projectId
    deploymentId := workload.deploymentId
    domain := String.ofList workload.domain
    upstream := containerName workload.projectId workload.deploymentId
    port := workload.port }

/-- The identity of a workload in an event. -/
def identityJson (workload : ManagedWorkload) : Json :=
  Json.ofEntries [("project_id", workload.projectId.toJson),
    ("deployment_id", workload.deploymentId.toJson)]

def runRestart (executor : DockerRuntimeExecutor) (request : WorkloadLifecycleRequest) :
    RuntimeM CommandOutput := do
  let workload ← workload request
  if !isUpStatus workload.status then throw .workloadNotRunning
  else do
    ContainerEngine.restart workload 10
    executor.activateWorkload workload
    emitEvent "workload.restart.completed" "Workload restarted and route revalidated."
      (identityJson workload)
    return statusOutput "ready"

def routeOf (request : WorkloadLifecycleRequest) : RouteIdentity where
  projectId := request.projectId
  deploymentId := some request.deploymentId

/-- A workload that is there is stopped, and removed if asked to be. -/
def stopWorkload (executor : DockerRuntimeExecutor) (workload : ManagedWorkload) (remove : Bool) :
    RuntimeM CommandOutput := do
  ContainerEngine.stop workload 10
  let _ ← executor.routes.deactivate
    { projectId := workload.projectId, deploymentId := some workload.deploymentId }
  onlyIf remove (ContainerEngine.remove workload)
  emitEvent (if remove then "workload.stop.completed" else "workload.sleep.completed")
    (if remove then "Workload stopped and container removed; image is retained."
      else "Workload stopped for sleep; container and image are retained.")
    (identityJson workload)
  return statusOutput (if remove then "stopped" else "sleeping")

def runStop (executor : DockerRuntimeExecutor) (request : WorkloadLifecycleRequest)
    (remove : Bool) : RuntimeM CommandOutput := do
  let found ← ContainerEngine.workload request.projectId request.deploymentId
  match found with
  | some workload => executor.stopWorkload workload remove
  | none =>
      if !remove then throw .workloadNotFound
      else do
        let _ ← executor.routes.deactivate (routeOf request)
        return statusOutput "already_stopped"

def runWake (executor : DockerRuntimeExecutor) (request : WorkloadLifecycleRequest) :
    RuntimeM CommandOutput := do
  let workload ← workload request
  ContainerEngine.startExisting workload
  executor.activateWorkload workload
  emitEvent "workload.wake.completed" "Sleeping workload is ready and its route is restored."
    (identityJson workload)
  return statusOutput "ready"

/-- Whether a workload is ready is a result here, not an error. -/
def readiness (executor : DockerRuntimeExecutor) (workload : ManagedWorkload) :
    RuntimeM (Except RuntimeError Unit) :=
  if isUpStatus workload.status then
    Fallible.attempt (executor.health.waitUntilReady workload.containerId)
  else return .error .workloadNotRunning

def runHealthCheck (executor : DockerRuntimeExecutor) (request : WorkloadLifecycleRequest) :
    RuntimeM CommandOutput := do
  let workload ← workload request
  let ready ← executor.readiness workload
  return {
    result := Json.ofEntries [("container_id", textJson workload.containerId),
      ("running", .bool (isUpStatus workload.status)), ("ready", .bool ready.isOk),
      ("docker_status", textJson workload.status),
      ("reason", match ready with
        | .ok _ => .null
        | .error error => .string error.message)] }

def runRefreshRoute (executor : DockerRuntimeExecutor) (request : WorkloadLifecycleRequest) :
    RuntimeM CommandOutput := do
  let workload ← workload request
  if !isUpStatus workload.status then throw .workloadNotRunning
  else do
    executor.activateWorkload workload
    return statusOutput "ready"

/-! ### Reconciliation -/

def actualState (workload : Option ManagedWorkload) : String :=
  match workload with
  | none => "missing"
  | some workload => if isUpStatus workload.status then "running" else "stopped"

def desiredState : DesiredWorkloadState → String
  | .running => "running"
  | .stopped => "stopped"
  | .missing => "missing"

/-- The follower outlives the command, so it reports under the command that deployed the workload. -/
def restartLogFollower (workload : ManagedWorkload) (reporterFactory : Bool) : RuntimeM Json :=
  if !isUpStatus workload.status then throw .workloadNotRunning
  else
    match workload.commandId with
    | none =>
        throw (.invalidCommand
          "managed workload predates recovery command-id labels; redeploy is required before its log follower can be restarted")
    | some commandId =>
        if !reporterFactory then
          throw (.invalidCommand
            "restart_log_follower requires a connected control plane reporter")
        else do
          let started ← ContainerEngine.startLogFollower workload.containerId
          return Json.ofEntries [("action", .string "restart_log_follower"),
            ("started", .bool started), ("command_id", commandId.toJson)]

/-- The states a candidate that failed can be in. -/
def isFailedCandidate (status : Text) : Bool :=
  let status := Text.lowerAscii status
  Text.startsWith status "created".toList || Text.startsWith status "exited".toList ||
    Text.startsWith status "dead".toList

def cleanupFailedCandidate (workload : ManagedWorkload) : RuntimeM Json :=
  if !isFailedCandidate workload.status then
    throw (.invalidCommand
      "cleanup_failed_candidate requires a Created, Exited, or Dead workload")
  else do
    ContainerEngine.remove workload
    return Json.ofEntries [("action", .string "cleanup_failed_candidate"),
      ("container_id", textJson workload.containerId)]

def restoreRoute (executor : DockerRuntimeExecutor) (workload : ManagedWorkload) :
    RuntimeM Json :=
  if !isUpStatus workload.status then throw .workloadNotRunning
  else do
    executor.activateWorkload workload
    return Json.ofEntries [("action", .string "restore_route")]

/-- One action of a reconciliation, and what is reported of it. -/
def applyAction (executor : DockerRuntimeExecutor) (request : ReconcileWorkloadRequest)
    (found : Option ManagedWorkload) (action : ReconcileWorkloadAction) : RuntimeM Json := do
  let isCancelled : Bool ← Fallible.perform (I := Runtime) .isCancelled
  if isCancelled then throw .cancelled
  else
    match found, action with
    | none, _ => throw .workloadNotFound
    | some workload, .restartLogFollower => restartLogFollower workload request.reporterFactory
    | some workload, .cleanupFailedCandidate => cleanupFailedCandidate workload
    | some workload, .restoreRoute => executor.restoreRoute workload

def applyActions (executor : DockerRuntimeExecutor) (request : ReconcileWorkloadRequest)
    (found : Option ManagedWorkload) : List ReconcileWorkloadAction → RuntimeM (List Json)
  | [] => return []
  | action :: actions => do
      let applied ← executor.applyAction request found action
      let rest ← executor.applyActions request found actions
      return applied :: rest

def reconcileWorkload (executor : DockerRuntimeExecutor) (request : ReconcileWorkloadRequest) :
    RuntimeM CommandOutput := do
  let isCancelled : Bool ← Fallible.perform (I := Runtime) .isCancelled
  if isCancelled then throw .cancelled
  else do
    let found ← ContainerEngine.workload request.projectId request.deploymentId
    let actual := actualState found
    let desired := desiredState request.desiredState
    let applied ← executor.applyActions request found request.actions
    return {
      result := Json.ofEntries [("desired_state", .string desired), ("actual_state", .string actual),
        ("in_sync", .bool (desired = actual)),
        ("drift_reason", if desired = actual then .null else .string "workload_state_mismatch"),
        ("container_id", (found.map fun workload => textJson workload.containerId).getD .null),
        ("actions_applied", .array applied)] }

/-! ### Cleanup -/

/-- The routes of the workloads that are up. -/
def routableRoutes (report : RuntimeReconciliationReport) : List RouteIdentity :=
  (report.workloads.filter fun workload => isUpStatus workload.status).map fun workload =>
    { projectId := workload.projectId, deploymentId := some workload.deploymentId }

/-- What a cleanup has done so far. -/
structure CleanupTotals where
  cleanedWorkspaces : Nat := 0
  reclaimedImageBytes : Nat := 0
  cleanedRoutes : Nat := 0

/-- The routes without a workload that is up are taken away. -/
def cleanupRoutes (executor : DockerRuntimeExecutor) : RuntimeM Nat := do
  let discovered ← ContainerEngine.detectOrphans
  executor.routes.cleanupStaleRoutes (routableRoutes discovered)

def cleanupTarget (executor : DockerRuntimeExecutor) (totals : CleanupTotals)
    (target : RuntimeCleanupTarget) : RuntimeM CleanupTotals := do
  let isCancelled : Bool ← Fallible.perform (I := Runtime) .isCancelled
  if isCancelled then throw .cancelled
  else
    match target with
    | .staleWorkspaces => do
        let cleaned ← WorkspaceManager.cleanupStale executor.workspaceGcMaxAge
        return { totals with cleanedWorkspaces := totals.cleanedWorkspaces + cleaned }
    | .staleImages => do
        let reclaimed ← executor.containers.cleanupStaleImages executor.imageGcMaxAge
        return { totals with reclaimedImageBytes := totals.reclaimedImageBytes + reclaimed }
    | .staleRoutes => do
        let cleaned ← executor.cleanupRoutes
        return { totals with cleanedRoutes := totals.cleanedRoutes + cleaned }

def cleanupTargets (executor : DockerRuntimeExecutor) (totals : CleanupTotals) :
    List RuntimeCleanupTarget → RuntimeM CleanupTotals
  | [] => return totals
  | target :: targets => do
      let totals ← executor.cleanupTarget totals target
      executor.cleanupTargets totals targets

def cleanupRuntime (executor : DockerRuntimeExecutor) (request : CleanupRuntimeRequest) :
    RuntimeM CommandOutput :=
  if !request.approved then
    throw (.invalidCommand "runtime cleanup requires explicit approval")
  else do
    let totals ← executor.cleanupTargets {} request.targets
    return {
      result := Json.ofEntries [("approved", .bool true),
        ("cleaned_workspaces", numberJson totals.cleanedWorkspaces),
        ("cleaned_routes", numberJson totals.cleanedRoutes),
        ("reclaimed_image_bytes", numberJson totals.reclaimedImageBytes)] }

end DockerRuntimeExecutor

end SakalaAgent
