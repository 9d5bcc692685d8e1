/-
Module: SakalaAgent.Runtime.Inspection
Layer: Runtime
Purpose: The inspection of a project: its repository is checked out into a workspace of its own and
  looked at, until the inspection is done or its request is cancelled, and the workspace is removed.
Trusted boundary: the executor is built over any inspector; the one over Railpack reads its JSON with
  a parser that is a parameter.
Main exports: ProjectInspection, ProjectInspector, RailpackProjectInspector,
  DockerRuntimeExecutor.runInspection, RuntimeCommand, DockerRuntimeExecutor.perform
-/
import SakalaAgent.Runtime.Executor

namespace SakalaAgent

open Async

/-- What the control plane learns of a repository, with the raw result of the inspection. -/
structure ProjectInspection where
  repositoryUrl : String
  commitSha : String
  dockerfileFound : Bool
  envExampleFound : Bool
  composeFound : Bool
  manifests : List String
  packageManager : Option String
  railpack : Json

namespace ProjectInspection

def packageManagerJson (inspection : ProjectInspection) : Json :=
  (inspection.packageManager.map Json.string).getD .null

def toJson (inspection : ProjectInspection) : Json :=
  Json.ofEntries [("repository_url", .string inspection.repositoryUrl),
    ("commit_sha", .string inspection.commitSha),
    ("dockerfile_found", .bool inspection.dockerfileFound),
    ("env_example_found", .bool inspection.envExampleFound),
    ("compose_found", .bool inspection.composeFound),
    ("manifests", .array (inspection.manifests.map Json.string)),
    ("package_manager", inspection.packageManagerJson), ("railpack", inspection.railpack)]

end ProjectInspection

/-- What looks at a checked-out repository. -/
structure ProjectInspector where
  inspect : DeploymentWorkspace → RepositorySource → RuntimeM ProjectInspection

def RepositorySource.withoutCredential (source : RepositorySource) : RepositorySource :=
  { source with credential := none }

/-! ### Railpack -/

structure RailpackProjectInspector where
  workspaces : WorkspaceManager
  parseJson : FileContent → Except String Json

def maxRailpackInfoBytes : Nat := 1024 * 1024

/-- `metadata(..).len()` of a file. -/
def FileContent.byteLength (content : FileContent) : Nat :=
  Text.byteLength content.text + content.invalid.length

/-- The files of a repository that are looked for, in this order. -/
def manifestCandidates : List String :=
  [".env.example", "Cargo.toml", "Dockerfile", "README.md", "bun.lock", "bun.lockb",
    "composer.json", "composer.lock", "compose.yaml", "compose.yml", "docker-compose.yaml",
    "docker-compose.yml", "go.mod", "package-lock.json", "package.json", "pnpm-lock.yaml",
    "poetry.lock", "pyproject.toml", "requirements.txt", "uv.lock", "yarn.lock"]

/-- What each lock file tells of the package manager, the first one first. -/
def packageManagers : List (String × String) :=
  [("pnpm-lock.yaml", "pnpm"), ("yarn.lock", "yarn"), ("bun.lock", "bun"), ("bun.lockb", "bun"),
    ("package-lock.json", "npm"), ("composer.lock", "composer"), ("uv.lock", "uv"),
    ("poetry.lock", "poetry"), ("Cargo.toml", "cargo"), ("go.mod", "go")]

def detectPackageManager (manifests : List String) : Option String :=
  (packageManagers.find? fun entry => manifests.contains entry.1).map Prod.snd

def isComposeFile (name : String) : Bool :=
  name = "compose.yml" || name = "compose.yaml" || name = "docker-compose.yml" ||
    name = "docker-compose.yaml"

/-- Those of the candidates that are there. -/
def detectedManifests (workspace : DeploymentWorkspace) : List String → RuntimeM (List String)
  | [] => return []
  | candidate :: candidates => do
      let found : Bool ← fileOp (.tryExists (workspace.sourceFile candidate))
      let manifests ← detectedManifests workspace candidates
      return if found then candidate :: manifests else manifests

namespace RailpackProjectInspector

def infoFile (workspace : DeploymentWorkspace) : FilePath :=
  .within workspace.name "railpack-info.json".toList

def infoCommand (inspector : RailpackProjectInspector) (workspace : DeploymentWorkspace) :
    CommandSpec where
  line := .railpack
    ["info".toList, "--format".toList, "json".toList, "--out".toList,
      inspector.workspaces.path workspace "railpack-info.json",
      inspector.workspaces.path workspace "source"]

/-- What is reported of a repository with these manifests. -/
def inspectionOf (source : RepositorySource) (manifests : List String) (railpack : Json) :
    ProjectInspection where
  repositoryUrl := source.repositoryUrl
  commitSha := source.commitSha
  dockerfileFound := manifests.contains "Dockerfile"
  envExampleFound := manifests.contains ".env.example"
  composeFound := manifests.any isComposeFile
  manifests := manifests
  packageManager := detectPackageManager manifests
  railpack := railpack

/-- `inspect`. The length of the file is asked for first, here by a read of which it is all that is
used. -/
def inspect (inspector : RailpackProjectInspector) (workspace : DeploymentWorkspace)
    (source : RepositorySource) : RuntimeM ProjectInspection := do
  let _ ← runChecked (inspector.infoCommand workspace) "railpack-info"
  let metadata : FileContent ← fileOp (.read (infoFile workspace))
  if maxRailpackInfoBytes < metadata.byteLength then
    throw (.execution s!"Railpack info exceeded the {maxRailpackInfoBytes} byte safety limit")
  else do
    let content : FileContent ← fileOp (.read (infoFile workspace))
    let railpack ← Fallible.ofExcept ((inspector.parseJson content).mapError fun error =>
      RuntimeError.execution s!"invalid Railpack info JSON: {error}")
    let manifests ← detectedManifests workspace manifestCandidates
    return inspectionOf source manifests railpack

def toProjectInspector (inspector : RailpackProjectInspector) : ProjectInspector where
  inspect := inspector.inspect

end RailpackProjectInspector

/-! ### The command -/

/-- An inspection raced with the cancellation of its request. Which of the two is polled first is not
determined, so a cancellation that is already there may be seen before the inspection begins. -/
def inspectUntilCancelled (inspection : RuntimeM ProjectInspection) :
    RuntimeM (Except RuntimeError ProjectInspection) := do
  let isCancelled : Bool ← Fallible.perform (I := Runtime) .isCancelled
  if isCancelled then return .error .cancelled
  else
    Fallible.attempt (ExceptT.mk ((inspection.run.timeout RuntimeAlarm.cancelled).bind fun outcome =>
      .ret (outcome.getD (.error .cancelled))))

namespace DockerRuntimeExecutor

def runInspection (executor : DockerRuntimeExecutor) (inspector : ProjectInspector)
    (request : InspectProjectRequest) : RuntimeM CommandOutput := do
  let source ← Fallible.ofExcept
    (inspectionSource executor.parsers request.payload request.repositoryCredential)
  emitEvent "project.inspection.started" "Checking out repository for project preview."
    (Json.ofEntries [("commit_sha", .string source.commitSha)])
  let workspace ← executor.workspace.checkout request.commandId source
  let result ← inspectUntilCancelled (inspector.inspect workspace source.withoutCredential)
  let cleanup : Except RuntimeError Unit ← Fallible.attempt (WorkspaceManager.cleanup workspace)
  let inspection ← Fallible.ofExcept result
  Fallible.ofExcept cleanup
  emitEvent "project.inspection.completed" "Project stack preview is ready."
    (Json.ofEntries [("dockerfile_found", .bool inspection.dockerfileFound),
      ("package_manager", inspection.packageManagerJson)])
  return { result := inspection.toJson }

end DockerRuntimeExecutor

/-! ### The port of the executor -/

/-- A command as the executor is given it. -/
inductive RuntimeCommand where
  | inspectProject (request : InspectProjectRequest)
  | deployProject (request : DeployProjectRequest)
  | restartProject (request : WorkloadLifecycleRequest)
  | stopProject (request : WorkloadLifecycleRequest)
  | sleepProject (request : WorkloadLifecycleRequest)
  | wakeProject (request : WorkloadLifecycleRequest)
  | healthCheck (request : WorkloadLifecycleRequest)
  | refreshRoute (request : WorkloadLifecycleRequest)
  | reconcileWorkload (request : ReconcileWorkloadRequest)
  | cleanupRuntime (request : CleanupRuntimeRequest)

/-- The future of a command. -/
def DockerRuntimeExecutor.perform (executor : DockerRuntimeExecutor) (inspector : ProjectInspector) :
    RuntimeCommand → RuntimeM CommandOutput
  | .inspectProject request => executor.runInspection inspector request
  | .deployProject request => executor.runDeployment request
  | .restartProject request => executor.runRestart request
  | .stopProject request => executor.runStop request true
  | .sleepProject request => executor.runStop request false
  | .wakeProject request => executor.runWake request
  | .healthCheck request => executor.runHealthCheck request
  | .refreshRoute request => executor.runRefreshRoute request
  | .reconcileWorkload request => executor.reconcileWorkload request
  | .cleanupRuntime request => executor.cleanupRuntime request

end SakalaAgent
