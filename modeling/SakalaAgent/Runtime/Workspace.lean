/-
Module: SakalaAgent.Runtime.Workspace
Layer: Runtime
Purpose: What a deployment does before and around its container: the checkout of the repository into
  a workspace of its own, the build of the image, and the wait for the container to become ready.
Trusted boundary: as for files and processes; the way a text is printed for debugging is a parameter.
Main exports: WorkspaceManager, RepositorySource, ImageBuildService, HealthChecker
-/
import SakalaAgent.Runtime.Containers

namespace SakalaAgent

open Async

/-! ### Workspaces -/

structure RepositorySource where
  repositoryUrl : String
  commitSha : String
  credential : Option RepositoryCredential
deriving DecidableEq

/-- The workspace of a command, by the name of its directory. -/
structure DeploymentWorkspace where
  name : Text
deriving DecidableEq

namespace DeploymentWorkspace

def root (workspace : DeploymentWorkspace) : FilePath :=
  .workspace workspace.name

/-- A file of the checked-out source. -/
def sourceFile (workspace : DeploymentWorkspace) (relative : String) : FilePath :=
  .within workspace.name ("source/".toList ++ relative.toList)

end DeploymentWorkspace

/-- The workspaces, by the path of the directory they are in. -/
structure WorkspaceManager where
  root : Text

def askpassScript : Text :=
  "#!/bin/sh\ncase \"$1\" in\n  *Username*) printf '%s\\n' \"$SAKALA_GIT_ASKPASS_USERNAME\" ;;\n  *) printf '%s\\n' \"$SAKALA_GIT_ASKPASS_TOKEN\" ;;\nesac\n".toList

/-- Free bytes as `df -Pk` reports them: the fourth column of the last line, in blocks of 1024. -/
def parseAvailableDiskBytes (output : Text) : Except RuntimeError UInt64 :=
  match (contentLines output).getLast? with
  | none => .error (.dependency "workspace disk inspection returned no data")
  | some line =>
      match (Text.words line)[3]? with
      | none => .error (.dependency "workspace disk inspection format is invalid")
      | some blocks =>
          match Text.parseNat (2 ^ 64) blocks with
          | none => .error (.dependency "workspace disk availability is invalid")
          | some blocks =>
              if blocks * 1024 < 2 ^ 64 then .ok (UInt64.ofNat (blocks * 1024))
              else
                .error (.dependency "workspace disk availability is too large to represent")

namespace WorkspaceManager

/-- The path of what lies in a workspace, as it is given to other programs. -/
def path (manager : WorkspaceManager) (workspace : DeploymentWorkspace) (relative : String) : Text :=
  manager.root ++ ('/' :: (workspace.name ++ ('/' :: relative.toList)))

/-- The path of a workspace as it is printed. -/
def rootPath (manager : WorkspaceManager) (workspace : DeploymentWorkspace) : String :=
  String.ofList (manager.root ++ '/' :: workspace.name)

/-- A git command is ended by the cancellation of its request. -/
def git (arguments : List Text) : CommandSpec where
  line := .git arguments
  cancellable := true

/-- A git command in the source of a workspace. -/
def gitIn (manager : WorkspaceManager) (workspace : DeploymentWorkspace) (arguments : List Text) :
    CommandSpec :=
  git ("-C".toList :: manager.path workspace "source" :: arguments)

def askpassFile (workspace : DeploymentWorkspace) : FilePath :=
  .within workspace.name ".sakala-git-askpass".toList

def writeAskpass (workspace : DeploymentWorkspace) : RuntimeM Unit := do
  fileOp (.write (askpassFile workspace) { text := askpassScript })
  fileOp (.setPermissions (askpassFile workspace) 0o700)

/-- The credential goes to git through a script that reads it from the environment. -/
def fetchCommand (manager : WorkspaceManager) (workspace : DeploymentWorkspace)
    (source : RepositorySource) : CommandSpec :=
  let fetch := manager.gitIn workspace
    ["fetch".toList, "--depth=1".toList, "origin".toList, source.commitSha.toList]
  match source.credential with
  | none => fetch
  | some credential =>
      { fetch with
        environment :=
          [("GIT_TERMINAL_PROMPT", "0"),
            ("GIT_ASKPASS", String.ofList (manager.path workspace ".sakala-git-askpass")),
            ("SAKALA_GIT_ASKPASS_USERNAME", credential.username)]
        secretEnvironment := [("SAKALA_GIT_ASKPASS_TOKEN", credential.token)] }

/-- The git commands of a checkout, each with the name of its phase. -/
def checkoutCommands (manager : WorkspaceManager) (workspace : DeploymentWorkspace)
    (source : RepositorySource) : List (String × CommandSpec) :=
  [("git-init",
      git ["init".toList, "--initial-branch=sakala".toList, manager.path workspace "source"]),
    ("git-remote",
      manager.gitIn workspace
        ["remote".toList, "add".toList, "origin".toList, source.repositoryUrl.toList]),
    ("git-fetch", manager.fetchCommand workspace source),
    ("git-checkout",
      manager.gitIn workspace ["checkout".toList, "--detach".toList, "FETCH_HEAD".toList])]

def runCheckout (manager : WorkspaceManager) (workspace : DeploymentWorkspace)
    (source : RepositorySource) : RuntimeM Unit :=
  forM (manager.checkoutCommands workspace source) fun entry => do
    let _ ← runChecked entry.2 entry.1
    return ()

def cleanup (workspace : DeploymentWorkspace) : RuntimeM Unit := do
  let removed : Except IoError Unit ← tryFileOp (.removeDirAll workspace.root)
  match removed with
  | .ok _ => return ()
  | .error error => if error.notFound then return () else throw (.filesystem error)

/-- A checkout that fails leaves no workspace behind, as far as that can be done. -/
def abandonCheckout (workspace : DeploymentWorkspace) (error : RuntimeError) :
    RuntimeM DeploymentWorkspace := do
  let _ ← Fallible.attempt (ε := RuntimeError) (cleanup workspace)
  throw error

/-- The script is taken away again. -/
def removeAskpass (workspace : DeploymentWorkspace) (credential : Option RepositoryCredential) :
    RuntimeM (Except IoError Unit) :=
  match credential with
  | none => return .ok ()
  | some _ => tryFileOp (.removeFile (askpassFile workspace))

def prepareWorkspace (workspace : DeploymentWorkspace) (credential : Option RepositoryCredential) :
    RuntimeM Unit := do
  let found : Bool ← fileOp (.tryExists workspace.root)
  onlyIf found (fileOp (.removeDirAll workspace.root))
  fileOp (.createDirAll workspace.root)
  fileOp (.setPermissions workspace.root 0o700)
  onlyIf credential.isSome (writeAskpass workspace)

def checkout (manager : WorkspaceManager) (commandId : Uuid) (source : RepositorySource) :
    RuntimeM DeploymentWorkspace := do
  let workspace : DeploymentWorkspace := { name := commandId.toText }
  prepareWorkspace workspace source.credential
  let checkedOut : Except RuntimeError Unit ←
    Fallible.attempt (manager.runCheckout workspace source)
  let askpassCleanup ← removeAskpass workspace source.credential
  match checkedOut, askpassCleanup with
  | .error error, _ => abandonCheckout workspace error
  | .ok _, .error error => abandonCheckout workspace (.filesystem error)
  | .ok _, .ok _ => return workspace

/-- One entry of the directory of the workspaces: whether it was stale and is gone. -/
def cleanupEntry (minimumAge : Nat) (name : Text) (kind : FileKind) : RuntimeM Nat :=
  match kind, Uuid.parseText name with
  | .directory, some _ => do
      let age : Nat ← fileOp (.age (.workspace name))
      if age < minimumAge then return 0
      else do
        fileOp (.removeDirAll (.workspace name))
        return 1
  | _, _ => return 0

def cleanupEntries (minimumAge : Nat) : List (Text × FileKind) → RuntimeM Nat
  | [] => return 0
  | (name, kind) :: entries => do
      let gone ← cleanupEntry minimumAge name kind
      let cleaned ← cleanupEntries minimumAge entries
      return cleaned + gone

def cleanupStale (minimumAge : Nat) : RuntimeM Nat := do
  let entries : Except IoError (List (Text × FileKind)) ← tryFileOp (.readDir .builds)
  match entries with
  | .ok entries => cleanupEntries minimumAge entries
  | .error error => if error.notFound then return 0 else throw (.filesystem error)

def availableDiskBytes (manager : WorkspaceManager) : RuntimeM UInt64 := do
  let output ← runProcess { line := .df ["-Pk".toList, manager.root] } .null
  if output.success then .ofExcept (parseAvailableDiskBytes output.stdout)
  else
    throw (.dependency
      s!"workspace disk inspection exited with status {RuntimeError.statusText output.code}")

end WorkspaceManager

/-! ### Building the image -/

structure BuildRequest where
  projectId : Uuid
  deploymentId : Uuid
  workspace : DeploymentWorkspace
  image : Text
  requested : DeploymentBuilder

structure ImageBuildService where
  workspaces : WorkspaceManager
  railpackFrontend : String

namespace ImageBuildService

/-- The labels of an image. -/
def imageLabels (request : BuildRequest) : List (Text × Text) :=
  [managedLabel, (projectIdLabel, request.projectId.toText),
    (deploymentIdLabel, request.deploymentId.toText)]

def dockerfileBuild (service : ImageBuildService) (request : BuildRequest) : CommandSpec :=
  ContainerEngine.docker (.buildx []
    (service.workspaces.path request.workspace "source/Dockerfile")
    (service.workspaces.path request.workspace "source") request.image (imageLabels request))

def railpackPrepare (service : ImageBuildService) (request : BuildRequest) : CommandSpec where
  line := .railpack
    ["prepare".toList, service.workspaces.path request.workspace "source",
      "--plan-out".toList, service.workspaces.path request.workspace "railpack-plan.json",
      "--info-out".toList, service.workspaces.path request.workspace "railpack-info.json"]

def railpackBuild (service : ImageBuildService) (request : BuildRequest) : CommandSpec :=
  ContainerEngine.docker (.buildx
    ["BUILDKIT_SYNTAX=".toList ++ service.railpackFrontend.toList]
    (service.workspaces.path request.workspace "railpack-plan.json")
    (service.workspaces.path request.workspace "source") request.image (imageLabels request))

/-- The builder a request is built with. -/
def selectBuilder (requested : DeploymentBuilder) (dockerfileFound : Bool) :
    Except RuntimeError DeploymentBuilder :=
  match requested, dockerfileFound with
  | .auto, true => .ok .dockerfile
  | .auto, false => .ok .railpack
  | .dockerfile, false =>
      .error (.invalidCommand
        "Dockerfile builder requested but repository has no root Dockerfile")
  | selected, _ => .ok selected

/-- `build` of the image builder: the builder that was used. -/
def build (service : ImageBuildService) (request : BuildRequest) : RuntimeM DeploymentBuilder := do
  let dockerfileFound : Bool ← fileOp (.tryExists (request.workspace.sourceFile "Dockerfile"))
  let builder ← Fallible.ofExcept (selectBuilder request.requested dockerfileFound)
  match builder with
  | .railpack => do
      let _ ← runChecked (service.railpackPrepare request) "railpack-prepare"
      let _ ← runChecked (service.railpackBuild request) "railpack-build"
      return builder
  | _ => do
      let _ ← runChecked (service.dockerfileBuild request) "docker-build"
      return builder

end ImageBuildService

/-! ### Readiness -/

structure HealthChecker where
  attempts : UInt32
  printDebug : Text → String

namespace HealthChecker

def healthFormat : String :=
  "\x7b\x7bif .State.Health\x7d\x7d\x7b\x7b.State.Health.Status\x7d\x7d\x7b\x7belse if .State.Running\x7d\x7drunning\x7b\x7belse\x7d\x7dstopped\x7b\x7bend\x7d\x7d"

/-- The attempts that are left. -/
def waitAttempts (checker : HealthChecker) (container : Text) : Nat → RuntimeM Unit
  | 0 => throw (.health s!"container {String.ofList container} did not become healthy")
  | remaining + 1 => do
      let output ← runProcess (ContainerEngine.docker (.inspect healthFormat container)) .null
      let status := Text.trim output.stdout
      if output.success && (status = "healthy".toList || status = "running".toList) then return ()
      else if status = "unhealthy".toList || remaining = 0 then
        throw (.health
          s!"container {String.ofList container} failed its basic health check with status {checker.printDebug status}")
      else do
        Fallible.perform (I := Runtime) .sleep
        checker.waitAttempts container remaining

def waitUntilReady (checker : HealthChecker) (container : Text) : RuntimeM Unit :=
  checker.waitAttempts container checker.attempts.toNat

end HealthChecker

end SakalaAgent
