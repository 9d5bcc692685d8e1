/-
Module: SakalaAgent.Runtime.Containers
Layer: Runtime
Purpose: The container engine: capacity, discovery of managed containers, their lifecycle, and the
  cleanup around a deployment.
Trusted boundary: the reclaimed bytes of an image prune, which are read as a floating-point number,
  are a parameter.
Main exports: ContainerEngine, imageName, containerName, ContainerEngine.ensureCapacity,
  ContainerEngine.detectOrphans, ContainerEngine.capacity, ContainerEngine.healthSnapshot,
  ContainerEngine.workload, ContainerEngine.start,
  ContainerEngine.cleanupCandidate
-/
import SakalaAgent.Runtime.Process

namespace SakalaAgent

open Async

/-! ### Names -/

/-- The tag of the image of a deployment. -/
def imageName (projectId deploymentId : Uuid) (commitSha : Text) : Text :=
  "sakala/project-".toList ++ projectId.toText ++ ':' :: (commitSha.take 12 ++
    '-' :: deploymentId.toText.take 8)

/-- Names a managed workload so the runtime router can reach it by name. -/
def containerName (projectId deploymentId : Uuid) : Text :=
  "sakala-app-".toList ++ (projectId.toText.take 8 ++ '-' :: deploymentId.toText)

def natText (value : Nat) : Text :=
  (toString value).toList

def managedLabel : LabelFilter := ("dev.sakala.managed".toList, "true".toList)

def projectIdLabel : Text := "dev.sakala.project-id".toList

def deploymentIdLabel : Text := "dev.sakala.deployment-id".toList

def domainLabel : Text := "dev.sakala.domain".toList

def portLabel : Text := "dev.sakala.port".toList

def commandIdLabel : Text := "dev.sakala.command-id".toList

def logMaxLineLabel : Text := "dev.sakala.log-max-line-length".toList

def logMaxBatchLabel : Text := "dev.sakala.log-max-batch-lines".toList

def logMaxTotalLabel : Text := "dev.sakala.log-max-total-bytes".toList

/-! ### Requests and reports -/

structure RunContainerRequest where
  commandId : Uuid
  projectId : Uuid
  deploymentId : Uuid
  name : Text
  image : Text
  workspace : Text
  environment : List (String × String)
  resources : AppliedRuntimeResources
  domain : String
  port : UInt16
  logBounds : LogBounds

/-- A managed container as the lifecycle commands see it. -/
structure ManagedWorkload where
  containerId : Text
  status : Text
  projectId : Uuid
  deploymentId : Uuid
  domain : Text
  port : UInt16
  commandId : Option Uuid
  logBounds : LogBounds
deriving DecidableEq

structure RuntimeOrphan where
  containerId : Text
  projectId : Option Uuid
  reason : String
deriving DecidableEq

structure RuntimeReconciliationReport where
  inspectedContainers : Nat := 0
  workloads : List RuntimeWorkload := []
  orphans : List RuntimeOrphan := []

structure ContainerEngine where
  runtimeNetwork : Text
  maxActiveContainers : UInt32
  agentId : Text
  parseReclaimedBytes : Text → Option Nat

/-! ### Reading listings -/

/-- The lines that are not blank. -/
def contentLines (output : Text) : List Text :=
  (Text.lines output).filter fun line => !Text.isBlank line

/-- A column of a line, if the line has so many. -/
def field (fields : List Text) (index : Nat) : Option Text :=
  fields[index]?

/-- The projects of the containers that run, one entry a container. -/
def activeProjects (output : Text) : List Text :=
  ((Text.lines output).map Text.trim).filter fun value => !value.isEmpty

/-- A replacement takes the place of a container that runs already. -/
def admits (maximum : Nat) (output : Text) (projectId : Uuid) : Bool :=
  (activeProjects output).contains projectId.toText || (activeProjects output).length < maximum

/-- What the listing of the managed containers tells of each. -/
def inspectColumns : List PsColumn :=
  [.id, .status, .label projectIdLabel, .label deploymentIdLabel]

/-- The reason why a managed container is not a workload, if there is one. -/
def orphanReason (status : Text) (projectId deploymentId : Option Uuid) : Option String :=
  if projectId.isNone then some "managed container has an unknown project identity"
  else if deploymentId.isNone then
    some "managed container has incomplete deployment identity labels"
  else if Text.startsWith status "Created".toList then
    some "dangling candidate container was never started"
  else if Text.startsWith status "Exited".toList ∨ Text.startsWith status "Dead".toList then
    some "stale stopped deployment container"
  else none

/-- One line of the listing of managed containers. -/
def inspectLine (report : RuntimeReconciliationReport) (line : Text) :
    RuntimeReconciliationReport :=
  let fields := Text.splitOn '\t' line
  let containerId := (field fields 0).getD []
  let status := (field fields 1).getD []
  let projectId := (field fields 2).bind Uuid.parseText
  let deploymentId := (field fields 3).bind Uuid.parseText
  let report := { report with inspectedContainers := report.inspectedContainers + 1 }
  match orphanReason status projectId deploymentId, projectId, deploymentId with
  | some reason, _, _ =>
      { report with orphans := report.orphans ++ [{ containerId, projectId, reason }] }
  | none, some projectId, some deploymentId =>
      { report with
        workloads := report.workloads ++ [{ containerId, projectId, deploymentId, status }] }
  | none, _, _ => report

def reconciliationReport (output : Text) : RuntimeReconciliationReport :=
  (contentLines output).foldl inspectLine {}

/-- A workload in a line of the listing, if the line names its project and its deployment. -/
def healthLine (line : Text) : Option RuntimeWorkload :=
  let fields := Text.splitOn '\t' line
  match (field fields 2).bind Uuid.parseText, (field fields 3).bind Uuid.parseText with
  | some projectId, some deploymentId => some {
      containerId := (field fields 0).getD []
      projectId
      deploymentId
      status := (field fields 1).getD [] }
  | _, _ => none

/-- Whether a status is that of a workload that is ready, and the reason if it is not. -/
def healthState (status : Text) : Bool × Option String :=
  let normalized := Text.lowerAscii status
  if Text.contains normalized "unhealthy".toList then
    (false, some "Docker health status is unhealthy")
  else if Text.contains normalized "health: starting".toList then
    (false, some "Docker health check is still starting")
  else if Text.startsWith normalized "up".toList then (true, none)
  else (false, some s!"container is not running: {String.ofList status}")

def snapshotOf (workload : RuntimeWorkload) : RuntimeHealthSnapshot where
  workload := workload
  ready := (healthState workload.status).1
  reason := (healthState workload.status).2

def healthSnapshots (output : Text) : List RuntimeHealthSnapshot :=
  ((contentLines output).filterMap healthLine).map snapshotOf

/-- The capacity a report of the managed containers tells of. -/
def capacityOf (maximum : Nat) (report : RuntimeReconciliationReport) : RuntimeCapacity where
  activeWorkloads := some report.workloads.length
  stoppedWorkloads := some (report.orphans.countP fun orphan =>
    orphan.reason = "stale stopped deployment container")
  maximumActiveWorkloads := some maximum

/-- An optional number in a label. -/
def parseOptionalLabel (value : Option Text) : Option UInt64 :=
  value.bind fun value =>
    if value.isEmpty then none else (Text.parseNat (2 ^ 64) value).map UInt64.ofNat

/-- The containers of one deployment. -/
def workloadFilters (projectId deploymentId : Uuid) : List LabelFilter :=
  [managedLabel, (projectIdLabel, projectId.toText), (deploymentIdLabel, deploymentId.toText)]

def workloadColumns : List PsColumn :=
  [.id, .status, .label domainLabel, .label portLabel, .label commandIdLabel,
    .label logMaxLineLabel, .label logMaxBatchLabel, .label logMaxTotalLabel]

/-- The workload in the listing of the containers of one deployment. -/
def parseWorkload (output : Text) (projectId deploymentId : Uuid) :
    Except RuntimeError (Option ManagedWorkload) :=
  match (contentLines output).head? with
  | none => .ok none
  | some line =>
      let fields := Text.splitOn '\t' line
      match (field fields 2).filter fun domain => !domain.isEmpty with
      | none => .error (.container "managed workload is missing its domain label")
      | some domain =>
          match ((field fields 3).bind (Text.parseNat (2 ^ 16))).filter fun port => 0 < port with
          | none => .error (.container "managed workload has an invalid port label")
          | some port =>
              .ok (some
                { containerId := (field fields 0).getD []
                  status := (field fields 1).getD []
                  projectId
                  deploymentId
                  domain
                  port := UInt16.ofNat port
                  commandId := (field fields 4).bind Uuid.parseText
                  logBounds :=
                    { maxLineLength := parseOptionalLabel (field fields 5)
                      maxBatchLines := parseOptionalLabel (field fields 6)
                      maxTotalBytes := parseOptionalLabel (field fields 7) } })

/-! ### Resources of a container -/

/-- Thousandths of a processor as `docker run --cpus` takes them. -/
def dockerCpuValue (cpuMillis : UInt32) : Text :=
  let whole := cpuMillis.toNat / 1000
  let remainder := cpuMillis.toNat % 1000
  if remainder = 0 then natText whole
  else
    let digits := natText remainder
    let padded := List.replicate (3 - digits.length) '0' ++ digits
    natText whole ++ '.' :: (padded.reverse.dropWhile fun digit => digit = '0').reverse

/-- Set a variable that is not there, in the place the order of the names gives it. -/
def insertVariable (key value : String) : List (String × String) → List (String × String)
  | [] => [(key, value)]
  | (other, old) :: rest =>
      if key = other then (other, old) :: rest
      else if key < other then (key, value) :: (other, old) :: rest
      else (other, old) :: insertVariable key value rest

/-- The environment with the port the route points at. -/
def effectiveEnvironment (environment : List (String × String)) (port : UInt16) :
    List (String × String) :=
  insertVariable "PORT" (toString port) environment

namespace ContainerEngine

/-- A Docker command without ties to its request. -/
def docker (command : DockerCommand) : CommandSpec where
  line := .docker command

/-! ### Discovery -/

def ensureCapacity (engine : ContainerEngine) (projectId : Uuid) : RuntimeM Unit := do
  let output ← runProcess
    (docker (.ps false false [managedLabel] [.label projectIdLabel])) .null
  if !output.success then
    throw (.container
      s!"docker capacity inspection exited with status {RuntimeError.statusText output.code}")
  else if admits engine.maxActiveContainers.toNat output.stdout projectId then return ()
  else
    throw (.capacity
      s!"node already runs {(activeProjects output.stdout).length} managed containers; configured maximum is {engine.maxActiveContainers}")

def detectOrphans : RuntimeM RuntimeReconciliationReport := do
  let output ← runProcess (docker (.ps true false [managedLabel] inspectColumns)) .null
  if output.success then return reconciliationReport output.stdout
  else
    throw (.container
      s!"docker orphan inspection exited with status {RuntimeError.statusText output.code}")

def capacity (engine : ContainerEngine) : RuntimeM RuntimeCapacity := do
  let report ← detectOrphans
  return capacityOf engine.maxActiveContainers.toNat report

/-- `docker ps` leaves the stopped workloads out. -/
def healthSnapshot : RuntimeM (List RuntimeHealthSnapshot) := do
  let output ← runProcess (docker (.ps false false [managedLabel] inspectColumns)) .null
  if output.success then return healthSnapshots output.stdout
  else
    throw (.container
      s!"docker health inspection exited with status {RuntimeError.statusText output.code}")

def workload (projectId deploymentId : Uuid) : RuntimeM (Option ManagedWorkload) := do
  let output ← runProcess
    (docker (.ps true false (workloadFilters projectId deploymentId) workloadColumns)) .null
  if output.success then .ofExcept (parseWorkload output.stdout projectId deploymentId)
  else
    throw (.container
      s!"docker workload lookup exited with status {RuntimeError.statusText output.code}")

/-! ### Lifecycle of one container -/

def runContainerCommand (command : DockerCommand) (phase : String) : RuntimeM Unit := do
  let output ← runProcess (docker command) .null
  if output.success then return ()
  else throw (RuntimeError.failedProcess phase output.code output.stderr)

def restart (workload : ManagedWorkload) (graceSeconds : Nat) : RuntimeM Unit :=
  runContainerCommand (.restart graceSeconds workload.containerId) "docker-restart"

def stop (workload : ManagedWorkload) (graceSeconds : Nat) : RuntimeM Unit :=
  if isUpStatus workload.status then
    runContainerCommand (.stop graceSeconds workload.containerId) "docker-stop"
  else return ()

def startExisting (workload : ManagedWorkload) : RuntimeM Unit :=
  if isUpStatus workload.status then return ()
  else runContainerCommand (.start workload.containerId) "docker-start"

def remove (workload : ManagedWorkload) : RuntimeM Unit :=
  runContainerCommand (.rm false workload.containerId) "docker-remove"

/-! ### Starting a candidate -/

/-- The environment file in a workspace. -/
def envFile (workspace : Text) : FilePath :=
  FilePath.within workspace "runtime.env".toList

/-- Whether there is an environment file. -/
def writeEnvFile (workspace : Text) (environment : List (String × String)) : RuntimeM Bool :=
  if environment.isEmpty then return false
  else do
    fileOp (.createNew (envFile workspace))
    forM environment fun entry =>
      fileOp (.append (envFile workspace) s!"{entry.1}={entry.2}\n".toList)
    return true

/-- The labels of the bounds that are set. -/
def logBoundLabels (bounds : LogBounds) : List (Text × Text) :=
  [(logMaxLineLabel, bounds.maxLineLength), (logMaxBatchLabel, bounds.maxBatchLines),
    (logMaxTotalLabel, bounds.maxTotalBytes)].filterMap fun entry =>
      entry.2.map fun value => (entry.1, natText value.toNat)

def runLabels (engine : ContainerEngine) (request : RunContainerRequest) : List (Text × Text) :=
  [managedLabel, (projectIdLabel, request.projectId.toText),
    (deploymentIdLabel, request.deploymentId.toText), (domainLabel, request.domain.toList),
    (portLabel, natText request.port.toNat), (commandIdLabel, request.commandId.toText),
    ("dev.sakala.workload-kind".toList, "web".toList),
    ("dev.sakala.agent-id".toList, engine.agentId)] ++ logBoundLabels request.logBounds

def runOptions (engine : ContainerEngine) (request : RunContainerRequest) (hasEnvFile : Bool) :
    RunOptions where
  name := request.name
  network := engine.runtimeNetwork
  memoryMb := request.resources.memoryMb
  cpus := dockerCpuValue request.resources.cpuMillis
  pidsLimit := request.resources.pidsLimit
  labels := engine.runLabels request
  envFile := hasEnvFile
  image := request.image

def start (engine : ContainerEngine) (request : RunContainerRequest) : RuntimeM Unit := do
  let environment := effectiveEnvironment request.environment request.port
  let hasEnvFile ← writeEnvFile request.workspace environment
  let result : Except RuntimeError ProcessOutput ← Fallible.attempt
    (runChecked (docker (.run (engine.runOptions request hasEnvFile))) "docker-run")
  if hasEnvFile then do
    let removed : Except IoError Unit ← tryFileOp (.removeFile (envFile request.workspace))
    match result with
    | .error error => throw error
    | .ok _ => .ofExcept (removed.mapError RuntimeError.filesystem)
  else .ofExcept (result.map fun _ => ())

def reportStartupLogs (container : Text) : RuntimeM Unit := do
  let _ ← runChecked (docker (.logs false 100 container)) "runtime"
  return ()

def startLogFollower (reference : Text) : RuntimeM Bool :=
  Fallible.perform (I := Runtime) (.startLogFollower reference)

/-! ### Cleanup -/

/-- One container of a project that is not the current one is stopped and removed. -/
def cleanupPreviousContainer (current containerId : Text) : RuntimeM Unit := do
  let inspected ← runProcess
    (docker (.inspect "\x7b\x7b.State.Running\x7d\x7d\t\x7b\x7b.Name\x7d\x7d" containerId)) .null
  if !inspected.success then
    throw (.container
      s!"docker-inspect-previous exited with status {RuntimeError.statusText inspected.code}")
  else
    let fields := Text.splitOn '\t' (Text.trim inspected.stdout)
    let isRunning := field fields 0 = some "true".toList
    let name := ((field fields 1).getD []).dropWhile fun character => character = '/'
    if name = current then return ()
    else do
      onlyIf isRunning do
        let _ ← runChecked (docker (.stop 10 containerId)) "docker-stop-previous"
        return ()
      let _ ← runChecked (docker (.rm false containerId)) "docker-remove-previous"
      return ()

def cleanupPrevious (projectId : Uuid) (current : Text) : RuntimeM Unit := do
  let output ← runProcess
    (docker (.ps true true [(projectIdLabel, projectId.toText), managedLabel] [])) .null
  if !output.success then
    throw (.container
      s!"docker-list-previous exited with status {RuntimeError.statusText output.code}")
  else
    forM (contentLines output.stdout) (cleanupPreviousContainer current)

/-- How the removal of one artifact failed, if it did. -/
def cleanupArtifact (artifact : String) (command : DockerCommand) : RuntimeM (Option String) := do
  let outcome : Except RuntimeError ProcessOutput ←
    Fallible.attempt (runProcess (docker command) .null)
  match outcome with
  | .ok output =>
      return if output.success then none
        else some s!"{artifact} exited with status {RuntimeError.statusText output.code}"
  | .error error => return some s!"{artifact}: {error.message}"

/-- Both artifacts are tried before an error is returned. -/
def cleanupCandidate (container image : Text) : RuntimeM Unit := do
  let first ← cleanupArtifact "candidate container" (.rm true container)
  let second ← cleanupArtifact "candidate image" (.imageRemove image)
  match first.toList ++ second.toList with
  | [] => return ()
  | failures => throw (.container ("candidate cleanup incomplete: " ++ "; ".intercalate failures))

def cleanupStaleImages (engine : ContainerEngine) (maxAgeSeconds : Nat) : RuntimeM Nat := do
  let output ← runProcess (docker (.imagePrune [managedLabel] maxAgeSeconds)) .null
  if output.success then return (engine.parseReclaimedBytes output.stdout).getD 0
  else
    throw (.container
      s!"Sakala image GC exited with status {RuntimeError.statusText output.code}")

end ContainerEngine

end SakalaAgent
