/-
Module: SakalaAgent.Runtime.Telemetry
Layer: Runtime
Purpose: What the runtime tells of its node in a heartbeat: whether Docker, the proxy, the network and
  the directory of the workspaces are usable, and how full its disk is.
Trusted boundary: the probes have been run, each with its deadline; each result is the one of its own
  command. The versions of the dependencies, the load and the memory are left out.
Main exports: HostProbes, HostProbes.diskResources, HostProbes.snapshot
-/
import SakalaAgent.Core.Heartbeat.Worker
import SakalaAgent.Runtime.Executor

namespace SakalaAgent

/-- What a process printed, if it ran and its exit status is zero. -/
def ProcessResult.printed (result : ProcessResult) : Option Text :=
  if result.success then some (captured (result.streamLines .stdout)) else none

def commandReady (result : ProcessResult) (expectedStdout : Option Text) : Bool :=
  match result.printed, expectedStdout with
  | none, _ => false
  | some _, none => true
  | some output, some expected => Text.trim output = expected

/-- A file could be made among the workspaces, and taken away again. -/
def workspaceWritable (created removed : Except IoError Unit) : Bool :=
  created.isOk && removed.isOk

/-- The number of bytes in a column that counts blocks of 1024, if it fits. -/
def blockBytes (fields : List Text) (index : Nat) : Option UInt64 :=
  match fields[index]?.bind (Text.parseNat (2 ^ 64)) with
  | some blocks => if blocks * 1024 < 2 ^ 64 then some (UInt64.ofNat (blocks * 1024)) else none
  | none => none

/-- The results of the probes behind one snapshot: of `docker info`, of the inspection of the proxy and
of that of the network, of the file made for a probe, of `df -Pk` and of `du -sk` on the workspaces. -/
structure HostProbes where
  hostname : Option String
  docker : ProcessResult
  caddy : ProcessResult
  network : ProcessResult
  probeCreated : Except IoError Unit
  probeRemoved : Except IoError Unit
  df : ProcessResult
  du : ProcessResult

namespace HostProbes

def liveRuntimeOperational (probes : HostProbes) : Bool :=
  commandReady probes.docker none && commandReady probes.caddy (some "true".toList) &&
    commandReady probes.network none && workspaceWritable probes.probeCreated probes.probeRemoved

/-- The columns of the second line of `df` that is not blank. -/
def diskFields (probes : HostProbes) : List Text :=
  match probes.df.printed.bind fun output => (contentLines output)[1]? with
  | some line => Text.words line
  | none => []

/-- The total, the available and the used bytes of the workspaces. -/
def diskResources (probes : HostProbes) : Option UInt64 × Option UInt64 × Option UInt64 :=
  (blockBytes probes.diskFields 1, blockBytes probes.diskFields 3,
    probes.du.printed.bind fun output => blockBytes (Text.words output) 0)

def snapshot (probes : HostProbes) : NodeTelemetry where
  hostname := probes.hostname
  diskTotalBytes := probes.diskResources.1
  diskAvailableBytes := probes.diskResources.2.1
  workspaceUsedBytes := probes.diskResources.2.2
  runtimeOperational := some probes.liveRuntimeOperational

end HostProbes

/-- `node_telemetry` of the executor. -/
def HostProbes.nodeTelemetry (probes : HostProbes) : Except RuntimeExecutionError NodeTelemetry :=
  .ok probes.snapshot

/-- The heartbeat and the executor are configured with the same minimum. -/
def DockerRuntimeExecutor.heartbeatContext (executor : DockerRuntimeExecutor)
    (lifecycle : NodeLifecycleState) : HeartbeatRuntimeContext where
  lifecycle
  minimumWorkspaceFreeBytes := executor.minWorkspaceFreeBytes

end SakalaAgent
