/-
Module: SakalaAgent.Core.Heartbeat.Worker
Layer: Core
Purpose: A heartbeat: what the capacity and the health snapshots of the runtime are counted into, how
  the free space is judged, and the status that follows from all of it.
Trusted boundary: the probes have been waited for, each with its deadline; `none` stands for one
  that failed or was late.
Main exports: WorkloadStatistics, workloadStatistics, DiskPressure, diskPressureState,
  HeartbeatPayload, HeartbeatRuntimeContext.payload
-/
import SakalaAgent.Core.NodeState
import SakalaAgent.Core.Ports

namespace SakalaAgent

/-! ### Workloads -/

structure WorkloadStatistics where
  active : Option Nat := none
  stopped : Option Nat := none
  starting : Option Nat := none
  unhealthy : Option Nat := none
  activeBuilds : Option Nat := none
  maximumConcurrentBuilds : Option Nat := none
  unhealthyDetails : List RuntimeHealthSnapshot := []
  capacityAvailable : Bool := false
  healthAvailable : Bool := false

/-- The status of a workload says something of starting. -/
def mentionsStarting (snapshot : RuntimeHealthSnapshot) : Bool :=
  Text.contains (Text.lowerAscii snapshot.workload.status) "starting".toList

def workloadStatistics (capacity : Option RuntimeCapacity)
    (snapshots : Option (List RuntimeHealthSnapshot)) : WorkloadStatistics :=
  let active := capacity.bind RuntimeCapacity.activeWorkloads
  let stopped := capacity.bind RuntimeCapacity.stoppedWorkloads
  let activeBuilds := capacity.bind RuntimeCapacity.activeBuilds
  let maximumConcurrentBuilds := capacity.bind RuntimeCapacity.maximumConcurrentBuilds
  match snapshots with
  | none =>
      { active, stopped, activeBuilds, maximumConcurrentBuilds
        capacityAvailable := capacity.isSome }
  | some snapshots =>
      let unhealthyDetails := snapshots.filter fun snapshot =>
        !snapshot.ready && !mentionsStarting snapshot
      { active, stopped, activeBuilds, maximumConcurrentBuilds
        starting := some (snapshots.countP mentionsStarting)
        unhealthy := some unhealthyDetails.length
        unhealthyDetails
        capacityAvailable := capacity.isSome
        healthAvailable := true }

/-! ### The payload -/

inductive DiskPressure where
  | critical | normal | unknown
deriving DecidableEq, Repr

def diskPressureState (available : Option UInt64) (minimumFree : UInt64) : DiskPressure :=
  match available with
  | some available => if available < minimumFree then .critical else .normal
  | none => .unknown

structure HeartbeatRuntimeContext where
  lifecycle : NodeLifecycleState
  minimumWorkspaceFreeBytes : UInt64

/-- The part of a heartbeat that tells of the free space. -/
structure DiskPressureReport where
  state : DiskPressure
  minimumWorkspaceFreeBytes : UInt64
  availableWorkspaceBytes : Option UInt64

structure HeartbeatPayload where
  status : NodeStatus
  hostname : String
  resources : NodeTelemetry
  diskPressure : DiskPressureReport
  workloads : WorkloadStatistics

def maxHeartbeatDetailItems : Nat := 50

namespace HeartbeatRuntimeContext

/-- One of the probes an active node depends on has failed, or its disk is nearly full. -/
def isDegraded (context : HeartbeatRuntimeContext)
    (telemetryAvailable : Bool) (resources : NodeTelemetry) (workloads : WorkloadStatistics) : Bool :=
  !telemetryAvailable || resources.runtimeOperational = some false ||
    !workloads.capacityAvailable || !workloads.healthAvailable ||
    diskPressureState resources.diskAvailableBytes context.minimumWorkspaceFreeBytes = .critical

/-- `payload` of the heartbeat, from the answers of the runtime. -/
def payload (context : HeartbeatRuntimeContext)
    (telemetry : Except RuntimeExecutionError NodeTelemetry) (workloads : WorkloadStatistics) :
    HeartbeatPayload :=
  let resources := telemetry.toOption.getD {}
  { status :=
      match context.lifecycle with
      | .active =>
          if context.isDegraded telemetry.isOk resources workloads then .degraded else .ready
      | .draining => .draining
      | .drained => .drained
      | .maintenance => .maintenance
    hostname := resources.hostname.getD "unknown-host"
    resources
    diskPressure := {
      state := diskPressureState resources.diskAvailableBytes context.minimumWorkspaceFreeBytes
      minimumWorkspaceFreeBytes := context.minimumWorkspaceFreeBytes
      availableWorkspaceBytes := resources.diskAvailableBytes }
    workloads := {
      workloads with
      unhealthyDetails := workloads.unhealthyDetails.take maxHeartbeatDetailItems } }

end HeartbeatRuntimeContext

end SakalaAgent
