/-
Module: SakalaAgent.Core.Ports
Layer: Core
Purpose: What the core and a runtime exchange: requests, outputs and errors. A cancellation token is
  not a field of a request here; whoever has the request can ask whether it is cancelled.
Trusted boundary: none
Main exports: RuntimeExecutionError, CommandOutput, DeployProjectRequest, RuntimeWorkload,
  RuntimeHealthSnapshot, RuntimeCapacity, NodeTelemetry
-/
import SakalaAgent.Protocol.Commands
import SakalaAgent.Text.Chars

namespace SakalaAgent

/-- How a command of the runtime failed. -/
structure RuntimeExecutionError where
  code : String
  message : String
deriving DecidableEq, Repr

namespace RuntimeExecutionError

def reporting (message : String) : RuntimeExecutionError :=
  ⟨"runtime_reporting_failed", message⟩

def invalidCommand (message : String) : RuntimeExecutionError :=
  ⟨"invalid_runtime_command", message⟩

def unsupportedCommand (message : String) : RuntimeExecutionError :=
  ⟨"unsupported_runtime_command", message⟩

end RuntimeExecutionError

/-- What a command that succeeded reports. -/
structure CommandOutput where
  result : Json := .null

/-- One-use repository credential leased by the control plane after the claim. -/
structure RepositoryCredential where
  username : String
  token : String
deriving DecidableEq

/-! ### Requests -/

structure InspectProjectRequest where
  commandId : Uuid
  payload : InspectProjectPayload
  repositoryCredential : Option RepositoryCredential

structure DeployProjectRequest where
  commandId : Uuid
  projectId : Uuid
  deploymentId : Uuid
  payload : DeployProjectPayload
  repositoryCredential : Option RepositoryCredential

/-- Lifecycle request identified exclusively by the command record. -/
structure WorkloadLifecycleRequest where
  commandId : Uuid
  projectId : Uuid
  deploymentId : Uuid
deriving DecidableEq

/-- A restarted log follower reports under the command that deployed its workload; the request says
whether reporters of other commands can be had. -/
structure ReconcileWorkloadRequest where
  projectId : Uuid
  deploymentId : Uuid
  desiredState : DesiredWorkloadState
  actions : List ReconcileWorkloadAction
  reporterFactory : Bool
deriving DecidableEq

structure CleanupRuntimeRequest where
  commandId : Uuid
  approved : Bool
  targets : List RuntimeCleanupTarget
deriving DecidableEq

/-! ### Reports of the runtime -/

structure RuntimeWorkload where
  containerId : Text
  projectId : Uuid
  deploymentId : Uuid
  status : Text
deriving DecidableEq

/-- Whether a workload is ready, and the reason if it is not. -/
structure RuntimeHealthSnapshot where
  workload : RuntimeWorkload
  ready : Bool
  reason : Option String
deriving DecidableEq

/-- Capacity of the node; `none` where the runtime cannot tell. -/
structure RuntimeCapacity where
  activeWorkloads : Option Nat := none
  stoppedWorkloads : Option Nat := none
  maximumActiveWorkloads : Option Nat := none
  activeBuilds : Option Nat := none
  maximumConcurrentBuilds : Option Nat := none
deriving DecidableEq, Repr

def RuntimeCapacity.availableWorkloadSlots (capacity : RuntimeCapacity) : Option Nat :=
  match capacity.maximumActiveWorkloads, capacity.activeWorkloads with
  | some maximum, some active => some (maximum - active)
  | _, _ => none

/-- What a runtime tells of its node; `none` where it cannot tell. -/
structure NodeTelemetry where
  hostname : Option String := none
  diskTotalBytes : Option UInt64 := none
  diskAvailableBytes : Option UInt64 := none
  workspaceUsedBytes : Option UInt64 := none
  runtimeOperational : Option Bool := none
deriving DecidableEq, Repr

structure RuntimePreflightCheck where
  isFatal : Bool
  ready : Bool
deriving DecidableEq, Repr

structure RuntimePreflightReport where
  checks : List RuntimePreflightCheck := []
deriving DecidableEq, Repr

def RuntimePreflightReport.hasFatalFailure (report : RuntimePreflightReport) : Bool :=
  report.checks.any fun check => check.isFatal && !check.ready

end SakalaAgent
