/-
Module: SakalaAgent.Protocol.Commands
Layer: Protocol
Purpose: The records the agent exchanges with the control plane. Timestamps are left out: no code
  reads one.
Trusted boundary: none
Main exports: CommandType, AgentCommand, DeployProjectPayload, DeployProjectResult, DeploymentEvent,
  DeploymentLog, LogBounds, FinalizationDeferredReason
-/
import SakalaAgent.Protocol.Uuid
import SakalaAgent.Protocol.Json

namespace SakalaAgent

/-- State owned by the control plane while an agent processes a command. -/
inductive CommandStatus where
  | pending | claimed | running | succeeded | failed | cancelled | expired
deriving DecidableEq, Repr

/-- Operation requested by the control plane for execution on a runtime node. -/
inductive CommandType where
  | inspectProject | deployProject | restartProject | stopProject | sleepProject | wakeProject
  | healthCheck | refreshRoute | reconcileWorkload | cleanupRuntime | drainNode | resumeNode
deriving DecidableEq, Repr

/-- Command record returned by the polling endpoint. -/
structure AgentCommand where
  id : Uuid
  commandType : CommandType
  status : CommandStatus
  projectId : Option Uuid
  deploymentId : Option Uuid
  payload : Json

inductive DesiredWorkloadState where
  | running | stopped | missing
deriving DecidableEq, Repr

inductive ReconcileWorkloadAction where
  | restartLogFollower | cleanupFailedCandidate | restoreRoute
deriving DecidableEq, Repr

inductive RuntimeCleanupTarget where
  | staleWorkspaces | staleImages | staleRoutes
deriving DecidableEq, Repr

inductive DeploymentBuilder where
  | auto | dockerfile | railpack
deriving DecidableEq, Repr

/-- Access mode authorized by the control plane for one immutable repository checkout. -/
inductive RepositoryAccess where
  | publicAccess | temporaryCredential
deriving DecidableEq, Repr

/-- Product-level resource request resolved by the control plane. -/
structure RuntimeResourceLimits where
  memoryMb : Option UInt64 := none
  cpuMillis : Option UInt32 := none
  pidsLimit : Option UInt32 := none
deriving DecidableEq, Repr

/-- Product-level phase deadlines resolved by the control plane. -/
structure RuntimeTimeoutLimits where
  buildTimeoutSeconds : Option UInt64 := none
  startTimeoutSeconds : Option UInt64 := none
  commandTimeoutSeconds : Option UInt64 := none
deriving DecidableEq, Repr

/-- Product-level bounds for deployment logs sent to the control plane. -/
structure LogBounds where
  maxLineLength : Option UInt64 := none
  maxBatchLines : Option UInt64 := none
  maxTotalBytes : Option UInt64 := none
deriving DecidableEq, Repr

/-- Concrete resource limits enforced by the runtime node. -/
structure AppliedRuntimeResources where
  memoryMb : UInt64
  cpuMillis : UInt32
  pidsLimit : UInt32
deriving DecidableEq, Repr

inductive FinalizationDeferredReason where
  | graceElapsed | runtimeError
deriving DecidableEq, Repr

/-- The snake-case text of a reason. -/
def FinalizationDeferredReason.toJson : FinalizationDeferredReason → Json
  | .graceElapsed => .string "grace_elapsed"
  | .runtimeError => .string "runtime_error"

/-- What a deployment that has succeeded reports, and whether its finalization was left to the control
plane. -/
structure DeployProjectResult where
  requestedResources : RuntimeResourceLimits
  appliedResources : AppliedRuntimeResources
  finalizationDeferred : Bool := false
  finalizationDeferredReason : Option FinalizationDeferredReason := none
deriving DecidableEq, Repr

/-- Immutable input required to deploy one HTTP application. -/
structure DeployProjectPayload where
  repositoryUrl : String
  commitSha : String
  repositoryAccess : RepositoryAccess
  domain : String
  containerPort : UInt16
  builder : DeploymentBuilder
  environment : List (String × String)
  resources : RuntimeResourceLimits
  timeouts : RuntimeTimeoutLimits
  logBounds : LogBounds
deriving DecidableEq

/-- Input of a project inspection. -/
structure InspectProjectPayload where
  repositoryUrl : String
  commitSha : String
  repositoryAccess : RepositoryAccess
deriving DecidableEq

structure ReconcileWorkloadPayload where
  desiredState : DesiredWorkloadState
  actions : List ReconcileWorkloadAction
deriving DecidableEq

structure CleanupRuntimePayload where
  /-- Explicit destructive-action gate supplied by the control plane. -/
  approved : Bool
  targets : List RuntimeCleanupTarget
deriving DecidableEq

inductive LogStream where
  | stdout | stderr | system
deriving DecidableEq, Repr

/-- Redacted output associated with a deployment command. -/
structure DeploymentLog where
  stream : LogStream
  message : String
deriving DecidableEq, Repr

inductive DeploymentEventLevel where
  | info | warning | error
deriving DecidableEq, Repr

/-- Lifecycle event reported while a command is executing. -/
structure DeploymentEvent where
  eventType : String
  level : DeploymentEventLevel
  message : String
  metadata : Json

end SakalaAgent
