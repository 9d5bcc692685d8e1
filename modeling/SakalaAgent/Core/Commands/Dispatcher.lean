/-
Module: SakalaAgent.Core.Commands.Dispatcher
Layer: Core
Purpose: The execution of a claimed command. A command is dispatched to the method of the runtime
  that its type names; what the runtime does is a future of its own, over operations of its own, that
  reaches the control plane through the reporter only.
Trusted boundary: the decoding of payloads is a parameter.
Main exports: Processing, RuntimeExecutor, CommandDispatcher, CommandDispatcher.dispatch,
  CommandDispatcher.dispatch_allOps
-/
import SakalaAgent.Async.Program
import SakalaAgent.Core.Api.Client
import SakalaAgent.Core.NodeState

namespace SakalaAgent

open Async

/-! ### The surroundings of a command -/

/-- A call of a method of the client. -/
inductive ClientCall where
  | claim (commandId : Uuid)
  | events (commandId : Uuid) (events : List DeploymentEvent)
  | repositoryCredential (commandId : Uuid)
  | complete (commandId : Uuid) (result : Json)
  | fail (commandId : Uuid) (payload : FailCommandPayload)

/-- What is asked for while a command is processed: calls of the client, the reporter of the command,
the cancellation token, the lifecycle state of the node, and whatever the runtime `R` does. `stopped`
asks for nothing: it shows where the execution of the command is polled for the last time, and what
it had yielded by then. -/
inductive ProcessingOp (R : Interface) where
  | client (call : ClientCall)
  | log (line : DeploymentLog)
  | flush
  | markDeploymentCommitted (output : CommandOutput)
  | deploymentCommitted
  | committedOutput
  | cancel
  | isCancelled
  | setLifecycle (state : NodeLifecycleState)
  | runtime (op : R.Op)
  | stopped (yielded : Option (Except RuntimeExecutionError CommandOutput))

namespace ProcessingOp

variable {R : Interface}

def Res : ProcessingOp R → Type
  | .client _ => Responses
  | .log _ => Except RuntimeExecutionError Unit
  | .flush => Except RuntimeExecutionError Unit
  | .markDeploymentCommitted _ => Unit
  | .deploymentCommitted => Bool
  | .committedOutput => Option CommandOutput
  | .cancel => Unit
  | .isCancelled => Bool
  | .setLifecycle _ => Unit
  | .runtime op => R.Res op
  | .stopped _ => Unit

def suspends : ProcessingOp R → Bool
  | .client _ => true
  | .log _ => true
  | .flush => true
  | .runtime op => R.suspends op
  | _ => false

/-- What the execution of a command may ask for: claims and terminal reports are not in its
hands. -/
def OfExecution : ProcessingOp R → Prop
  | .client (.events _ _) => True
  | .client (.repositoryCredential _) => True
  | .client _ => False
  | .stopped _ => False
  | _ => True

/-- What the runtime may ask for: it holds no client but that of the reporter, and no lifecycle. -/
def OfRuntime : ProcessingOp R → Prop
  | .client (.events _ _) => True
  | .client _ => False
  | .setLifecycle _ => False
  | .stopped _ => False
  | _ => True

theorem OfRuntime.ofExecution {op : ProcessingOp R} (confined : op.OfRuntime) : op.OfExecution := by
  cases op with
  | client call => cases call <;> trivial
  | stopped yielded => exact confined.elim
  | _ => trivial

end ProcessingOp

/-- The timers of `CommandProcessor::process`, and those of the runtime. -/
inductive ProcessingAlarm (R : Interface) where
  | deadline
  | cancellationWindow
  | grace
  | runtime (which : R.Alarm)

abbrev Processing (R : Interface) : Interface where
  Op := ProcessingOp R
  Res := ProcessingOp.Res
  suspends := ProcessingOp.suspends
  Alarm := ProcessingAlarm R

/-- A future of the execution of a command. -/
abbrev Execution (R : Interface) (α : Type) : Type :=
  Fallible (Processing R) RuntimeExecutionError α

/-- A future of the runtime: it holds a reporter and its own means, and no client. -/
structure RuntimeFuture (R : Interface) (α : Type) where
  run : Execution R α
  confined : run.AllOps ProcessingOp.OfRuntime

/-- The methods of a runtime that the dispatcher calls. -/
structure RuntimeExecutor (R : Interface) where
  preflight : RuntimeFuture R RuntimePreflightReport
  capacity : RuntimeFuture R RuntimeCapacity
  inspectProject : InspectProjectRequest → RuntimeFuture R CommandOutput
  deployProject : DeployProjectRequest → RuntimeFuture R CommandOutput
  restartProject : WorkloadLifecycleRequest → RuntimeFuture R CommandOutput
  stopProject : WorkloadLifecycleRequest → RuntimeFuture R CommandOutput
  sleepProject : WorkloadLifecycleRequest → RuntimeFuture R CommandOutput
  wakeProject : WorkloadLifecycleRequest → RuntimeFuture R CommandOutput
  healthCheck : WorkloadLifecycleRequest → RuntimeFuture R CommandOutput
  refreshRoute : WorkloadLifecycleRequest → RuntimeFuture R CommandOutput
  reconcileWorkload : ReconcileWorkloadRequest → RuntimeFuture R CommandOutput
  cleanupRuntime : CleanupRuntimeRequest → RuntimeFuture R CommandOutput

/-- How the payload of a command is decoded. -/
structure PayloadDecoder where
  deploy : Json → Except String DeployProjectPayload
  inspect : Json → Except String InspectProjectPayload
  reconcileWorkload : Json → Except String ReconcileWorkloadPayload
  cleanupRuntime : Json → Except String CleanupRuntimePayload

structure CommandDispatcher (R : Interface) where
  client : ApiClient
  payloads : PayloadDecoder
  runtime : RuntimeExecutor R
  reporterFactory : Bool

/-! ### Calls of the client -/

namespace ApiClient

variable {R : Interface} {ε : Type}

def claim (commandId : Uuid) : Fallible (Processing R) CoreError Unit := do
  let responses ← Fallible.perform (I := Processing R) (.client (.claim commandId))
  .ofExcept (claimOutcome responses)

def events (client : ApiClient) (commandId : Uuid) (events : List DeploymentEvent) :
    Fallible (Processing R) CoreError ReportAcknowledgement := do
  let responses ← Fallible.perform (I := Processing R) (.client (.events commandId events))
  .ofExcept (client.report events.length responses)

def event (client : ApiClient) (commandId : Uuid) (event : DeploymentEvent) :
    Fallible (Processing R) CoreError ReportAcknowledgement :=
  client.events commandId [event]

def repositoryCredential (client : ApiClient) (commandId : Uuid) :
    Fallible (Processing R) CoreError RepositoryCredential := do
  let responses ← Fallible.perform (I := Processing R) (.client (.repositoryCredential commandId))
  .ofExcept (client.credentialOutcome responses)

def complete (client : ApiClient) (commandId : Uuid) (output : CommandOutput) :
    Fallible (Processing R) CoreError Unit := do
  let responses ← Fallible.perform (I := Processing R)
    (.client (.complete commandId output.result))
  .ofExcept (client.postTerminal .succeeded responses)

def fail (client : ApiClient) (commandId : Uuid) (error : RuntimeExecutionError) :
    Fallible (Processing R) CoreError Unit := do
  let responses ← Fallible.perform (I := Processing R)
    (.client (.fail commandId (FailCommandPayload.of error.code error.message)))
  .ofExcept (client.postTerminal .failed responses)

end ApiClient

/-! ### Dispatch -/

namespace CommandDispatcher

variable {R : Interface}

/-- `event` of the reporter of the command. -/
def reportEvent (dispatcher : CommandDispatcher R) (commandId : Uuid) (event : DeploymentEvent) :
    Execution R Unit := do
  let _ ← Fallible.mapErr
    (fun error => RuntimeExecutionError.reporting (dispatcher.client.errorText error))
    (dispatcher.client.event commandId event)
  return ()

/-- `credential` of the repository credential provider. -/
def credential (dispatcher : CommandDispatcher R) (commandId : Uuid) :
    RepositoryAccess → Execution R (Option RepositoryCredential)
  | .publicAccess => return none
  | .temporaryCredential => do
      let credential ← Fallible.mapErr
        (fun error => ⟨"repository_credential_unavailable",
          s!"could not obtain temporary repository credential: {dispatcher.client.errorText error}"⟩)
        (dispatcher.client.repositoryCredential commandId)
      return some credential

def lifecycleRequest (command : AgentCommand) :
    Except RuntimeExecutionError WorkloadLifecycleRequest :=
  match command.projectId, command.deploymentId with
  | none, _ => .error (.invalidCommand "lifecycle command requires project_id")
  | some _, none => .error (.invalidCommand "lifecycle command requires deployment_id")
  | some projectId, some deploymentId =>
      .ok { commandId := command.id, projectId, deploymentId }

/-- The payload of a command, with the text its error gets. -/
def decoded {α : Type} (label : String) (payload : Except String α) :
    Except RuntimeExecutionError α :=
  payload.mapError fun error => .invalidCommand s!"{label} payload is invalid: {error}"

def inspectProject (dispatcher : CommandDispatcher R) (command : AgentCommand) :
    Execution R CommandOutput := do
  let payload ← Fallible.ofExcept
    (decoded "InspectProject" (dispatcher.payloads.inspect command.payload))
  let repositoryCredential ← dispatcher.credential command.id payload.repositoryAccess
  (dispatcher.runtime.inspectProject
    { commandId := command.id, payload, repositoryCredential }).run

def deployProject (dispatcher : CommandDispatcher R) (command : AgentCommand) :
    Execution R CommandOutput :=
  match command.projectId, command.deploymentId with
  | none, _ => throw (.invalidCommand "DeployProject requires project_id")
  | some _, none => throw (.invalidCommand "DeployProject requires deployment_id")
  | some projectId, some deploymentId => do
      let payload ← Fallible.ofExcept
        (decoded "DeployProject" (dispatcher.payloads.deploy command.payload))
      let repositoryCredential ← dispatcher.credential command.id payload.repositoryAccess
      (dispatcher.runtime.deployProject
        { commandId := command.id, projectId, deploymentId, payload, repositoryCredential }).run

/-- The commands that are nothing but a request. -/
def lifecycle (method : WorkloadLifecycleRequest → RuntimeFuture R CommandOutput)
    (command : AgentCommand) : Execution R CommandOutput := do
  let request ← Fallible.ofExcept (lifecycleRequest command)
  (method request).run

def reconcileWorkload (dispatcher : CommandDispatcher R) (command : AgentCommand) :
    Execution R CommandOutput := do
  let request ← Fallible.ofExcept (lifecycleRequest command)
  let payload ← Fallible.ofExcept
    (decoded "ReconcileWorkload" (dispatcher.payloads.reconcileWorkload command.payload))
  (dispatcher.runtime.reconcileWorkload
    { projectId := request.projectId
      deploymentId := request.deploymentId
      desiredState := payload.desiredState
      actions := payload.actions
      reporterFactory := dispatcher.reporterFactory }).run

def cleanupRuntime (dispatcher : CommandDispatcher R) (command : AgentCommand) :
    Execution R CommandOutput := do
  let payload ← Fallible.ofExcept
    (decoded "CleanupRuntime" (dispatcher.payloads.cleanupRuntime command.payload))
  if !payload.approved then
    throw (.invalidCommand "CleanupRuntime requires approved=true")
  else if payload.targets.isEmpty then
    throw (.invalidCommand "CleanupRuntime requires at least one target")
  else
    (dispatcher.runtime.cleanupRuntime
      { commandId := command.id, approved := payload.approved, targets := payload.targets }).run

def drainNode (dispatcher : CommandDispatcher R) (command : AgentCommand) :
    Execution R CommandOutput := do
  Fallible.perform (I := Processing R) (.setLifecycle .draining)
  dispatcher.reportEvent command.id
    { eventType := "node.drain.started"
      level := .info
      message := "Node stopped accepting new workload commands."
      metadata := Json.ofEntries [] }
  return { result := Json.ofEntries [("state", .string "draining")] }

/-- A count, or null. -/
def countJson : Option Nat → Json
  | none => .null
  | some count => .number (.unsigned (UInt64.ofNat count))

/-- The three numbers of the capacity. -/
def capacityEntries (capacity : RuntimeCapacity) : List (String × Json) :=
  [("active_workloads", countJson capacity.activeWorkloads),
    ("maximum_active_workloads", countJson capacity.maximumActiveWorkloads),
    ("available_workload_slots", countJson capacity.availableWorkloadSlots)]

def resumeNode (dispatcher : CommandDispatcher R) (command : AgentCommand) :
    Execution R CommandOutput := do
  let preflight ← dispatcher.runtime.preflight.run
  if preflight.hasFatalFailure then
    throw ⟨"runtime_preflight_failed",
      "node cannot resume because runtime preflight has fatal failures"⟩
  let capacity ← dispatcher.runtime.capacity.run
  Fallible.perform (I := Processing R) (.setLifecycle .active)
  dispatcher.reportEvent command.id
    { eventType := "node.resume.completed"
      level := .info
      message := "Node preflight passed and workload command processing resumed."
      metadata := Json.ofEntries (capacityEntries capacity) }
  let state := [("state", .string "active"),
    ("capacity", Json.ofEntries (capacityEntries capacity))]
  return { result := Json.ofEntries state }

def dispatch (dispatcher : CommandDispatcher R) (command : AgentCommand) :
    Execution R CommandOutput :=
  match command.commandType with
  | .inspectProject => dispatcher.inspectProject command
  | .deployProject => dispatcher.deployProject command
  | .restartProject => lifecycle dispatcher.runtime.restartProject command
  | .stopProject => lifecycle dispatcher.runtime.stopProject command
  | .sleepProject => lifecycle dispatcher.runtime.sleepProject command
  | .wakeProject => lifecycle dispatcher.runtime.wakeProject command
  | .healthCheck => lifecycle dispatcher.runtime.healthCheck command
  | .refreshRoute => lifecycle dispatcher.runtime.refreshRoute command
  | .reconcileWorkload => dispatcher.reconcileWorkload command
  | .cleanupRuntime => dispatcher.cleanupRuntime command
  | .drainNode => dispatcher.drainNode command
  | .resumeNode => dispatcher.resumeNode command

/-! ### What the execution asks for -/

section AllOps

variable {ok : ProcessingOp R → Prop}

theorem allOps_ofExcept_bind {α β : Type} {outcome : Except RuntimeExecutionError α}
    {rest : α → Execution R β} (confined : ∀ value, Fallible.AllOps ok (rest value)) :
    Fallible.AllOps ok (Fallible.ofExcept outcome >>= rest) :=
  Fallible.allOps_bind (Fallible.allOps_ofExcept outcome) confined

variable (dispatcher : CommandDispatcher R) (command : AgentCommand)
  (runtime : ∀ op, ProcessingOp.OfRuntime op → ok op)
  (credential : ∀ commandId, ok (.client (.repositoryCredential commandId)))
include runtime

theorem allOps_runtime (future : RuntimeFuture R CommandOutput) :
    Fallible.AllOps ok future.run :=
  Prog.AllOps.mono runtime future.confined

theorem reportEvent_allOps (event : DeploymentEvent) :
    Fallible.AllOps ok (dispatcher.reportEvent command.id event) := by
  have call : Fallible.AllOps ok (dispatcher.client.event (R := R) command.id event) :=
    Fallible.allOps_bind (Fallible.allOps_perform (runtime _ trivial)) fun _ =>
      Fallible.allOps_ofExcept _
  exact Fallible.allOps_bind (Fallible.allOps_mapErr call) fun _ => Fallible.allOps_pure _

theorem lifecycle_allOps (method : WorkloadLifecycleRequest → RuntimeFuture R CommandOutput) :
    Fallible.AllOps ok (lifecycle method command) :=
  allOps_ofExcept_bind fun request => allOps_runtime runtime (method request)

theorem reconcileWorkload_allOps : Fallible.AllOps ok (dispatcher.reconcileWorkload command) :=
  allOps_ofExcept_bind fun _ => allOps_ofExcept_bind fun _ =>
    allOps_runtime runtime (dispatcher.runtime.reconcileWorkload _)

theorem cleanupRuntime_allOps : Fallible.AllOps ok (dispatcher.cleanupRuntime command) := by
  refine allOps_ofExcept_bind fun payload => ?_
  split
  · exact Fallible.allOps_throw _
  · split
    · exact Fallible.allOps_throw _
    · exact allOps_runtime runtime (dispatcher.runtime.cleanupRuntime _)

theorem drainNode_allOps (draining : ok (.setLifecycle .draining)) :
    Fallible.AllOps ok (dispatcher.drainNode command) :=
  Fallible.allOps_bind (Fallible.allOps_perform draining) fun _ =>
    Fallible.allOps_bind (dispatcher.reportEvent_allOps command runtime _) fun _ =>
      Fallible.allOps_pure _

theorem resumeNode_allOps (active : ok (.setLifecycle .active)) :
    Fallible.AllOps ok (dispatcher.resumeNode command) := by
  have preflight : Fallible.AllOps ok dispatcher.runtime.preflight.run :=
    Prog.AllOps.mono runtime dispatcher.runtime.preflight.confined
  have capacity : Fallible.AllOps ok dispatcher.runtime.capacity.run :=
    Prog.AllOps.mono runtime dispatcher.runtime.capacity.confined
  refine Fallible.allOps_bind preflight fun report => ?_
  split
  · exact Fallible.allOps_throw _
  · refine Fallible.allOps_bind capacity fun capacity => ?_
    exact Fallible.allOps_bind (Fallible.allOps_perform active) fun _ =>
      Fallible.allOps_bind (dispatcher.reportEvent_allOps command runtime _) fun _ =>
        Fallible.allOps_pure _

include credential

omit runtime in
theorem credential_allOps (access : RepositoryAccess) :
    Fallible.AllOps ok (dispatcher.credential command.id access) := by
  cases access with
  | publicAccess => exact Fallible.allOps_pure _
  | temporaryCredential =>
      have call : Fallible.AllOps ok
          (dispatcher.client.repositoryCredential (R := R) command.id) :=
        Fallible.allOps_bind (Fallible.allOps_perform (credential _)) fun _ =>
          Fallible.allOps_ofExcept _
      exact Fallible.allOps_bind (Fallible.allOps_mapErr call) fun _ => Fallible.allOps_pure _

theorem inspectProject_allOps : Fallible.AllOps ok (dispatcher.inspectProject command) :=
  allOps_ofExcept_bind fun _ =>
    Fallible.allOps_bind (dispatcher.credential_allOps command credential _) fun _ =>
      allOps_runtime runtime (dispatcher.runtime.inspectProject _)

theorem deployProject_allOps : Fallible.AllOps ok (dispatcher.deployProject command) := by
  unfold deployProject
  split
  · exact Fallible.allOps_throw _
  · exact Fallible.allOps_throw _
  · exact allOps_ofExcept_bind fun payload =>
      Fallible.allOps_bind (dispatcher.credential_allOps command credential _) fun _ =>
        allOps_runtime runtime (dispatcher.runtime.deployProject _)

/-- Besides what the runtime asks for, a command is given a credential, and the two that change the
state of the node set it. -/
theorem dispatch_allOps
    (draining : command.commandType = .drainNode → ok (.setLifecycle .draining))
    (active : command.commandType = .resumeNode → ok (.setLifecycle .active)) :
    Fallible.AllOps ok (dispatcher.dispatch command) := by
  unfold dispatch
  cases type : command.commandType with
  | inspectProject => exact dispatcher.inspectProject_allOps command runtime credential
  | deployProject => exact dispatcher.deployProject_allOps command runtime credential
  | restartProject => exact lifecycle_allOps command runtime _
  | stopProject => exact lifecycle_allOps command runtime _
  | sleepProject => exact lifecycle_allOps command runtime _
  | wakeProject => exact lifecycle_allOps command runtime _
  | healthCheck => exact lifecycle_allOps command runtime _
  | refreshRoute => exact lifecycle_allOps command runtime _
  | reconcileWorkload => exact dispatcher.reconcileWorkload_allOps command runtime
  | cleanupRuntime => exact dispatcher.cleanupRuntime_allOps command runtime
  | drainNode => exact dispatcher.drainNode_allOps command runtime (draining type)
  | resumeNode => exact dispatcher.resumeNode_allOps command runtime (active type)

end AllOps

/-- Whatever a command is, its execution neither claims it nor reports its end. -/
theorem dispatch_ofExecution (dispatcher : CommandDispatcher R) (command : AgentCommand) :
    Fallible.AllOps ProcessingOp.OfExecution (dispatcher.dispatch command) :=
  dispatcher.dispatch_allOps command (fun _ => ProcessingOp.OfRuntime.ofExecution)
    (fun _ => trivial) (fun _ => trivial) fun _ => trivial

end CommandDispatcher

end SakalaAgent
