/-
Module: SakalaAgent.App.Agent
Layer: App
Purpose: The agent put together: the executor over Docker behind the port of the core. What the runtime
  reports goes through the reporter of the command, and what it does on its node stays its own.
Trusted boundary: the inspector, the preflight checks and the count of the build permits are
  parameters.
Main exports: runtimePort, DockerRuntimeExecutor.port, Agent, Agent.processor, Agent.process
-/
import SakalaAgent.Async.Embedding
import SakalaAgent.Core.Commands.Payloads
import SakalaAgent.Core.Commands.Processor
import SakalaAgent.Runtime.Inspection

namespace SakalaAgent

open Async

/-! ### The reporter of a command -/

/-- `event` of the reporter, by the answers to its attempts. -/
def reportedEvent (client : ApiClient) (responses : Responses) : Except RuntimeExecutionError Unit :=
  match client.report 1 responses with
  | .ok _ => .ok ()
  | .error error => .error (.reporting (client.errorText error))

/-- What an operation of the runtime is for the one that processes the command. -/
def processingOp (commandId : Uuid) : RuntimeOp → ProcessingOp Runtime
  | .event event => .client (.events commandId [event])
  | .log line => .log line
  | .markDeploymentCommitted output => .markDeploymentCommitted output
  | .isCancelled => .isCancelled
  | op => .runtime op

/-- What the runtime learns of an answer. -/
def runtimeAnswer (client : ApiClient) (commandId : Uuid) :
    (op : RuntimeOp) → (processingOp commandId op).Res → op.Res
  | .event _, responses => reportedEvent client responses
  | .log _, outcome => outcome
  | .markDeploymentCommitted _, _ => ()
  | .isCancelled, cancelled => cancelled
  | .process _, result | .file _, result | .setRouteActivated _, result | .routeActivated, result
  | .lock _, result | .release _, result | .acquireBuildPermit, result | .releaseBuildPermit, result
  | .sleep, result | .startLogFollower _, result => result

def runtimePort (client : ApiClient) (commandId : Uuid) : Embedding Runtime (Processing Runtime) where
  op := processingOp commandId
  answer := runtimeAnswer client commandId
  alarm := .runtime

theorem ofRuntime_processingOp (commandId : Uuid) (op : RuntimeOp) :
    (processingOp commandId op).OfRuntime := by
  cases op <;> trivial

/-! ### The executor behind the port -/

/-- `map_err(Into::into)` behind a future of the runtime. -/
def portedFuture {α : Type} (client : ApiClient) (commandId : Uuid) (future : RuntimeM α) :
    RuntimeFuture Runtime α where
  run := Fallible.mapErr RuntimeError.toExecutionError
    (ExceptT.mk (future.run.embed (runtimePort client commandId)))
  confined := by
    apply Fallible.allOps_mapErr
    have anything : future.run.AllOps fun _ => True := Prog.allOps_of_forall (fun _ => trivial) _
    exact Prog.allOps_embed (fun op _ => ofRuntime_processingOp commandId op) anything

/-- The executor, with the means that are not its own. -/
structure Agent where
  executor : DockerRuntimeExecutor
  inspector : ProjectInspector
  preflight : RuntimeM RuntimePreflightReport
  capacity : RuntimeM RuntimeCapacity
  client : ApiClient
  /-- The text of a payload error. -/
  renderError : DecodeError → String
  commandTimeout : Duration
  reporterFactory : Bool

namespace Agent

variable (agent : Agent)

/-- A command of the runtime, reported under the command that is processed. -/
def perform (commandId : Uuid) (command : RuntimeCommand) : RuntimeFuture Runtime CommandOutput :=
  portedFuture agent.client commandId (agent.executor.perform agent.inspector command)

/-- `impl RuntimeExecutor for DockerRuntimeExecutor`, for one command. -/
def port (commandId : Uuid) : RuntimeExecutor Runtime where
  preflight := portedFuture agent.client commandId agent.preflight
  capacity := portedFuture agent.client commandId agent.capacity
  inspectProject request := agent.perform commandId (.inspectProject request)
  deployProject request := agent.perform commandId (.deployProject request)
  restartProject request := agent.perform commandId (.restartProject request)
  stopProject request := agent.perform commandId (.stopProject request)
  sleepProject request := agent.perform commandId (.sleepProject request)
  wakeProject request := agent.perform commandId (.wakeProject request)
  healthCheck request := agent.perform commandId (.healthCheck request)
  refreshRoute request := agent.perform commandId (.refreshRoute request)
  reconcileWorkload request := agent.perform commandId (.reconcileWorkload request)
  cleanupRuntime request := agent.perform commandId (.cleanupRuntime request)

def dispatcher (commandId : Uuid) : CommandDispatcher Runtime where
  client := agent.client
  payloads := .wire agent.renderError
  runtime := agent.port commandId
  reporterFactory := agent.reporterFactory

def processor (commandId : Uuid) : CommandProcessor Runtime where
  dispatcher := agent.dispatcher commandId
  commandTimeout := agent.commandTimeout

/-- A command from its claim to its terminal report. -/
def process (command : AgentCommand) : Fallible (Processing Runtime) CoreError Unit :=
  (agent.processor command.id).process command

end Agent

end SakalaAgent
