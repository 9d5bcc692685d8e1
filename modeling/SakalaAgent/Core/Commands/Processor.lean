/-
Module: SakalaAgent.Core.Commands.Processor
Layer: Core
Purpose: A claimed command from its claim to its terminal report. The execution of the command is
  polled in one task with the timers of the processor, so it can be left at every suspension point.
Trusted boundary: a timer may be seen at every suspension point; how long it is set for plays no
  part. The log delivery of the reporter may answer anything.
Main exports: CommandState, processingSemantics, CommandProcessor, CommandProcessor.process
-/
import SakalaAgent.Async.Semantics
import SakalaAgent.Core.Commands.Dispatcher

namespace SakalaAgent

open Async

/-! ### The state of a command -/

/-- The cutover mark of the reporter, and the cancellation token. -/
structure CommandState where
  committed : Option CommandOutput := none
  deploymentCommitted : Bool := false
  cancelled : Bool := false

namespace CommandState

def markDeploymentCommitted (state : CommandState) (output : CommandOutput) : CommandState :=
  { state with committed := some output, deploymentCommitted := true }

def committedOutput (state : CommandState) : Option CommandOutput :=
  if state.deploymentCommitted then state.committed else none

/-- One operation that is waited for: anything may be answered where the answer comes from
elsewhere. -/
def step {R : Interface} (state : CommandState) :
    (op : ProcessingOp R) → op.Res → CommandState → Prop
  | .markDeploymentCommitted output, _, state' => state' = state.markDeploymentCommitted output
  | .deploymentCommitted, res, state' => res = state.deploymentCommitted ∧ state' = state
  | .committedOutput, res, state' => res = state.committedOutput ∧ state' = state
  | .cancel, _, state' => state' = { state with cancelled := true }
  | .isCancelled, res, state' => res = state.cancelled ∧ state' = state
  | _, _, state' => state' = state

end CommandState

/-- The token can be cancelled from outside at any time. -/
def processingSemantics (R : Interface) : Semantics (Processing R) CommandState where
  step state op res state' := state.step op res state'
  leave state _ _ state' := state' = state
  drift state state' := state' = { state with cancelled := true }

/-! ### The processor -/

/-- A span of time in nanoseconds. -/
abbrev Duration : Type := Nat

def Duration.fromSecs (seconds : Nat) : Duration :=
  seconds * 1000000000

def Duration.asSecs (duration : Duration) : Nat :=
  duration / 1000000000

structure CommandProcessor (R : Interface) where
  dispatcher : CommandDispatcher R
  commandTimeout : Duration

/-- The terminal output of a deployment whose finalization is left to the control plane. -/
def deferredOutput (output : CommandOutput) (reason : FinalizationDeferredReason) :
    CommandOutput :=
  match output.result with
  | .object fields =>
      { result := .object (Json.Fields.insert
          (Json.Fields.insert fields "finalization_deferred" (.bool true))
          "finalization_deferred_reason" reason.toJson) }
  | committedResult =>
      { result := Json.ofEntries [("committed_result", committedResult),
          ("finalization_deferred", .bool true),
          ("finalization_deferred_reason", reason.toJson)] }

/-- What the execution of a command yields. -/
abbrev ExecutionOutcome : Type := Except RuntimeExecutionError CommandOutput

/-- What has been yielded by an execution that is not polled any more, or what remains of it. -/
abbrev Polled (R : Interface) : Type := ExecutionOutcome ⊕ Prog (Processing R) ExecutionOutcome

namespace CommandProcessor

variable {R : Interface}

def client (processor : CommandProcessor R) : ApiClient :=
  processor.dispatcher.client

/-- The event that is reported once the claim has succeeded. -/
def claimedEvent : DeploymentEvent where
  eventType := "command.claimed"
  level := .info
  message := "Agent claimed command."
  metadata := Json.ofEntries []

/-- The deadline of the execution and the bounds of its logs. -/
def commandPolicy (processor : CommandProcessor R) (command : AgentCommand) :
    Except RuntimeExecutionError (Duration × LogBounds) :=
  if command.commandType ≠ .deployProject then .ok (processor.commandTimeout, {})
  else
    match processor.dispatcher.payloads.deploy command.payload with
    | .error error => .error (.invalidCommand s!"invalid DeployProject payload: {error}")
    | .ok payload =>
        let maximum := Duration.asSecs processor.commandTimeout
        let requested := match payload.timeouts.commandTimeoutSeconds with
          | none => maximum
          | some seconds => seconds.toNat
        if requested = 0 ∨ maximum < requested then
          .error (.invalidCommand
            s!"command_timeout_seconds ({requested}s) exceeds the node maximum of {maximum}s")
        else .ok (Duration.fromSecs requested, payload.logBounds)

def deferredCommittedOutput (reason : FinalizationDeferredReason) :
    Prog (Processing R) CommandOutput := do
  let committed : Option CommandOutput ← Prog.perform (I := Processing R) .committedOutput
  return deferredOutput (committed.getD {}) reason

/-- The deadline branch of the select. -/
def deadlineReached (executionTimeout : Duration) (rest : Prog (Processing R) ExecutionOutcome) :
    Prog (Processing R) (ExecutionOutcome × Polled R) := do
  let deploymentCommitted : Bool ← Prog.perform (I := Processing R) .deploymentCommitted
  if deploymentCommitted then
    let polled ← rest.pollUntil (.grace : ProcessingAlarm R)
    match polled with
    | .inl (.ok output) => return (.ok output, polled)
    | .inl (.error _) =>
        let output ← deferredCommittedOutput .runtimeError
        return (.ok output, polled)
    | .inr _ =>
        let _ ← Prog.perform (I := Processing R) .cancel
        let output ← deferredCommittedOutput .graceElapsed
        return (.ok output, polled)
  else
    let _ ← Prog.perform (I := Processing R) .cancel
    let polled ← rest.pollUntil (.cancellationWindow : ProcessingAlarm R)
    let error : RuntimeExecutionError := ⟨"runtime_timeout",
      s!"command execution exceeded its {Duration.asSecs executionTimeout}s timeout"⟩
    return (.error error, polled)

/-- The biased select of the execution and its deadline. -/
def select (executionTimeout : Duration) (execution : Prog (Processing R) ExecutionOutcome) :
    Prog (Processing R) (ExecutionOutcome × Polled R) :=
  execution.race (.deadline : ProcessingAlarm R) (deadlineReached executionTimeout)
    fun outcome => (outcome, .inl outcome)

/-- An error behind the cutover is not reported as one. -/
def preserveCommitted : ExecutionOutcome → Prog (Processing R) ExecutionOutcome
  | .ok output => return .ok output
  | .error error => do
      let deploymentCommitted : Bool ← Prog.perform (I := Processing R) .deploymentCommitted
      if deploymentCommitted then
        let output ← deferredCommittedOutput .runtimeError
        return .ok output
      else
        return .error error

/-- The terminal report. -/
def reportTerminal (processor : CommandProcessor R) (command : AgentCommand) :
    ExecutionOutcome → Fallible (Processing R) CoreError Unit
  | .ok output => processor.client.complete command.id output
  | .error error => do
      processor.client.fail command.id error
      throw (.runtime error)

/-- What follows the select. -/
def finish (processor : CommandProcessor R) (command : AgentCommand) (outcome : ExecutionOutcome) :
    Prog (Processing R) (Except CoreError Unit) := do
  let outcome ← preserveCommitted outcome
  let _ ← Prog.perform (I := Processing R) .flush
  (processor.reportTerminal command outcome).run

/-- The execution of a command with its timers and its report; the pinned future goes last. -/
def execute (processor : CommandProcessor R) (command : AgentCommand) (executionTimeout : Duration) :
    Prog (Processing R) (Except CoreError Unit) := do
  let (outcome, polled) ← select executionTimeout (processor.dispatcher.dispatch command).run
  let _ ← Prog.perform (I := Processing R) (.stopped polled.getLeft?)
  let result ← processor.finish command outcome
  match polled with
  | .inl _ => return result
  | .inr rest => rest.drop (.ret result)

def process (processor : CommandProcessor R) (command : AgentCommand) :
    Fallible (Processing R) CoreError Unit := do
  match ← Fallible.attempt (ApiClient.claim command.id) with
  | .error .commandNotClaimable => return ()
  | .error error => throw error
  | .ok _ =>
      let _ ← processor.client.event command.id claimedEvent
      match processor.commandPolicy command with
      | .error error =>
          processor.client.fail command.id error
          throw (.runtime error)
      | .ok (executionTimeout, _) => ExceptT.mk (processor.execute command executionTimeout)

end CommandProcessor

end SakalaAgent
