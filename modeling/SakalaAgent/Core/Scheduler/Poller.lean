/-
Module: SakalaAgent.Core.Scheduler.Poller
Layer: Core
Purpose: The polling loop around the task set, one step for each point at which the tasks and the
  other workers of the process can get in between. A poll may answer with any commands.
Trusted boundary: as for the task set; the lifecycle state can be changed by others at any time.
Main exports: Poller, Poller.step
-/
import SakalaAgent.Core.NodeState
import SakalaAgent.Core.Scheduler.CommandExecutions

namespace SakalaAgent

/-- Where the loop stands. -/
inductive PollerPhase where
  | reaping
  | reaped
  /-- The node was seen draining and without work; its state is about to be set. -/
  | drained
  | polling
  | offering (commands : List AgentCommand)
  /-- The command was found pending and acceptable. -/
  | starting (command : AgentCommand) (rest : List AgentCommand)
  | sleeping
  | cancelling
  | aborting
  | stopped

structure Poller where
  /-- A node without a control plane polls nothing. -/
  connected : Bool
  executions : CommandExecutions
  lifecycle : NodeLifecycleState
  nextToken : CancellationToken
  phase : PollerPhase

inductive PollerAction where
  /-- The loop goes on to its next point. -/
  | proceed
  /-- The task set hands a finished task to `reap_completed` or `wait_for_tasks`. -/
  | join (id : TaskId)
  /-- The answer to a poll; `none` is a failed one. -/
  | polled (commands : Option (List AgentCommand))
  | shutdown
  | graceElapsed
  | taskEnded (id : TaskId) (outcome : TaskOutcome)
  | lifecycleSet (state : NodeLifecycleState)

namespace Poller

def new (connected : Bool) (limit : Nat) (lifecycle : NodeLifecycleState) : Poller where
  connected := connected
  executions := .new limit {}
  lifecycle := lifecycle
  nextToken := 0
  phase := .reaping

/-- Commands that are not pending are skipped, and on a node that is not active every command but
the two that change its state. -/
def considers (lifecycle : NodeLifecycleState) (command : AgentCommand) : Bool :=
  command.status = .pending &&
    (lifecycle.acceptsWorkloadCommands || command.commandType = .drainNode ||
      command.commandType = .resumeNode)

/-- `begin_poll`, on a node that has a control plane to poll. -/
def beginPoll (s : Poller) : Poller :=
  if s.connected then
    { s with
      executions := { s.executions with metrics := s.executions.metrics.beginPoll }
      phase := .polling }
  else { s with phase := .sleeping }

/-- The offer of one command to the task set, with a token of its own. -/
def offer (s : Poller) (command : AgentCommand) (rest : List AgentCommand) : Poller :=
  let (executions, taken) := s.executions.tryStart command s.nextToken
  { s with
    executions :=
      if taken then executions
      else { executions with metrics := executions.metrics.commandDeferred }
    nextToken := s.nextToken + 1
    phase := .offering rest }

def proceed (s : Poller) : Option Poller :=
  match s.phase with
  | .reaping => if s.executions.anyFinished then none else some { s with phase := .reaped }
  | .reaped =>
      if s.lifecycle = .draining ∧ s.executions.len = 0 then some { s with phase := .drained }
      else some s.beginPoll
  | .drained => some { s with lifecycle := .drained }.beginPoll
  | .polling => none
  | .offering [] => some { s with phase := .sleeping }
  | .offering (command :: rest) =>
      if considers s.lifecycle command then some { s with phase := .starting command rest }
      else some { s with phase := .offering rest }
  | .starting command rest => some (s.offer command rest)
  | .sleeping => some { s with phase := .reaping }
  | .cancelling | .aborting =>
      if s.executions.len = 0 then some { s with phase := .stopped } else none
  | .stopped => none

def step (s : Poller) : PollerAction → Option Poller
  | .proceed => s.proceed
  | .join id =>
      match s.executions.join id with
      | none => none
      | some (task, executions) =>
          match s.phase with
          | .reaping => some { s with executions := executions.reapJoined id task }
          | .cancelling | .aborting => some { s with executions := executions.waitJoined id task }
          | _ => none
  | .polled commands =>
      match s.phase, commands with
      | .polling, some commands => some { s with phase := .offering commands }
      | .polling, none => some { s with phase := .sleeping }
      | _, _ => none
  | .shutdown =>
      match s.phase with
      | .sleeping => some { s with executions := s.executions.cancelAll, phase := .cancelling }
      | _ => none
  | .graceElapsed =>
      match s.phase with
      | .cancelling => some { s with executions := s.executions.abortAll, phase := .aborting }
      | _ => none
  | .taskEnded id outcome =>
      (s.executions.finish id outcome).map fun executions => { s with executions }
  | .lifecycleSet state => some { s with lifecycle := state }

end Poller

end SakalaAgent
