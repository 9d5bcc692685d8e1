/-
Module: SakalaAgent.Core.Scheduler.PolledNode
Layer: Core
Purpose: The polling loop and the command tasks it has spawned, side by side. The tasks share the
  lifecycle state with the loop; each of them runs `process` on the command it was spawned for, one
  operation at a time, and can be dropped where it is suspended once it has been aborted.
Trusted boundary: as for the polling loop and the processor. A token may be cancelled at any time.
Main exports: PolledNode, PolledNode.advance, PolledNode.threads, PolledNode.Driven
-/
import SakalaAgent.Async.Interleaving
import SakalaAgent.Core.Commands.Processor
import SakalaAgent.Core.Scheduler.Poller

namespace SakalaAgent

open Async

/-- The loop, the command each task was spawned for, and the state each command has of its own. -/
structure PolledNode where
  poller : Poller
  spawned : TaskId → Option AgentCommand
  commands : TaskId → CommandState

namespace PolledNode

variable {R : Interface}

/-- A node bootstrapped in a lifecycle state. -/
def new (connected : Bool) (limit : Nat) (lifecycle : NodeLifecycleState) : PolledNode where
  poller := .new connected limit lifecycle
  spawned _ := none
  commands _ := {}

abbrev lifecycle (node : PolledNode) : NodeLifecycleState :=
  node.poller.lifecycle

abbrev executions (node : PolledNode) : CommandExecutions :=
  node.poller.executions

def setLifecycle (node : PolledNode) (state : NodeLifecycleState) : PolledNode :=
  { node with poller := { node.poller with lifecycle := state } }

/-- The tasks, with the one that is spawned when the loop goes on. -/
def spawning (node : PolledNode) : TaskId → Option AgentCommand :=
  match node.poller.phase with
  | .starting command _ =>
      if node.executions.refuses command then node.spawned
      else Function.update node.spawned node.executions.nextTaskId (some command)
  | _ => node.spawned

/-- A step of the loop, or the end of a task. The lifecycle state is set by the loop and by the
tasks, and by nobody else. -/
def advance (node : PolledNode) : PollerAction → Option PolledNode
  | .lifecycleSet _ => none
  | .proceed => (node.poller.step .proceed).map fun poller =>
      { node with poller, spawned := node.spawning }
  | action => (node.poller.step action).map fun poller => { node with poller }

/-- One operation of a task. -/
def step (node : PolledNode) (id : TaskId) :
    (op : ProcessingOp R) → op.Res → PolledNode → Prop
  | .setLifecycle state, _, node' => node' = node.setLifecycle state
  | op, res, node' => ∃ state, (node.commands id).step op res state ∧
      node' = { node with commands := Function.update node.commands id state }

def cancelToken (node : PolledNode) (id : TaskId) : PolledNode :=
  { node with
    commands := Function.update node.commands id { node.commands id with cancelled := true } }

def semantics (R : Interface) (id : TaskId) : Semantics (Processing R) PolledNode where
  step node op res node' := node.step id op res node'
  leave node _ _ node' := node' = node
  drift node node' := (∃ action, node.advance action = some node') ∨ node' = node.cancelToken id

/-- The future a task is spawned with: errors of the processor are logged and forgotten. -/
def work (processor : CommandProcessor R) (command : AgentCommand) : Prog (Processing R) Unit :=
  (processor.process command).run.bind fun _ => .ret ()

def threads (processor : CommandProcessor R) : Threads (Processing R) PolledNode TaskId Unit where
  semantics := semantics R
  starts _ program := ∃ command, program = work processor command
  onDrop _ := .ret ()

/-- The task is in the set and has not ended. -/
def Running (node : PolledNode) (id : TaskId) (aborted : Bool) : Prop :=
  ∃ task, (id, task) ∈ node.executions.tasks ∧ task.outcome = none ∧
    (aborted = true → task.aborted = true)

/-- The loop drives the tasks: only a spawned one is polled, with the command it was spawned for; only
an aborted one is dropped; and a task completes when its future has returned. -/
def Driven (processor : CommandProcessor R) (s : Pool (Processing R) PolledNode TaskId Unit)
    (action : Pool.Action (Processing R) TaskId Unit)
    (s' : Pool (Processing R) PolledNode TaskId Unit) : Prop :=
  match action with
  | .start id program => s.world.Running id false ∧
      ∃ command, s.world.spawned id = some command ∧ program = work processor command
  | .act id _ | .quiet id => s.world.Running id false
  | .drop id => s.world.Running id true
  | .drift => ∀ id, s.world.Running id false →
      (∃ task, (id, task) ∈ s'.world.executions.tasks ∧ task.outcome = some .completed) →
      s.program id = some (.ret ())

/-- The states that are reached from a pool by a node that is driven by its loop. -/
abbrev Reaches (processor : CommandProcessor R) :
    Pool (Processing R) PolledNode TaskId Unit → Pool (Processing R) PolledNode TaskId Unit → Prop :=
  Pool.Runs (threads processor) (Driven processor)

end PolledNode

end SakalaAgent
