/-
Module: SakalaAgent.Core.NodeState
Layer: Core
Purpose: The maintenance state of the node, shared by the workers of one process, and the status the
  node reports of itself.
Trusted boundary: none
Main exports: NodeLifecycleState, NodeStatus
-/

namespace SakalaAgent

inductive NodeLifecycleState where
  | active | draining | drained | maintenance
deriving DecidableEq, Repr

/-- Only an active node takes workload commands. -/
def NodeLifecycleState.acceptsWorkloadCommands (state : NodeLifecycleState) : Bool :=
  state = .active

inductive NodeStatus where
  | ready | busy | degraded | draining | drained | maintenance
deriving DecidableEq, Repr

end SakalaAgent
