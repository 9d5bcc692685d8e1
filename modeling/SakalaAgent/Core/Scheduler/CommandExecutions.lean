/-
Module: SakalaAgent.Core.Scheduler.CommandExecutions
Layer: Core
Purpose: The bounded set of running command tasks. The functions are those of the poller's
  `CommandExecutions`, one for each method; `Calls` runs them in the order in which the methods can
  be called, with the tasks ending on their own between any two steps.
Trusted boundary: a task set hands out every finished task once, tasks are numbered in the order
  in which they are spawned, and an abort makes a task end, if it has not ended yet.
Main exports: SchedulerMetrics, CommandExecutions, CommandExecutions.tryStart,
  CommandExecutions.releaseTask, Calls.step
-/
import Mathlib.Data.Finset.Option
import Mathlib.Data.Finset.Dedup
import SakalaAgent.Transition.Runs
import SakalaAgent.Protocol.Commands

namespace SakalaAgent

/-! ### Counters -/

/-- The number of values of a `usize`. -/
def usizeModulus : Nat := 2 ^ 64

/-- Shared scheduler counters exposed through the node heartbeat. -/
structure SchedulerMetrics where
  activeCommands : Nat := 0
  capacityWaitingCommands : Nat := 0
deriving DecidableEq, Repr

namespace SchedulerMetrics

/-- `fetch_add(1)`, which wraps around. -/
def commandStarted (metrics : SchedulerMetrics) : SchedulerMetrics :=
  { metrics with activeCommands := (metrics.activeCommands + 1) % usizeModulus }

/-- `fetch_sub(1)`, which wraps around. -/
def commandFinished (metrics : SchedulerMetrics) : SchedulerMetrics :=
  { metrics with
    activeCommands := (metrics.activeCommands + (usizeModulus - 1)) % usizeModulus }

def beginPoll (metrics : SchedulerMetrics) : SchedulerMetrics :=
  { metrics with capacityWaitingCommands := 0 }

def commandDeferred (metrics : SchedulerMetrics) : SchedulerMetrics :=
  { metrics with
    capacityWaitingCommands := (metrics.capacityWaitingCommands + 1) % usizeModulus }

end SchedulerMetrics

def isLightweight : CommandType → Bool
  | .inspectProject | .healthCheck | .refreshRoute | .drainNode | .resumeNode => true
  | _ => false

/-! ### Tasks -/

/-- The number the task set gives a task. -/
abbrev TaskId : Type := Nat

/-- A cancellation token, by the number it was created under. -/
abbrev CancellationToken : Type := Nat

/-- How a task ended: with its pair of command and project, or with a join error. -/
inductive TaskOutcome where
  | completed | panicked | cancelled
deriving DecidableEq, Repr

/-- A task in the set. It stays there, finished or not, until it is joined. -/
structure CommandTask where
  commandId : Uuid
  projectId : Option Uuid
  /-- The type of the command the task was spawned for, and the token it was given. -/
  commandType : CommandType
  cancellation : CancellationToken
  aborted : Bool := false
  outcome : Option TaskOutcome := none
deriving DecidableEq

structure TaskMetadata where
  commandId : Uuid
  projectId : Option Uuid
  cancellation : CancellationToken
  lightweight : Bool
deriving DecidableEq

/-- What is recorded of a task when it is spawned. -/
def CommandTask.metadata (task : CommandTask) : TaskMetadata where
  commandId := task.commandId
  projectId := task.projectId
  cancellation := task.cancellation
  lightweight := isLightweight task.commandType

/-- Bounds active command work without creating queued tasks. -/
structure CommandExecutions where
  heavyLimit : Nat
  lightweightLimit : Nat
  activeHeavy : Nat
  activeLightweight : Nat
  activeProjects : Finset Uuid
  metrics : SchedulerMetrics
  taskMetadata : List (TaskId × TaskMetadata)
  tasks : List (TaskId × CommandTask)
  /-- The number the next spawned task gets, and the tokens that were cancelled. -/
  nextTaskId : TaskId
  cancelledTokens : Finset CancellationToken
deriving DecidableEq

namespace CommandExecutions

def new (limit : Nat) (metrics : SchedulerMetrics) : CommandExecutions where
  heavyLimit := limit
  lightweightLimit := 1
  activeHeavy := 0
  activeLightweight := 0
  activeProjects := ∅
  metrics := metrics
  taskMetadata := []
  tasks := []
  nextTaskId := 0
  cancelledTokens := ∅

def len (executions : CommandExecutions) : Nat :=
  executions.tasks.length

/-- A command that finds no free slot of its class, or its project busy, is not started. -/
def refuses (executions : CommandExecutions) (command : AgentCommand) : Bool :=
  let lightweight := isLightweight command.commandType
  (lightweight && decide (executions.lightweightLimit ≤ executions.activeLightweight)) ||
    (!lightweight && decide (executions.heavyLimit ≤ executions.activeHeavy)) ||
    command.projectId.any fun projectId => decide (projectId ∈ executions.activeProjects)

/-- The task that is spawned for a command. -/
def spawnedFor (command : AgentCommand) (cancellation : CancellationToken) : CommandTask where
  commandId := command.id
  projectId := command.projectId
  commandType := command.commandType
  cancellation := cancellation

/-- The set after a started command. -/
def started (executions : CommandExecutions) (command : AgentCommand)
    (cancellation : CancellationToken) : CommandExecutions :=
  let lightweight := isLightweight command.commandType
  let task := spawnedFor command cancellation
  { executions with
    activeProjects := executions.activeProjects ∪ command.projectId.toFinset
    activeLightweight := executions.activeLightweight + lightweight.toNat
    activeHeavy := executions.activeHeavy + (!lightweight).toNat
    metrics := executions.metrics.commandStarted
    tasks := executions.tasks ++ [(executions.nextTaskId, task)]
    taskMetadata := executions.taskMetadata ++ [(executions.nextTaskId, task.metadata)]
    nextTaskId := executions.nextTaskId + 1 }

def tryStart (executions : CommandExecutions) (command : AgentCommand)
    (cancellation : CancellationToken) : CommandExecutions × Bool :=
  if executions.refuses command then (executions, false)
  else (executions.started command cancellation, true)

/-- What a task held is given back: its project and its slot. -/
def releaseMetadata (executions : CommandExecutions) (task : TaskMetadata) : CommandExecutions :=
  { executions with
    activeProjects := executions.activeProjects \ task.projectId.toFinset
    activeLightweight := executions.activeLightweight - task.lightweight.toNat
    activeHeavy := executions.activeHeavy - (!task.lightweight).toNat
    metrics := executions.metrics.commandFinished }

/-- `task_metadata.remove`, and the release of what was found. -/
def releaseId (executions : CommandExecutions) (id : TaskId) : CommandExecutions :=
  match executions.taskMetadata.lookup id with
  | none => executions
  | some task =>
      { executions with
        taskMetadata := executions.taskMetadata.filter fun entry => entry.1 != id }.releaseMetadata
          task

/-- Every entry that carries the command id is released. -/
def releaseTask (executions : CommandExecutions) (commandId : Uuid) : CommandExecutions :=
  let taskIds := (executions.taskMetadata.filter fun entry => entry.2.commandId = commandId).map
    Prod.fst
  taskIds.foldl releaseId executions

/-- A joined task, on the path `reap_completed` takes. -/
def reapJoined (executions : CommandExecutions) (id : TaskId) (task : CommandTask) :
    CommandExecutions :=
  if task.outcome = some .completed then
    { executions with
      activeProjects := executions.activeProjects \ task.projectId.toFinset }.releaseTask
        task.commandId
  else executions.releaseId id

/-- A joined task, on the path `wait_for_tasks` takes. -/
def waitJoined (executions : CommandExecutions) (id : TaskId) (task : CommandTask) :
    CommandExecutions :=
  if task.outcome = some .completed then executions.releaseTask task.commandId
  else executions.releaseId id

/-- The task set hands out a finished task. -/
def join (executions : CommandExecutions) (id : TaskId) :
    Option (CommandTask × CommandExecutions) :=
  match executions.tasks.lookup id with
  | none => none
  | some task =>
      if task.outcome.isSome then
        some (task,
          { executions with tasks := executions.tasks.filter fun entry => entry.1 != id })
      else none

def anyFinished (executions : CommandExecutions) : Bool :=
  executions.tasks.any fun entry => entry.2.outcome.isSome

/-- The start of `cancel_and_wait`: the token of every entry is cancelled. -/
def cancelAll (executions : CommandExecutions) : CommandExecutions :=
  { executions with
    cancelledTokens := executions.cancelledTokens ∪
      (executions.taskMetadata.map fun entry => entry.2.cancellation).toFinset }

def abortAll (executions : CommandExecutions) : CommandExecutions :=
  { executions with
    tasks := executions.tasks.map fun entry => (entry.1, { entry.2 with aborted := true }) }

/-- A task reaches its end. Only an aborted task can end as cancelled. -/
def finish (executions : CommandExecutions) (id : TaskId) (outcome : TaskOutcome) :
    Option CommandExecutions :=
  match executions.tasks.lookup id with
  | none => none
  | some task =>
      if task.outcome = none ∧ (outcome = .cancelled → task.aborted) then
        some { executions with
          tasks := executions.tasks.map fun entry =>
            if entry.1 = id then (entry.1, { entry.2 with outcome := some outcome }) else entry }
      else none

end CommandExecutions

/-! ### The calls of the methods -/

/-- Which method is running. -/
inductive ExecutionsCall where
  | idle
  | reaping
  | waiting
  /-- `cancel_and_wait` before and after its grace period. -/
  | cancelling
  | aborting
deriving DecidableEq, Repr

inductive ExecutionsAction where
  | tryStart (command : AgentCommand) (cancellation : CancellationToken)
  | reapCompleted
  | waitForTasks
  | cancelAndWait
  /-- The running method joins a finished task. -/
  | join (id : TaskId)
  | graceElapsed
  /-- The running method finds no task to join and returns. -/
  | finished
  /-- A task ends. -/
  | taskEnded (id : TaskId) (outcome : TaskOutcome)

/-- The task set and the method that is running on it. -/
structure Calls where
  executions : CommandExecutions
  call : ExecutionsCall
deriving DecidableEq

namespace Calls

def new (limit : Nat) (metrics : SchedulerMetrics) : Calls where
  executions := .new limit metrics
  call := .idle

/-- One step of a running method, a call of the next one, or the end of a task. -/
def step (s : Calls) : ExecutionsAction → Option Calls
  | .tryStart command cancellation =>
      if s.call = .idle then
        some { s with executions := (s.executions.tryStart command cancellation).1 }
      else none
  | .reapCompleted => if s.call = .idle then some { s with call := .reaping } else none
  | .waitForTasks => if s.call = .idle then some { s with call := .waiting } else none
  | .cancelAndWait =>
      if s.call = .idle then
        some { executions := s.executions.cancelAll, call := .cancelling }
      else none
  | .join id =>
      match s.executions.join id with
      | none => none
      | some (task, executions) =>
          match s.call with
          | .idle => none
          | .reaping => some { s with executions := executions.reapJoined id task }
          | _ => some { s with executions := executions.waitJoined id task }
  | .graceElapsed =>
      if s.call = .cancelling then
        some { executions := s.executions.abortAll, call := .aborting }
      else none
  | .finished =>
      match s.call with
      | .idle => none
      | .reaping => if s.executions.anyFinished then none else some { s with call := .idle }
      | _ => if s.executions.len = 0 then some { s with call := .idle } else none
  | .taskEnded id outcome =>
      (s.executions.finish id outcome).map fun executions => { s with executions }

end Calls

end SakalaAgent
