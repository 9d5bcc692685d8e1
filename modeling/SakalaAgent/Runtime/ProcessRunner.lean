/-
Module: SakalaAgent.Runtime.ProcessRunner
Layer: Runtime
Purpose: The process runner, one step at a time: it starts a process as the leader of a group, reads
  its lines as they come, passes each on to the sink, and waits until the process ends, its deadline
  passes or the request is cancelled. Whichever way it is left, its guard ends the group.
Trusted boundary: no process leaves the group it was started in; what has been sent the kill signal
  does not run any more; the pipes of a process that was started are there, and it can be waited for.
Main exports: ChildProcess, TokioProcessRunner, ProcessRun, ProcessRun.step
-/
import SakalaAgent.Runtime.Process

namespace SakalaAgent

open Async

/-! ### The process -/

/-- A process that was started, with the group it leads. -/
structure ChildProcess where
  /-- The exit status of the leader, once it has ended; a signal leaves none. -/
  status : Option (Option Int) := none
  /-- Others of the group are running. -/
  offspring : Bool := false
  /-- All lines that were written to a pipe. -/
  printed : ProcessStream → List Text := fun _ => []
  /-- Those of them that nobody has read. -/
  unread : ProcessStream → List Text := fun _ => []
  /-- Nobody writes to the pipe any more. -/
  isClosed : ProcessStream → Bool := fun _ => false

inductive ChildAction where
  | print (stream : ProcessStream) (line : Text)
  | fork
  | close (stream : ProcessStream)
  | exit (status : Option Int)
  /-- The others of the group end. -/
  | deserted

namespace ChildProcess

/-- Somebody of the group is running. -/
def runs (child : ChildProcess) : Bool :=
  child.status.isNone || child.offspring

/-- The pipes are closed behind the last of the group. -/
def settle (child : ChildProcess) : ChildProcess :=
  if child.runs then child else { child with isClosed := fun _ => true }

def step (child : ChildProcess) : ChildAction → Option ChildProcess
  | .print stream line =>
      if child.runs && !child.isClosed stream then
        some { child with
          printed := Function.update child.printed stream (child.printed stream ++ [line])
          unread := Function.update child.unread stream (child.unread stream ++ [line]) }
      else none
  | .fork => if child.runs then some { child with offspring := true } else none
  | .close stream =>
      if child.runs then
        some { child with isClosed := Function.update child.isClosed stream true }
      else none
  | .exit status =>
      if child.status.isNone then some { child with status := some status }.settle else none
  | .deserted => if child.offspring then some { child with offspring := false }.settle else none

/-- `kill` on the process itself. -/
def kill (child : ChildProcess) : ChildProcess :=
  { child with status := some (child.status.getD none) }.settle

/-- `killpg`. -/
def killGroup (child : ChildProcess) : ChildProcess :=
  { child with status := some (child.status.getD none), offspring := false }.settle

end ChildProcess

/-! ### The runner -/

/-- What a specification says of its deadline, in milliseconds. -/
structure ProcessTimeout where
  timeout : Option Nat := none
  timeoutDisabled : Bool := false

/-- The default is in milliseconds, too. -/
structure TokioProcessRunner where
  defaultTimeout : Nat := 120000

/-- The deadline of a run. -/
def TokioProcessRunner.timeout (runner : TokioProcessRunner) (asked : ProcessTimeout) :
    Option Nat :=
  if asked.timeoutDisabled then none else some (asked.timeout.getD runner.defaultTimeout)

/-- Where `run` stands. -/
inductive RunnerPosition where
  | spawning
  /-- In the loop, at its select. -/
  | reading
  /-- In `line` of the sink. -/
  | passing (line : ProcessStream × Text) (rest : Prog Runtime (Except RuntimeError Unit))
  /-- Both streams have ended; at the select for the exit status. -/
  | exiting
  /-- The group has been killed, and its leader is waited for. -/
  | reaping (failure : ProcessFailure)
  | ended (outcome : Except RuntimeError ProcessOutput)
  /-- The future was dropped where it waited. -/
  | dropped

/-- A call of `run`, with its process. -/
structure ProcessRun where
  spec : CommandSpec
  sink : OutputSink
  timeout : Option Nat
  position : RunnerPosition := .spawning
  child : Option ChildProcess := none
  /-- The guard of the process group still has its id. -/
  isArmed : Bool := false
  isDone : ProcessStream → Bool := fun _ => false
  captured : ProcessStream → Text := fun _ => []
  /-- The deadline has passed. -/
  isDue : Bool := false
  /-- The request is cancelled. -/
  isCancelled : Bool := false
  /-- What the sink has asked for, with the answers. -/
  reported : History Runtime := []

inductive ProcessRunAction where
  | child (action : ChildAction)
  | expire
  | cancel
  | spawn (outcome : Except String Unit)
  /-- `next_line` of a stream returns. -/
  | nextLine (stream : ProcessStream)
  | unreadable (stream : ProcessStream) (error : IoError)
  /-- A call of `log` of the sink returns. -/
  | logged (outcome : Except RuntimeExecutionError Unit)
  /-- `line` of the sink returns. -/
  | passed
  /-- Both streams have ended. -/
  | closed
  | exited
  | cancelled
  | timedOut
  | reaped
  /-- The future is dropped. -/
  | drop

namespace ProcessRun

def start (runner : TokioProcessRunner) (asked : ProcessTimeout) (spec : CommandSpec)
    (sink : OutputSink) : ProcessRun where
  spec := spec
  sink := sink
  timeout := runner.timeout asked

/-- `kill` of the guard: the id of the group is taken, so it is killed once. -/
def killGroup (s : ProcessRun) : ProcessRun :=
  { s with
    isArmed := false
    child := if s.isArmed then s.child.map ChildProcess.killGroup else s.child }

/-- The guard is dropped, and the child, which is killed on drop. -/
def release (s : ProcessRun) : ProcessRun :=
  { s.killGroup with child := s.killGroup.child.map ChildProcess.kill }

/-- `run` returns. -/
def endWith (s : ProcessRun) (outcome : Except RuntimeError ProcessOutput) : ProcessRun :=
  { s.release with position := .ended outcome }

def failWith (s : ProcessRun) (failure : ProcessFailure) : ProcessRun :=
  s.endWith (.error (failure.toError s.spec.line.program))

/-- At a select: the deadline and the cancellation are waited for, too. -/
def isSelecting (s : ProcessRun) : Bool :=
  match s.position with
  | .reading => !s.isDone .stdout || !s.isDone .stderr
  | .exiting => true
  | _ => false

/-- The branch of a select that ends the process. -/
def reap (s : ProcessRun) (failure : ProcessFailure) : ProcessRun :=
  { s.killGroup with position := .reaping failure }

/-- `next_line` returns a line, or the end of its stream. -/
def nextLine (s : ProcessRun) (stream : ProcessStream) : Option ProcessRun :=
  match s.position, s.child with
  | .reading, some child =>
      if s.isDone stream then none
      else
        match child.unread stream with
        | line :: unread =>
            some { s with
              child := some { child with unread := Function.update child.unread stream unread }
              position := .passing (stream, line) (s.sink.line (stream, line)).run }
        | [] =>
            if child.isClosed stream then
              some { s with isDone := Function.update s.isDone stream true }
            else none
  | _, _ => none

/-- `append_bounded` behind the sink. -/
def capture (s : ProcessRun) (line : ProcessStream × Text) : ProcessRun :=
  { s with
    captured := Function.update s.captured line.1 (appendBounded (s.captured line.1) line.2)
    position := .reading }

/-- The output of a process that has ended. -/
def output (s : ProcessRun) (status : Option Int) : ProcessOutput where
  success := status = some 0
  code := status
  stdout := s.captured .stdout
  stderr := s.captured .stderr

/-- The step of the runner behind an event. -/
def runnerStep (s : ProcessRun) : ProcessRunAction → Option ProcessRun
  | .spawn outcome =>
      match s.position, outcome with
      | .spawning, .ok _ => some { s with child := some {}, isArmed := true, position := .reading }
      | .spawning, .error text => some (s.failWith (.notStarted text))
      | _, _ => none
  | .nextLine stream => s.nextLine stream
  | .unreadable stream error =>
      match s.position with
      | .reading => if s.isDone stream then none else some (s.failWith (.unreadable error))
      | _ => none
  | .logged outcome =>
      match s.position with
      -- a sink asks for nothing but calls of `log`
      | .passing line (.call (.log log) next) =>
          some { s with
            reported := s.reported ++ [.done (.log log) outcome]
            position := .passing line (next outcome) }
      | _ => none
  | .passed =>
      match s.position with
      | .passing line (.ret (.ok _)) => some (s.capture line)
      | .passing _ (.ret (.error error)) => some (s.endWith (.error error))
      | _ => none
  | .closed =>
      match s.position with
      | .reading =>
          if s.isDone .stdout && s.isDone .stderr then some { s with position := .exiting } else none
      | _ => none
  | .exited =>
      match s.position, s.child.bind ChildProcess.status with
      | .exiting, some status => some ({ s with isArmed := false }.endWith (.ok (s.output status)))
      | _, _ => none
  | .cancelled =>
      if s.isSelecting && s.spec.cancellable && s.isCancelled then some (s.reap .cancelled) else none
  | .timedOut =>
      match s.timeout with
      | some timeout =>
          if s.isSelecting && s.isDue then some (s.reap (.timedOut (timeout / 1000))) else none
      | none => none
  | .reaped =>
      match s.position with
      | .reaping failure =>
          -- `kill` and `wait` of the leader, which has been killed with its group
          some ({ s with child := s.child.map ChildProcess.kill }.failWith failure)
      | _ => none
  | .drop =>
      match s.position with
      | .ended _ | .dropped => none
      | _ => some { s.release with position := .dropped }
  | _ => none

def step (s : ProcessRun) : ProcessRunAction → Option ProcessRun
  | .child action =>
      (s.child.bind (·.step action)).map fun child => { s with child := some child }
  | .expire => if s.timeout.isSome && s.child.isSome then some { s with isDue := true } else none
  | .cancel => some { s with isCancelled := true }
  | action => s.runnerStep action

end ProcessRun

end SakalaAgent
