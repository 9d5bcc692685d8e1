/-
Module: SakalaAgent.Runtime.LogFollower
Layer: Runtime
Purpose: One log follower: the process runner reads the lines of `docker logs --follow` one at a time
  and passes each on to the sink, which logs its frames to the reporter of the deployment. Others use
  the reporter at the same time.
Trusted boundary: the process prints what it likes and ends when it likes; a runner whose future ends
  kills its process group.
Main exports: LogFollower, LogFollower.step, isReported
-/
import SakalaAgent.Core.Reporting.Reporter
import SakalaAgent.Runtime.Process

namespace SakalaAgent

open Async

/-- What is left of passing on one line. -/
abbrev SinkRest : Type := Prog Runtime (Except RuntimeError Unit)

/-- Where the task of a follower stands. -/
inductive FollowerPosition where
  /-- In the loop of `run`, at its select. -/
  | reading
  /-- In `line` of the sink. -/
  | passing (rest : SinkRest)
  /-- In `line` of the sink, waiting for a call of `log`. -/
  | logging (call : CallId) (next : Except RuntimeExecutionError Unit → SinkRest)
  /-- Both streams have ended; waiting for the exit status. -/
  | exiting
  | ended (outcome : Except RuntimeError Unit)

/-- A follower, its process, and the reporter it logs to. -/
structure LogFollower where
  reporter : Reporter
  isRunning : Bool := true
  isClosed : ProcessStream → Bool := fun _ => false
  position : FollowerPosition := .reading

inductive LogFollowerAction where
  /-- The reporter, or a call on it, takes a step. -/
  | reporter (action : Reporter.Action)
  /-- The process prints a line, which is read. -/
  | line (stream : ProcessStream) (text : Text)
  /-- The next step of the follower itself. -/
  | proceed
  | close (stream : ProcessStream)
  | unreadable (error : IoError)
  | exit
  /-- The follower is aborted by a shutdown. -/
  | abort

namespace LogFollower

/-- A follower that has just been started. -/
def start (redactLine : String → String) (logBounds : LogBounds) : LogFollower where
  reporter := .new redactLine logBounds

/-- The sink of a follower. -/
def sink : OutputSink :=
  .reporter "runtime"

/-- The runner returns; a process that still runs is killed. -/
def endWith (s : LogFollower) (outcome : Except RuntimeError Unit) : LogFollower :=
  { s with isRunning := false, position := .ended outcome }

/-- `sink.line(..).await?` in the loop of the runner. -/
def pass (s : LogFollower) : SinkRest → Option LogFollower
  | .ret (.ok _) => some { s with position := .reading }
  | .ret (.error error) => some (s.endWith (.error error))
  | .call (.log line) next =>
      some { s with
        reporter := s.reporter.spawn .log (.entered line)
        position := .logging s.reporter.nextCall next }
  -- a sink asks for nothing but calls of `log`
  | _ => none

/-- What the sink is told of a call of `log`. -/
def delivered (outcome : Except String Unit) : Except RuntimeExecutionError Unit :=
  outcome.mapError RuntimeExecutionError.reporting

def proceed (s : LogFollower) : Option LogFollower :=
  match s.position with
  | .reading =>
      if s.isClosed .stdout && s.isClosed .stderr then some { s with position := .exiting }
      else none
  | .passing rest => s.pass rest
  | .logging call next =>
      match s.reporter.calls call with
      | some ⟨_, .returned outcome⟩ => some { s with position := .passing (next (delivered outcome)) }
      | _ => none
  | .exiting => if s.isRunning then none else some (s.endWith (.ok ()))
  | .ended _ => none

/-- The calls of the follower are dropped with it only. -/
def ownsCall (s : LogFollower) (id : CallId) : Bool :=
  match s.position with
  | .logging call _ => call = id
  | _ => false

def step (s : LogFollower) : LogFollowerAction → Option LogFollower
  | .reporter (.drop id) =>
      if s.ownsCall id then none
      else (s.reporter.step (.drop id)).map fun reporter => { s with reporter }
  | .reporter action => (s.reporter.step action).map fun reporter => { s with reporter }
  | .line stream text =>
      match s.position with
      | .reading =>
          if s.isClosed stream then none
          else some { s with position := .passing (sink.line (stream, text)).run }
      | _ => none
  | .proceed => s.proceed
  | .close stream =>
      match s.position with
      | .reading => some { s with isClosed := Function.update s.isClosed stream true }
      | _ => none
  | .unreadable error =>
      match s.position with
      | .reading => some (s.endWith (.error (.filesystem error)))
      | _ => none
  | .exit => some { s with isRunning := false }
  | .abort =>
      match s.position with
      | .ended _ => none
      | _ => some (s.endWith (.error .cancelled))

end LogFollower

/-- A line that the sink has something to report of: a frame that is not blank. -/
def isReported (text : Text) : Bool :=
  (Text.splitOn '\r' text).any fun frame => !Text.isBlank (Text.trimEnd frame)

end SakalaAgent
