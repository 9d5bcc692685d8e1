/-
Module: SakalaAgent.Runtime.Process
Layer: Runtime
Purpose: Running a process: its output is captured up to a bound, and its lines are passed on to the
  reporter of the command or dropped. The lines are passed on when the process has ended here, and
  one at a time as they are read in the code; what can be left in flight is the same.
Trusted boundary: none
Main exports: runProcess, runChecked, captured
-/
import SakalaAgent.Runtime.Surroundings

namespace SakalaAgent

open Async

def maxCaptureBytes : Nat := 1024 * 1024

/-- One line more, as far as it fits, and a line feed if there is room for it. -/
def appendBounded (output line : Text) : Text :=
  if maxCaptureBytes ≤ Text.byteLength output then output
  else
    let output := output ++ Text.takeBytes (maxCaptureBytes - Text.byteLength output) line
    if Text.byteLength output < maxCaptureBytes then output ++ ['\n'] else output

/-- The captured lines of one stream. -/
def captured (lines : List Text) : Text :=
  lines.foldl appendBounded []

structure ProcessOutput where
  success : Bool
  code : Option Int
  stdout : Text
  stderr : Text

/-- Where the lines of a process go: nowhere, or to the reporter under the name of a phase. -/
inductive OutputSink where
  | null
  | reporter (phase : String)
deriving DecidableEq, Repr

def ProcessStream.logStream : ProcessStream → LogStream
  | .stdout => .stdout
  | .stderr => .stderr

/-- The frames of one line of output. A line that is not delivered ends the line, not the process. -/
def reportFrames (phase : String) (stream : ProcessStream) : List Text → RuntimeM Unit
  | [] => return ()
  | frame :: frames =>
      let frame := Text.trimEnd frame
      if Text.isBlank frame then reportFrames phase stream frames
      else do
        let delivered : Except RuntimeExecutionError Unit ← Fallible.perform (I := Runtime)
          (.log { stream := stream.logStream, message := s!"[{phase}] {String.ofList frame}" })
        match delivered with
        | .ok _ => reportFrames phase stream frames
        | .error _ => return ()

/-- `line` of a sink. -/
def OutputSink.line (sink : OutputSink) (line : ProcessStream × Text) : RuntimeM Unit :=
  match sink with
  | .null => return ()
  | .reporter phase => reportFrames phase line.1 (Text.splitOn '\r' line.2)

def ProcessFailure.toError (program : String) : ProcessFailure → RuntimeError
  | .notStarted text => .dependency s!"could not start {program}: {text}"
  | .unreadable error => .filesystem error
  | .cancelled => .cancelled
  | .timedOut seconds => .timeout program seconds

/-- The lines of one stream. -/
def ProcessResult.streamLines (result : ProcessResult) (stream : ProcessStream) : List Text :=
  result.lines.filterMap fun line => if line.1 = stream then some line.2 else none

/-- `run` of the process runner. -/
def runProcess (spec : CommandSpec) (sink : OutputSink) : RuntimeM ProcessOutput := do
  let result : ProcessResult ← Fallible.perform (I := Runtime) (.process spec)
  forM result.lines sink.line
  match result.finish with
  | .error failure => throw (failure.toError spec.line.program)
  | .ok code =>
      return {
        success := result.success
        code := code
        stdout := captured (result.streamLines .stdout)
        stderr := captured (result.streamLines .stderr) }

def runChecked (spec : CommandSpec) (phase : String) : RuntimeM ProcessOutput := do
  let output ← runProcess spec (.reporter phase)
  if output.success then return output
  else throw (RuntimeError.failedProcess phase output.code output.stderr)

/-- `emit_event` of the executor. -/
def emitEvent (eventType message : String) (metadata : Json) : RuntimeM Unit := do
  let reported : Except RuntimeExecutionError Unit ← Fallible.perform (I := Runtime)
    (.event { eventType, level := .info, message, metadata })
  .ofExcept (reported.mapError RuntimeError.ofExecutionError)

/-- A warning of the executor in the logs of the command; nothing depends on its delivery. -/
def systemLog (message : String) : RuntimeM Unit := do
  let _ ← Fallible.perform (I := Runtime) (.log { stream := .system, message })
  return ()

/-- An error that is only logged. -/
def warnOnError (outcome : Except RuntimeError Unit) (warning : RuntimeError → String) :
    RuntimeM Unit :=
  match outcome with
  | .ok _ => return ()
  | .error error => systemLog (warning error)

/-- An action that is skipped unless a condition holds. -/
def onlyIf (condition : Bool) (action : RuntimeM Unit) : RuntimeM Unit :=
  if condition then action else return ()

/-- One operation on files; an error ends the future. -/
def fileOp (op : FsOp) : RuntimeM op.Value := do
  let res : op.Res ← Fallible.perform (I := Runtime) (.file op)
  .ofExcept (res.mapError RuntimeError.filesystem)

/-- One operation on files, with its error as a value. -/
def tryFileOp (op : FsOp) : RuntimeM op.Res :=
  Fallible.perform (I := Runtime) (.file op)

end SakalaAgent
