/-
Module: SakalaAgent.Core.Reporting.Reporter
Layer: Core
Purpose: Batched log delivery. One reporter is shared by any number of callers of `log` and `flush`
  and by the timer tasks it spawns itself; each of them is a call with a position of its own. A
  section under the state mutex has no await in it and is one step; every await is a position at
  which others run, and at which a caller's future may be dropped.
Trusted boundary: a mutex has one holder, who gives it back when his future ends or is dropped; a
  spawned timer task is never dropped; the redaction of a line is a parameter.
Main exports: boundedLog, Reporter, Reporter.step
-/
import SakalaAgent.Protocol.Commands
import SakalaAgent.Text.Chars
import Mathlib.Logic.Function.Basic

namespace SakalaAgent

/-- Local ceiling for lines per log request. -/
def defaultBatchLines : Nat := 100

/-- Local ceiling for message bytes per log request. -/
def maxBatchBytes : Nat := 512 * 1024

/-! ### Bounding one line -/

/-- Collapses the control characters a log message may not contain. -/
def sanitiseLine (value : String) : String :=
  String.ofList (Text.trimEnd (value.toList.map fun character =>
    if character = '\r' ∨ character = '\n' then ' ' else character))

def truncateUtf8 (value : String) : Option Nat → String
  | none => value
  | some maximum => String.ofList (Text.takeBytes maximum value.toList)

/-- The number of bytes of the message of a line. -/
def DeploymentLog.byteCount (log : DeploymentLog) : Nat :=
  Text.byteLength log.message.toList

/-- The line as it is queued, if the bounds leave anything of it. -/
def boundedLog (redactLine : String → String) (log : DeploymentLog) (bounds : LogBounds)
    (sent : Nat) : Option DeploymentLog :=
  if bounds.maxBatchLines = some 0 then none
  else
    let message := truncateUtf8 (sanitiseLine (redactLine log.message))
      (bounds.maxLineLength.map UInt64.toNat)
    match bounds.maxTotalBytes.map UInt64.toNat with
    | none => if message.isEmpty then none else some { log with message }
    | some maximum =>
        if maximum ≤ sent then none
        else
          let message := truncateUtf8 message (some (maximum - sent))
          if message.isEmpty then none else some { log with message }

/-! ### Shared state -/

structure LogState where
  pending : List DeploymentLog := []
  pendingBytes : Nat := 0
  bytesSent : Nat := 0
  deliveryStopped : Option String := none
deriving DecidableEq

/-- A call, or a timer task, by its number. -/
abbrev CallId : Type := Nat

/-- Who runs: a caller of `log`, a caller of `flush` (with the number of lines accepted when it was
called), or a timer task. -/
inductive Caller where
  | log
  | flush (acceptedBefore : Nat)
  | timer
deriving DecidableEq

/-- Where a call stands. -/
inductive CallPosition where
  /-- In `log`, before the state mutex. -/
  | entered (log : DeploymentLog)
  /-- In `log`, behind the section that accepted the line; there is no await in between. -/
  | accepted (flushNow : Bool)
  /-- A timer task before its interval has elapsed. -/
  | sleeping
  /-- In `flush_pending`, before the flush mutex. -/
  | queued
  /-- In the loop of `flush_pending`, before the state mutex. -/
  | draining
  /-- Waiting for the answer to the request that carries the batch. -/
  | sending (batch : List DeploymentLog)
  /-- The request has failed; before the state mutex. -/
  | latching (batch : List DeploymentLog) (reason : String)
  | returned (outcome : Except String Unit)

structure Call where
  caller : Caller
  position : CallPosition

/-- One reporter, the calls on it, and three records no code reads: the lines that were accepted,
the batches handed to `client.logs`, and the lines whose request was acknowledged. -/
structure Reporter where
  redactLine : String → String
  logBounds : LogBounds
  state : LogState := {}
  flushLock : Option CallId := none
  flushScheduled : Bool := false
  calls : CallId → Option Call := fun _ => none
  nextCall : CallId := 0
  acceptedLines : List DeploymentLog := []
  handed : List (List DeploymentLog) := []
  acknowledged : List DeploymentLog := []

namespace Reporter

/-- The policy of the control plane can only lower the local ceiling; a batch has a line. -/
def batchMaxLines (s : Reporter) : Nat :=
  max 1 (match s.logBounds.maxBatchLines with
    | none => defaultBatchLines
    | some lines => min lines.toNat defaultBatchLines)

def new (redactLine : String → String) (logBounds : LogBounds) : Reporter where
  redactLine := redactLine
  logBounds := logBounds

/-- How many of the pending lines fill one batch, and the bytes they take. -/
def fillBatch (maxLines : Nat) : List DeploymentLog → Nat → Nat → Nat × Nat
  | [], count, bytes => (count, bytes)
  | log :: rest, count, bytes =>
      if 0 < count ∧ (maxLines ≤ count ∨ maxBatchBytes < bytes + log.byteCount) then (count, bytes)
      else fillBatch maxLines rest (count + 1) (bytes + log.byteCount)

/-- The call moves on. -/
def moveTo (s : Reporter) (id : CallId) (caller : Caller) (position : CallPosition) : Reporter :=
  { s with calls := Function.update s.calls id (some { caller, position }) }

/-- The call returns; a flush mutex it holds is given back. -/
def returnWith (s : Reporter) (id : CallId) (caller : Caller) (outcome : Except String Unit) :
    Reporter :=
  { s.moveTo id caller (.returned outcome) with
    flushLock := if s.flushLock = some id then none else s.flushLock }

/-- A new call. -/
def spawn (s : Reporter) (caller : Caller) (position : CallPosition) : Reporter :=
  { s.moveTo s.nextCall caller position with nextCall := s.nextCall + 1 }

/-- The section of `log` under the state mutex. -/
def accept (s : Reporter) (id : CallId) (log : DeploymentLog) : Reporter :=
  match s.state.deliveryStopped with
  | some reason => s.returnWith id .log (.error s!"log delivery stopped: {reason}")
  | none =>
      match boundedLog s.redactLine log s.logBounds s.state.bytesSent with
      | none => s.returnWith id .log (.ok ())
      | some log =>
          let pending := s.state.pending ++ [log]
          let pendingBytes := s.state.pendingBytes + log.byteCount
          { s.moveTo id .log (.accepted
              (decide (s.batchMaxLines ≤ pending.length ∨ maxBatchBytes ≤ pendingBytes))) with
            state :=
              { s.state with
                bytesSent := s.state.bytesSent + log.byteCount
                pendingBytes := pendingBytes
                pending := pending }
            acceptedLines := s.acceptedLines ++ [log] }

/-- `schedule_flush`: the first to set the flag spawns a timer task. -/
def scheduleFlush (s : Reporter) : Reporter :=
  if s.flushScheduled then s else { s.spawn .timer .sleeping with flushScheduled := true }

/-- The flush mutex is taken. -/
def acquire (s : Reporter) (id : CallId) (caller : Caller) : Reporter :=
  { s.moveTo id caller .draining with flushLock := some id }

/-- The section of `flush_pending` that takes the next batch. -/
def drain (s : Reporter) (id : CallId) (caller : Caller) : Reporter :=
  match s.state.deliveryStopped with
  | some reason => s.returnWith id caller (.error s!"log delivery stopped: {reason}")
  | none =>
      if s.state.pending.isEmpty then s.returnWith id caller (.ok ())
      else
        let (count, bytes) := fillBatch s.batchMaxLines s.state.pending 0 0
        let batch := s.state.pending.take count
        { s.moveTo id caller (.sending batch) with
          state :=
            { s.state with
              pendingBytes := s.state.pendingBytes - bytes
              pending := s.state.pending.drop count }
          handed := s.handed ++ [batch] }

/-- The request of a batch is acknowledged. -/
def acknowledge (s : Reporter) (id : CallId) (caller : Caller) (batch : List DeploymentLog) :
    Reporter :=
  { s.moveTo id caller .draining with acknowledged := s.acknowledged ++ batch }

/-- The section that stops the delivery. -/
def latch (s : Reporter) (id : CallId) (caller : Caller) (reason : String) : Reporter :=
  { s.returnWith id caller (.error s!"log delivery stopped: {reason}") with
    state :=
      { s.state with
        pending := []
        pendingBytes := 0
        deliveryStopped := some reason } }

/-- The next step of a call that waits for nothing but its turn. -/
def proceed (s : Reporter) (id : CallId) (call : Call) : Option Reporter :=
  match call.position with
  | .entered log => some (s.accept id log)
  | .accepted true => some (s.moveTo id .log .queued)
  | .accepted false => some (s.scheduleFlush.returnWith id .log (.ok ()))
  | .sleeping => some { s.moveTo id .timer .queued with flushScheduled := false }
  | .queued => if s.flushLock = none then some (s.acquire id call.caller) else none
  | .draining => some (s.drain id call.caller)
  | .sending _ => none
  | .latching _ reason => some (s.latch id call.caller reason)
  | .returned _ => none

/-- The answer to the request of a call: `none` is an acknowledgement. -/
def answer (s : Reporter) (id : CallId) (call : Call) (failure : Option String) :
    Option Reporter :=
  match call.position, failure with
  | .sending batch, none => some (s.acknowledge id call.caller batch)
  | .sending batch, some reason => some (s.moveTo id call.caller (.latching batch reason))
  | _, _ => none

/-- The awaits of a caller's future. -/
def CallPosition.awaits : CallPosition → Bool
  | .entered _ | .queued | .draining | .sending _ | .latching _ _ => true
  | .accepted _ | .sleeping | .returned _ => false

/-- A caller's future is dropped at one of its awaits. -/
def dropCall (s : Reporter) (id : CallId) (call : Call) : Option Reporter :=
  if call.caller ≠ .timer ∧ CallPosition.awaits call.position then
    some
      { s with
        calls := Function.update s.calls id none
        flushLock := if s.flushLock = some id then none else s.flushLock }
  else none

inductive Action where
  | log (log : DeploymentLog)
  | flush
  | proceed (id : CallId)
  | answer (id : CallId) (failure : Option String)
  | drop (id : CallId)

def step (s : Reporter) : Action → Option Reporter
  | .log log => some (s.spawn .log (.entered log))
  | .flush => some (s.spawn (.flush s.acceptedLines.length) .queued)
  | .proceed id => (s.calls id).bind fun call => s.proceed id call
  | .answer id failure => (s.calls id).bind fun call => s.answer id call failure
  | .drop id => (s.calls id).bind fun call => s.dropCall id call

end Reporter

end SakalaAgent
