/-
Module: SakalaAgent.Core.Api.Exchange
Layer: Core
Purpose: A call of the client together with the control plane it talks to. Requests and responses can
  be lost or late: a request may be handled long after the client has given it up. The loop of the
  client is taken apart into one step for each of its awaits.
Trusted boundary: what the control plane stores and answers is its documented contract; an answer
  that does not follow from it is one that was lost or replaced on the way.
Main exports: ReportExchange, ReportExchange.step, TerminalExchange, TerminalExchange.step
-/
import SakalaAgent.Core.Api.Client
import SakalaAgent.Transition.Runs

namespace SakalaAgent

/-- Where the loop of a request stands. -/
inductive AttemptPosition (α : Type) where
  /-- About to send. -/
  | ready
  | waiting
  /-- Behind a transient outcome, before the next attempt. -/
  | pausing
  | returned (outcome : Except CoreError α)

/-! ### Reports -/

section Report

variable {α : Type}

/-- An item as the control plane keeps it. -/
structure StoredItem (α : Type) where
  key : Uuid
  index : Nat
  item : α
deriving DecidableEq

/-- A request that was sent. -/
structure ReportRequest (α : Type) where
  key : Uuid
  items : List α

/-- One call of `report`, the requests it has sent, what they led to, and the items the control plane
has stored, its own and those of others. -/
structure ReportExchange (α : Type) where
  client : ApiClient
  idempotencyKey : Uuid
  items : List α
  attempt : Nat := 0
  position : AttemptPosition ReportAcknowledgement := .ready
  requests : List (ReportRequest α) := []
  outcomes : List HttpOutcome := []
  stored : List (StoredItem α)

/-- At most once for each key and index. -/
def persist (stored : List (StoredItem α)) (entry : StoredItem α) : List (StoredItem α) :=
  if stored.any fun other => other.key = entry.key ∧ other.index = entry.index then stored
  else stored ++ [entry]

/-- A response that tells the client that all its items are stored. -/
def acknowledges (decoder : ResponseDecoder) (itemCount : Nat) : HttpOutcome → Bool
  | .error _ => false
  | .ok response =>
      response.status = 204 || (response.status = 200 &&
        match response.json decoder.acknowledgement with
        | .error _ => false
        | .ok acknowledgement => acknowledgement.acceptedCount.toNat = itemCount)

inductive ReportAction (α : Type) where
  /-- The client goes on. -/
  | proceed
  /-- What the attempt the client waits for leads to. -/
  | answer (outcome : HttpOutcome)
  /-- The control plane handles one item of a request that was sent. -/
  | store (request index : Nat)
  /-- It stores an item of another call. -/
  | foreign (entry : StoredItem α)

namespace ReportExchange

def start (client : ApiClient) (idempotencyKey : Uuid) (items : List α)
    (stored : List (StoredItem α)) : ReportExchange α where
  client := client
  idempotencyKey := idempotencyKey
  items := items
  stored := stored

/-- All items of the call are stored. -/
def AllStored (s : ReportExchange α) : Prop :=
  ∀ index, ∀ below : index < s.items.length,
    (⟨s.idempotencyKey, index, s.items[index]⟩ : StoredItem α) ∈ s.stored

instance [DecidableEq α] (s : ReportExchange α) : Decidable s.AllStored :=
  inferInstanceAs (Decidable (∀ index, ∀ _ : index < s.items.length, _))

def proceed (s : ReportExchange α) : Option (ReportExchange α) :=
  match s.position with
  | .ready =>
      some { s with
        requests := s.requests ++ [⟨s.idempotencyKey, s.items⟩]
        position := .waiting }
  | .pausing => some { s with attempt := s.attempt + 1, position := .ready }
  | .waiting | .returned _ => none

/-- The outcome of an attempt, as the loop takes it. -/
def settle (s : ReportExchange α) (outcome : HttpOutcome) : ReportExchange α :=
  { s with
    outcomes := s.outcomes ++ [outcome]
    position :=
      match s.client.reportAttempt s.items.length outcome with
      | .inl result => .returned result
      | .inr transient =>
          if s.client.attempts ≤ s.attempt + 1 then
            .returned (.error (.invalidReportAcknowledgement
              s!"report not acknowledged after {s.client.attempts} attempts: {transient}"))
          else .pausing }

def step [DecidableEq α] (s : ReportExchange α) : ReportAction α → Option (ReportExchange α)
  | .proceed => s.proceed
  | .answer outcome =>
      match s.position with
      | .waiting =>
          -- the control plane acknowledges what it has stored, and nothing else
          if acknowledges s.client.decoder s.items.length outcome ∧ ¬s.AllStored then none
          else some (s.settle outcome)
      | _ => none
  | .store request index =>
      match s.requests[request]? with
      | none => none
      | some request =>
          match request.items[index]? with
          | none => none
          | some item => some { s with stored := persist s.stored ⟨request.key, index, item⟩ }
  | .foreign entry =>
      if entry.key = s.idempotencyKey then none
      else some { s with stored := persist s.stored entry }

end ReportExchange

end Report

/-! ### Terminal transitions -/

/-- The two calls that end a command. -/
inductive TerminalCall where
  | complete | fail
deriving DecidableEq, Repr

def TerminalCall.expected : TerminalCall → CommandStatus
  | .complete => .succeeded
  | .fail => .failed

def CommandStatus.isTerminal : CommandStatus → Bool
  | .succeeded | .failed | .cancelled | .expired => true
  | .pending | .claimed | .running => false

/-- How the control plane answers a request it has handled. -/
inductive TerminalReply where
  /-- The transition was made, or had been made before. -/
  | accepted
  | conflict (stored : CommandStatus)
deriving DecidableEq, Repr

/-- One call of `complete` or `fail`, the number of requests it has sent, what they led to, the
replies of the control plane by the number of the request, and the status it has stored. -/
structure TerminalExchange where
  client : ApiClient
  call : TerminalCall
  attempt : Nat := 0
  position : AttemptPosition Unit := .ready
  sent : Nat := 0
  outcomes : List HttpOutcome := []
  replies : List (Nat × TerminalReply) := []
  status : CommandStatus

/-- A reply as it arrives, if it arrives. -/
def TerminalReply.arrivesAs (decoder : ResponseDecoder) (reply : TerminalReply) :
    HttpOutcome → Bool
  | .error _ => false
  | .ok response =>
      match reply with
      | .accepted => 200 ≤ response.status && response.status < 300
      | .conflict stored =>
          response.status = 409 &&
            match response.json decoder.terminalConflict with
            | .error _ => true
            | .ok payload => payload.status = stored

/-- A request or a response is lost, or answered on behalf of the control plane. -/
def lostOrReplaced : HttpOutcome → Bool
  | .error _ => true
  | .ok response => isRetryableStatus response.status

inductive TerminalAction where
  | proceed
  | answer (outcome : HttpOutcome)
  /-- The control plane handles a request that was sent, and picks one of two answers to a
  repetition. -/
  | handle (request : Nat) (repeatConflicts : Bool)
  /-- Someone else moves the command on, or ends it. -/
  | foreign (status : CommandStatus)

/-- What follows `send_with_retry` in `post_terminal`. -/
def ApiClient.terminalOutcome (client : ApiClient) (expected : CommandStatus)
    (outcome : HttpOutcome) : Except CoreError Unit := do
  let response ← outcome.mapError .api
  if response.status ≠ 409 then
    let _ ← response.errorForStatus
    return ()
  match response.json client.decoder.terminalConflict with
  | .error error => throw (.api error)
  | .ok terminal =>
      if terminal.status = expected then
        return ()
      throw (.commandTerminalConflict (match terminal.terminalAt with
        | some terminalAt => s!"{terminal.status.debugText} at {terminalAt}"
        | none => terminal.status.debugText))

namespace TerminalExchange

def start (client : ApiClient) (call : TerminalCall) (status : CommandStatus) :
    TerminalExchange where
  client := client
  call := call
  status := status

def expected (s : TerminalExchange) : CommandStatus :=
  s.call.expected

def proceed (s : TerminalExchange) : Option TerminalExchange :=
  match s.position with
  | .ready => some { s with sent := s.sent + 1, position := .waiting }
  | .pausing => some { s with attempt := s.attempt + 1, position := .ready }
  | .waiting | .returned _ => none

/-- The first terminal transition wins. -/
def handle (s : TerminalExchange) (request : Nat) (repeatConflicts : Bool) : TerminalExchange :=
  if s.status.isTerminal then
    { s with
      replies := s.replies ++ [(request,
        if s.status = s.expected ∧ ¬repeatConflicts then .accepted else .conflict s.status)] }
  else { s with status := s.expected, replies := s.replies ++ [(request, .accepted)] }

def settle (s : TerminalExchange) (outcome : HttpOutcome) : TerminalExchange :=
  { s with
    outcomes := s.outcomes ++ [outcome]
    position :=
      if ¬ApiClient.isRetryable outcome ∨ s.client.attempts ≤ s.attempt + 1 then
        .returned (s.client.terminalOutcome s.expected outcome)
      else .pausing }

/-- The outcome is lost or replaced, or a reply to the request the client waits for. -/
def admits (s : TerminalExchange) (outcome : HttpOutcome) : Bool :=
  lostOrReplaced outcome || s.replies.any fun entry =>
    entry.1 = s.attempt && entry.2.arrivesAs s.client.decoder outcome

def step (s : TerminalExchange) : TerminalAction → Option TerminalExchange
  | .proceed => s.proceed
  | .answer outcome =>
      match s.position with
      | .waiting => if s.admits outcome then some (s.settle outcome) else none
      | _ => none
  | .handle request repeatConflicts =>
      if request < s.sent then some (s.handle request repeatConflicts) else none
  | .foreign status => if s.status.isTerminal then none else some { s with status }

end TerminalExchange

end SakalaAgent
