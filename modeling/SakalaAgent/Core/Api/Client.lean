/-
Module: SakalaAgent.Core.Api.Client
Layer: Core
Purpose: What the client of the control plane makes of its responses. A request that is retried is
  answered by a sequence of responses, one for each attempt; each function here reads as much of the
  sequence as the code does. Delays and headers are left out.
Trusted boundary: the decoding of response bodies and the texts of the HTTP library are parameters.
Main exports: CoreError, ApiClient, ApiClient.claimOutcome, ApiClient.report,
  ApiClient.postTerminal, FailCommandPayload
-/
import SakalaAgent.Core.Ports
import SakalaAgent.Text.Chars

namespace SakalaAgent

/-! ### Errors -/

/-- An error of the HTTP library: on the way, for the status, or for a body that does not decode. -/
inductive HttpError where
  | transport (retryable : Bool) (text : String)
  | status (code : Nat)
  | decode (text : String)
deriving DecidableEq, Repr

inductive CoreError where
  | invalidConfiguration (text : String)
  | api (error : HttpError)
  | commandNotClaimable
  | commandTerminalConflict (text : String)
  | reportRejected (status : Nat) (detail : String)
  | invalidReportAcknowledgement (text : String)
  | runtime (error : RuntimeExecutionError)
deriving DecidableEq, Repr

/-! ### Responses -/

/-- A response whose status has arrived; reading its body may still fail. -/
structure HttpResponse where
  status : Nat
  body : Except HttpError String

/-- What one attempt leads to. -/
abbrev HttpOutcome : Type := Except HttpError HttpResponse

/-- What the attempts of one request lead to, by their number. -/
abbrev Responses : Type := Nat → HttpOutcome

/-- Acknowledgement returned by the batch report endpoints. -/
structure ReportAcknowledgement where
  acceptedCount : UInt64 := 0
  duplicateCount : UInt64 := 0
  firstSequence : UInt64 := 0
  lastSequence : UInt64 := 0
deriving DecidableEq, Repr

structure TerminalConflictPayload where
  status : CommandStatus
  terminalAt : Option String

structure ConflictPayload where
  status : Option CommandStatus
  terminalAt : Option String
  message : Option String

structure RepositoryCredentialLeasePayload where
  username : String
  token : String

/-- How bodies are decoded, and the texts of the errors of the HTTP library. -/
structure ResponseDecoder where
  acknowledgement : String → Except String ReportAcknowledgement
  terminalConflict : String → Except String TerminalConflictPayload
  conflict : String → Except String ConflictPayload
  rejection : String → Except String (Option String)
  credentialLease : String → Except String RepositoryCredentialLeasePayload
  errorText : HttpError → String

/-- The names of the states as they are printed. -/
def CommandStatus.debugText : CommandStatus → String
  | .pending => "Pending"
  | .claimed => "Claimed"
  | .running => "Running"
  | .succeeded => "Succeeded"
  | .failed => "Failed"
  | .cancelled => "Cancelled"
  | .expired => "Expired"

def ReportAcknowledgement.debugText (acknowledgement : ReportAcknowledgement) : String :=
  "ReportAcknowledgement \x7b accepted_count: " ++ toString acknowledgement.acceptedCount ++
    ", duplicate_count: " ++ toString acknowledgement.duplicateCount ++
    ", first_sequence: " ++ toString acknowledgement.firstSequence ++
    ", last_sequence: " ++ toString acknowledgement.lastSequence ++ " \x7d"

def isRetryableStatus (status : Nat) : Bool :=
  (500 ≤ status ∧ status < 600) ∨ status = 408 ∨ status = 429

def HttpError.isRetryableTransportError : HttpError → Bool
  | .transport retryable _ => retryable
  | .status _ => false
  | .decode _ => false

/-- `error_for_status`. -/
def HttpResponse.errorForStatus (response : HttpResponse) : Except CoreError HttpResponse :=
  if 400 ≤ response.status ∧ response.status < 600 then .error (.api (.status response.status))
  else .ok response

/-- `response.json()`: the body read and decoded. -/
def HttpResponse.json {α : Type} (response : HttpResponse) (decode : String → Except String α) :
    Except HttpError α :=
  match response.body with
  | .error error => .error error
  | .ok body =>
      match decode body with
      | .error text => .error (.decode text)
      | .ok value => .ok value

/-! ### The client -/

/-- The client, as far as its answers depend on it: how often it tries, and how it decodes. -/
structure ApiClient where
  maxAttempts : UInt32
  decoder : ResponseDecoder

namespace ApiClient

def attempts (client : ApiClient) : Nat :=
  max client.maxAttempts.toNat 1

def errorText (client : ApiClient) : CoreError → String
  | .invalidConfiguration text => s!"invalid agent configuration: {text}"
  | .api error => s!"control-plane API request failed: {client.decoder.errorText error}"
  | .commandNotClaimable => "control-plane command is no longer claimable"
  | .commandTerminalConflict text =>
      s!"control-plane command already reached incompatible terminal state: {text}"
  | .reportRejected status detail =>
      s!"control-plane rejected report with HTTP {status}: {detail}"
  | .invalidReportAcknowledgement text =>
      s!"control-plane report acknowledgement is invalid: {text}"
  | .runtime error => s!"runtime execution failed: {error.message}"

/-- `claim` is not retried: only the first attempt is made. -/
def claimOutcome (responses : Responses) : Except CoreError Unit :=
  match responses 0 with
  | .error error => .error (.api error)
  | .ok response =>
      if response.status = 409 then .error .commandNotClaimable
      else response.errorForStatus.map fun _ => ()

def conflictDetail (client : ApiClient) (response : HttpResponse) : String :=
  match response.json client.decoder.conflict with
  | .ok { status := some status, terminalAt := some terminalAt, .. } =>
      s!"command is {status.debugText} at {terminalAt}"
  | .ok { status := some status, .. } => s!"command is {status.debugText}"
  | .ok { message := some message, .. } => message
  | _ => "command conflict"

def rejectionDetail (client : ApiClient) (response : HttpResponse) : String :=
  match response.json client.decoder.rejection with
  | .ok (some message) => message
  | _ => "report rejected by control plane"

/-- An acknowledgement has to account for every item of the batch. -/
def checkAcknowledgement (acknowledgement : ReportAcknowledgement) (itemCount : Nat) :
    Except CoreError ReportAcknowledgement :=
  if acknowledgement.acceptedCount.toNat ≠ itemCount then
    .error (.invalidReportAcknowledgement
      s!"acknowledgement accepted {acknowledgement.acceptedCount} of {itemCount} items: {acknowledgement.debugText}")
  else if acknowledgement.acceptedCount < acknowledgement.duplicateCount ∨
      acknowledgement.lastSequence < acknowledgement.firstSequence then
    .error (.invalidReportAcknowledgement
      s!"acknowledgement counters are inconsistent: {acknowledgement.debugText}")
  else .ok acknowledgement

def reportOutcome (client : ApiClient) (response : HttpResponse) (itemCount : Nat) :
    Except CoreError ReportAcknowledgement := do
  if response.status = 409 then
    throw (.reportRejected response.status (client.conflictDetail response))
  if response.status = 422 ∨ response.status = 413 then
    throw (.reportRejected response.status (client.rejectionDetail response))
  let response ← response.errorForStatus
  if response.status = 204 then
    return {}
  if response.status ≠ 200 then
    throw (.invalidReportAcknowledgement s!"unexpected HTTP {response.status} for report")
  match response.body with
  | .error error => throw (.api error)
  | .ok body =>
      match client.decoder.acknowledgement body with
      | .error error =>
          throw (.invalidReportAcknowledgement
            s!"acknowledgement body does not match the contract: {error}")
      | .ok acknowledgement => checkAcknowledgement acknowledgement itemCount

/-- One attempt of a report: its outcome, or the text of a transient error. -/
def reportAttempt (client : ApiClient) (itemCount : Nat) :
    HttpOutcome → Except CoreError ReportAcknowledgement ⊕ String
  | .ok response =>
      if isRetryableStatus response.status then .inr s!"HTTP {response.status}"
      else
        match client.reportOutcome response itemCount with
        | .ok acknowledgement => .inl (.ok acknowledgement)
        | .error (.api error) =>
            if error.isRetryableTransportError then .inr (client.decoder.errorText error)
            else .inl (.error (.api error))
        | .error error => .inl (.error error)
  | .error error =>
      if error.isRetryableTransportError then .inr (client.decoder.errorText error)
      else .inl (.error (.api error))

/-- The loop of `report`, with the number of attempts that are left after this one. -/
def reportFrom (client : ApiClient) (itemCount : Nat) (responses : Responses) (attempt : Nat) :
    Nat → Except CoreError ReportAcknowledgement
  | 0 =>
      match client.reportAttempt itemCount (responses attempt) with
      | .inl outcome => outcome
      | .inr transient =>
          .error (.invalidReportAcknowledgement
            s!"report not acknowledged after {client.attempts} attempts: {transient}")
  | left + 1 =>
      match client.reportAttempt itemCount (responses attempt) with
      | .inl outcome => outcome
      | .inr _ => reportFrom client itemCount responses (attempt + 1) left

/-- One report batch under one idempotency key. -/
def report (client : ApiClient) (itemCount : Nat) (responses : Responses) :
    Except CoreError ReportAcknowledgement :=
  client.reportFrom itemCount responses 0 (client.attempts - 1)

/-- Whether `send_with_retry` tries again after this outcome, if it may. -/
def isRetryable : HttpOutcome → Bool
  | .ok response => isRetryableStatus response.status
  | .error error => error.isRetryableTransportError

/-- The loop of `send_with_retry`, with the number of attempts that are left after this one. -/
def sendFrom (responses : Responses) (attempt : Nat) : Nat → Except CoreError HttpResponse
  | 0 => (responses attempt).mapError .api
  | left + 1 =>
      if isRetryable (responses attempt) then sendFrom responses (attempt + 1) left
      else (responses attempt).mapError .api

def sendWithRetry (client : ApiClient) (responses : Responses) : Except CoreError HttpResponse :=
  sendFrom responses 0 (client.attempts - 1)

/-- A terminal transition; a conflict with the expected state counts as a repetition. -/
def postTerminal (client : ApiClient) (expected : CommandStatus) (responses : Responses) :
    Except CoreError Unit := do
  let response ← client.sendWithRetry responses
  if response.status ≠ 409 then
    let _ ← response.errorForStatus
    return ()
  match response.json client.decoder.terminalConflict with
  | .error error => throw (.api error)
  | .ok terminal =>
      if terminal.status = expected then
        return ()
      throw (.commandTerminalConflict (match terminal.terminalAt with
        | some terminalAt => s!"{terminal.status.debugText} at {terminalAt}"
        | none => terminal.status.debugText))

/-- A credential lease is not retried. -/
def credentialOutcome (client : ApiClient) (responses : Responses) :
    Except CoreError RepositoryCredential := do
  match responses 0 with
  | .error error => throw (.api error)
  | .ok response =>
      let response ← response.errorForStatus
      match response.json client.decoder.credentialLease with
      | .error error => throw (.api error)
      | .ok payload =>
          if Text.isBlank payload.username.toList ∨ Text.isBlank payload.token.toList then
            throw (.invalidConfiguration
              "repository credential lease is missing username or token")
          return { username := payload.username, token := payload.token }

end ApiClient

/-! ### The body of a failure report -/

/-- `[A-Za-z0-9._-]` and 64 characters, as the control plane accepts them. -/
def sanitizeErrorCode (code : String) : String :=
  let sanitized := (code.toList.map fun character =>
    if character.isAlphanum ∨ character = '.' ∨ character = '_' ∨ character = '-' then character
    else '_').take 64
  if sanitized.isEmpty then "runtime_execution_failed" else String.ofList sanitized

/-- Control, bidi and zero-width characters. -/
def isDisallowedMessageChar (character : Char) : Bool :=
  let code := character.toNat
  code < 0x20 ∨ (0x7f ≤ code ∧ code ≤ 0x9f) ∨
    (0x200b ≤ code ∧ code ≤ 0x200f) ∨ (0x202a ≤ code ∧ code ≤ 0x202e) ∨
    (0x2060 ≤ code ∧ code ≤ 0x2064) ∨ (0x2066 ≤ code ∧ code ≤ 0x2069) ∨ code = 0xfeff

def sanitizeErrorMessage (message : String) : String :=
  let sanitized := (message.toList.filter fun character =>
    !isDisallowedMessageChar character).take 1000
  let trimmed := Text.trim sanitized
  if trimmed.isEmpty then "runtime execution failed" else String.ofList trimmed

structure FailCommandPayload where
  errorCode : String
  errorMessage : String
deriving DecidableEq, Repr

/-- The body `fail` sends. -/
def FailCommandPayload.of (errorCode errorMessage : String) : FailCommandPayload where
  errorCode := sanitizeErrorCode errorCode
  errorMessage := sanitizeErrorMessage errorMessage

end SakalaAgent
