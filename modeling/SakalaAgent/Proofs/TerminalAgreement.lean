/-
Module: SakalaAgent.Proofs.TerminalAgreement
Layer: Proofs
Purpose: What a terminal call reports agrees with what the control plane has stored. A terminal status
  never changes, so every reply stays true, however late it arrives and whatever happened to the
  attempts before it.
Trusted boundary: none
Main exports: TerminalAgreed, TerminalExchange.terminal_agreed
-/
import SakalaAgent.Proofs.ReportStorage

namespace SakalaAgent

/-! ### One outcome -/

namespace ApiClient

variable {client : ApiClient} {expected : CommandStatus}

/-- The code behind the loop sees the outcome the loop ends with. -/
theorem postTerminal_eq {responses : Responses} {outcome : HttpOutcome}
    (last : client.sendWithRetry responses = outcome.mapError .api) :
    client.postTerminal expected responses = client.terminalOutcome expected outcome := by
  rw [postTerminal, last]
  rfl

/-- Outcomes that are tried again are passed over, as long as attempts are left. -/
theorem sendFrom_retryable {responses : Responses} {attempt left : Nat} (passed : Nat)
    (enough : passed ≤ left)
    (retryable : ∀ before < passed, isRetryable (responses (attempt + before)) = true) :
    sendFrom responses attempt left = sendFrom responses (attempt + passed) (left - passed) := by
  induction passed generalizing attempt left with
  | zero => rfl
  | succ passed ih =>
      have first := retryable 0 (Nat.succ_pos passed)
      cases left with
      | zero => exact absurd enough (Nat.not_succ_le_zero passed)
      | succ left =>
          have later := ih (Nat.le_of_succ_le_succ enough)
            fun before below => by
              have next := retryable (before + 1) (Nat.succ_lt_succ below)
              rwa [show attempt + (before + 1) = attempt + 1 + before by omega] at next
          rw [sendFrom, if_pos (by simpa using first), later]
          congr 1 <;> omega

/-- A request or a response that was lost or replaced is an error, and no conflict. -/
theorem terminalOutcome_lost {outcome : HttpOutcome} (lost : lostOrReplaced outcome = true) :
    ∃ error, client.terminalOutcome expected outcome = .error (.api error) := by
  cases outcome with
  | error error => exact ⟨error, rfl⟩
  | ok response =>
      have retryable : isRetryableStatus response.status = true := lost
      have status : response.status ≠ 409 ∧ 400 ≤ response.status ∧ response.status < 600 := by
        simp only [isRetryableStatus, decide_eq_true_eq] at retryable
        omega
      refine ⟨.status response.status, ?_⟩
      simp [terminalOutcome, Except.mapError, bind, Except.bind, status.1,
        HttpResponse.errorForStatus, status.2.1, status.2.2]

theorem terminalOutcome_accepted {outcome : HttpOutcome}
    (arrives : TerminalReply.arrivesAs client.decoder .accepted outcome = true) :
    client.terminalOutcome expected outcome = .ok () := by
  cases outcome with
  | error error => cases arrives
  | ok response =>
      have status : 200 ≤ response.status ∧ response.status < 300 := by
        simpa [TerminalReply.arrivesAs] using arrives
      have other : response.status ≠ 409 := by omega
      have low : ¬400 ≤ response.status := by omega
      simp [terminalOutcome, Except.mapError, bind, Except.bind, other,
        HttpResponse.errorForStatus, low, pure, Except.pure]

/-- A conflict is a success, if the stored status is the expected one, a conflict, if it is another,
or a body that broke off. -/
theorem terminalOutcome_conflict {outcome : HttpOutcome} {stored : CommandStatus}
    (arrives : TerminalReply.arrivesAs client.decoder (.conflict stored) outcome = true) :
    (stored = expected ∧ client.terminalOutcome expected outcome = .ok ()) ∨
      (stored ≠ expected ∧ ∃ text,
        client.terminalOutcome expected outcome = .error (.commandTerminalConflict text)) ∨
      ∃ error, client.terminalOutcome expected outcome = .error (.api error) := by
  cases outcome with
  | error error => cases arrives
  | ok response =>
      cases read : response.json client.decoder.terminalConflict with
      | error error =>
          have status : response.status = 409 := by
            simpa [TerminalReply.arrivesAs, read] using arrives
          refine Or.inr (Or.inr ⟨error, ?_⟩)
          simp [terminalOutcome, Except.mapError, bind, Except.bind, status, read, throw, throwThe,
            MonadExceptOf.throw]
      | ok payload =>
          obtain ⟨status, same⟩ : response.status = 409 ∧ payload.status = stored := by
            simpa [TerminalReply.arrivesAs, read] using arrives
          by_cases match_ : stored = expected
          · refine Or.inl ⟨match_, ?_⟩
            simp [terminalOutcome, Except.mapError, bind, Except.bind, status, read, same, match_,
              pure, Except.pure]
          · refine Or.inr (Or.inl ⟨match_, ?_⟩)
            simp [terminalOutcome, Except.mapError, bind, Except.bind, status, read, same, match_,
              throw, throwThe, MonadExceptOf.throw]

end ApiClient

/-! ### The call -/

namespace TerminalExchange

variable {s s' : TerminalExchange}

/-- A reply, as long as it is true. -/
def TrueReply (expected status : CommandStatus) : TerminalReply → Prop
  | .accepted => status = expected
  | .conflict stored => status = stored

/-- What is known of the result. -/
structure Result (s : TerminalExchange) (result : Except CoreError Unit) : Prop where
  succeeded : result = .ok () → s.status = s.expected
  conflicted : ∀ text, result = .error (.commandTerminalConflict text) →
    s.status.isTerminal = true ∧ s.status ≠ s.expected
  computed : result = s.client.postTerminal s.expected (responsesOf s.outcomes)

/-- What the outcomes have in common with the position. -/
def Standing (s : TerminalExchange) : Prop :=
  match s.position with
  | .ready | .waiting => s.outcomes.length = s.attempt
  | .pausing => s.outcomes.length = s.attempt + 1 ∧ s.attempt + 1 < s.client.attempts ∧
      ApiClient.isRetryable (responsesOf s.outcomes s.attempt) = true
  | .returned result => Result s result

structure Ending (s : TerminalExchange) : Prop where
  replies : ∀ entry ∈ s.replies, TrueReply s.expected s.status entry.2 ∧ s.status.isTerminal = true
  within : s.attempt < s.client.attempts
  retryable : ∀ before < s.attempt,
    ApiClient.isRetryable (responsesOf s.outcomes before) = true
  standing : Standing s

theorem expected_isTerminal (s : TerminalExchange) : s.expected.isTerminal = true := by
  unfold expected
  cases s.call with
  | complete => rfl
  | fail => rfl

theorem ending_start (client : ApiClient) (call : TerminalCall) (status : CommandStatus) :
    Ending (.start client call status) := by
  refine ⟨by simp [start], ?_, by simp [start], rfl⟩
  simp [start, ApiClient.attempts]

namespace Ending

theorem proceed (ending : Ending s) (stepped : s.proceed = some s') : Ending s' := by
  have standing := ending.standing
  unfold TerminalExchange.proceed at stepped
  split at stepped
  case h_1 ready =>
    obtain rfl := Option.some.inj stepped
    rw [Standing, ready] at standing
    exact ⟨ending.replies, ending.within, ending.retryable, standing⟩
  case h_2 pausing =>
    obtain rfl := Option.some.inj stepped
    rw [Standing, pausing] at standing
    obtain ⟨answered, left, again⟩ := standing
    refine ⟨ending.replies, left, ?_, answered⟩
    intro before below
    rcases Nat.lt_succ_iff_lt_or_eq.mp below with earlier | rfl
    · exact ending.retryable before earlier
    · exact again
  case h_3 | h_4 => cases stepped

/-- The status changes, if it was not terminal; then there was no reply yet. -/
theorem replies_of_open (ending : Ending s) (open_ : ¬s.status.isTerminal = true) :
    s.replies = [] := by
  apply List.eq_nil_iff_forall_not_mem.mpr
  intro entry member
  exact open_ (ending.replies entry member).2

theorem standing_of_open (ending : Ending s) (open_ : ¬s.status.isTerminal = true)
    (status : CommandStatus) (replies : List (Nat × TerminalReply)) :
    Standing { s with status, replies } := by
  have standing := ending.standing
  unfold Standing at standing ⊢
  cases position : s.position with
  | ready | waiting | pausing =>
      rw [position] at standing
      exact standing
  | returned result =>
      rw [position] at standing
      refine ⟨?_, ?_, standing.computed⟩
      · intro success
        rw [standing.succeeded success] at open_
        exact absurd s.expected_isTerminal open_
      · intro text conflict
        exact absurd (standing.conflicted text conflict).1 open_

theorem handle (ending : Ending s) (request : Nat) (repeatConflicts : Bool) :
    Ending (s.handle request repeatConflicts) := by
  unfold TerminalExchange.handle
  split
  · rename_i terminal
    refine ⟨?_, ending.within, ending.retryable, ?_⟩
    · intro entry member
      rcases List.mem_append.mp member with old | new
      · exact ending.replies entry old
      · obtain rfl := List.mem_singleton.mp new
        refine ⟨?_, terminal⟩
        dsimp only
        split
        · rename_i repeated
          exact repeated.1
        · rfl
    · have standing := ending.standing
      unfold Standing at standing ⊢
      cases position : s.position with
      | ready | waiting | pausing =>
          rw [position] at standing
          exact standing
      | returned result =>
          rw [position] at standing
          exact ⟨standing.succeeded, standing.conflicted, standing.computed⟩
  · rename_i open_
    refine ⟨?_, ending.within, ending.retryable, ending.standing_of_open open_ _ _⟩
    intro entry member
    rw [ending.replies_of_open open_] at member
    obtain rfl := List.mem_singleton.mp member
    exact ⟨rfl, s.expected_isTerminal⟩

theorem foreign (ending : Ending s) (open_ : ¬s.status.isTerminal = true)
    (status : CommandStatus) : Ending { s with status } := by
  refine ⟨?_, ending.within, ending.retryable, ending.standing_of_open open_ status s.replies⟩
  intro entry member
  change entry ∈ s.replies at member
  rw [ending.replies_of_open open_] at member
  cases member

/-- A result that is read off an outcome the network admits. -/
theorem result_of_admitted (ending : Ending s) {outcome : HttpOutcome}
    (admitted : s.admits outcome = true) {outcomes : List HttpOutcome}
    (computed : s.client.terminalOutcome s.expected outcome =
      s.client.postTerminal s.expected (responsesOf outcomes)) :
    Result { s with outcomes } (s.client.terminalOutcome s.expected outcome) := by
  unfold admits at admitted
  rcases Bool.or_eq_true_iff.mp admitted with lost | replied
  · obtain ⟨error, result⟩ : ∃ error,
        s.client.terminalOutcome s.expected outcome = .error (.api error) :=
      ApiClient.terminalOutcome_lost lost
    rw [result] at computed ⊢
    exact ⟨(fun impossible => by cases impossible), (fun _ impossible => by cases impossible),
      computed⟩
  · obtain ⟨⟨request, reply⟩, member, arrived⟩ := List.any_eq_true.mp replied
    obtain ⟨true_, terminal⟩ := ending.replies _ member
    have arrives : reply.arrivesAs s.client.decoder outcome = true :=
      (Bool.and_eq_true_iff.mp arrived).2
    cases reply with
    | accepted =>
        have result : s.client.terminalOutcome s.expected outcome = .ok () :=
          ApiClient.terminalOutcome_accepted arrives
        rw [result] at computed ⊢
        exact ⟨fun _ => true_, (fun _ impossible => by cases impossible), computed⟩
    | conflict stored =>
        obtain rfl : s.status = stored := true_
        rcases ApiClient.terminalOutcome_conflict arrives with
          ⟨same, result⟩ | ⟨other, text, result⟩ | ⟨error, result⟩
        · rw [result] at computed ⊢
          exact ⟨fun _ => same, (fun _ impossible => by cases impossible), computed⟩
        · rw [result] at computed ⊢
          exact ⟨(fun impossible => by cases impossible), fun _ _ => ⟨terminal, other⟩, computed⟩
        · rw [result] at computed ⊢
          exact ⟨(fun impossible => by cases impossible), (fun _ impossible => by cases impossible),
            computed⟩

theorem settle (ending : Ending s) {outcome : HttpOutcome} (waiting : s.position = .waiting)
    (admitted : s.admits outcome = true) : Ending (s.settle outcome) := by
  have answered := ending.standing
  rw [Standing, waiting] at answered
  have within := ending.within
  have last : responsesOf (s.outcomes ++ [outcome]) s.attempt = outcome := by
    rw [← answered]
    exact responsesOf_length s.outcomes outcome
  have retryable : ∀ before < s.attempt,
      ApiClient.isRetryable (responsesOf (s.outcomes ++ [outcome]) before) = true := by
    intro before below
    rw [responsesOf_append (answered ▸ below)]
    exact ending.retryable before below
  refine ⟨ending.replies, ending.within, retryable, ?_⟩
  unfold TerminalExchange.settle Standing
  by_cases ended : ¬ApiClient.isRetryable outcome ∨ s.client.attempts ≤ s.attempt + 1
  · simp only [if_pos ended]
    have passed : ApiClient.sendFrom (responsesOf (s.outcomes ++ [outcome])) 0
        (s.client.attempts - 1) = ApiClient.sendFrom (responsesOf (s.outcomes ++ [outcome]))
          (0 + s.attempt) (s.client.attempts - 1 - s.attempt) :=
      ApiClient.sendFrom_retryable s.attempt (by omega) (by simpa using retryable)
    have sent : s.client.sendWithRetry (responsesOf (s.outcomes ++ [outcome])) =
        outcome.mapError .api := by
      rw [ApiClient.sendWithRetry, passed, Nat.zero_add]
      cases left : s.client.attempts - 1 - s.attempt with
      | zero => rw [ApiClient.sendFrom, last]
      | succ left =>
          have final : ¬ApiClient.isRetryable outcome := by
            rcases ended with final | exhausted
            · exact final
            · omega
          rw [ApiClient.sendFrom, last, if_neg final]
    have computed : s.client.terminalOutcome s.expected outcome =
        s.client.postTerminal s.expected (responsesOf (s.outcomes ++ [outcome])) :=
      (ApiClient.postTerminal_eq sent).symm
    obtain ⟨succeeded, conflicted, final⟩ := ending.result_of_admitted admitted computed
    exact ⟨succeeded, conflicted, final⟩
  · simp only [if_neg ended]
    obtain ⟨again, left⟩ := not_or.mp ended
    refine ⟨by simp [answered], by omega, ?_⟩
    rw [last]
    exact not_not.mp again

theorem step {action : TerminalAction} (ending : Ending s) (stepped : s.step action = some s') :
    Ending s' := by
  cases action with
  | proceed => exact ending.proceed stepped
  | answer outcome =>
      simp only [TerminalExchange.step] at stepped
      split at stepped
      · rename_i waiting
        split at stepped
        · rename_i admitted
          obtain rfl := Option.some.inj stepped
          exact ending.settle waiting admitted
        · cases stepped
      · cases stepped
  | handle request repeatConflicts =>
      simp only [TerminalExchange.step] at stepped
      split at stepped
      · obtain rfl := Option.some.inj stepped
        exact ending.handle request repeatConflicts
      · cases stepped
  | foreign status =>
      simp only [TerminalExchange.step] at stepped
      split at stepped
      · cases stepped
      · rename_i open_
        obtain rfl := Option.some.inj stepped
        exact ending.foreign open_ status

end Ending

/-- A terminal status is never overwritten. -/
theorem status_stable {action : TerminalAction} (terminal : s.status.isTerminal = true)
    (stepped : s.step action = some s') : s'.status = s.status := by
  cases action with
  | proceed =>
      simp only [step, proceed] at stepped
      split at stepped
      case h_1 | h_2 =>
        obtain rfl := Option.some.inj stepped
        rfl
      case h_3 | h_4 => cases stepped
  | answer outcome =>
      simp only [step] at stepped
      split at stepped
      · split at stepped
        · obtain rfl := Option.some.inj stepped
          rfl
        · cases stepped
      · cases stepped
  | handle request repeatConflicts =>
      simp only [step, handle, if_pos terminal] at stepped
      split at stepped
      · obtain rfl := Option.some.inj stepped
        rfl
      · cases stepped
  | foreign status =>
      simp only [step, if_pos terminal] at stepped
      cases stepped

end TerminalExchange

/-- One terminal call, in one state: what it has returned agrees with the stored status. -/
structure TerminalAgreed (s : TerminalExchange) : Prop where
  succeeded : s.position = .returned (.ok ()) → s.status = s.call.expected
  conflicted : ∀ text, s.position = .returned (.error (.commandTerminalConflict text)) →
    s.status.isTerminal = true ∧ s.status ≠ s.call.expected
  computed : ∀ result, s.position = .returned result →
    result = s.client.postTerminal s.call.expected (responsesOf s.outcomes)

namespace TerminalExchange

/-- In every run of a terminal call and of everything that can happen to its command: at any time
what it has returned agrees with the status, and a terminal status stays what it is. -/
theorem terminal_agreed (client : ApiClient) (call : TerminalCall) (status : CommandStatus)
    (before after : List TerminalAction) (s s' : TerminalExchange)
    (run : Transition.exec step (start client call status) before = some s)
    (later : Transition.exec step s after = some s') :
    TerminalAgreed s ∧ (s.status.isTerminal = true → s'.status = s.status) := by
  have ending : Ending s :=
    Transition.exec_invariant Ending (fun _ _ _ ending stepped => ending.step stepped)
      (ending_start client call status) run
  constructor
  · have standing := ending.standing
    constructor
    · intro success
      rw [Standing, success] at standing
      exact standing.succeeded rfl
    · intro text conflict
      rw [Standing, conflict] at standing
      exact standing.conflicted text rfl
    · intro result returned
      rw [Standing, returned] at standing
      exact standing.computed
  · intro terminal
    exact Transition.exec_invariant (fun s' => s'.status = s.status)
      (fun mid _ _ same stepped =>
        (status_stable (by rw [same]; exact terminal) stepped).trans same) rfl later

/-- A client that reads the conflict of a command that has succeeded. -/
def succeededClient : ApiClient where
  maxAttempts := 2
  decoder :=
    { acknowledgement := fun _ => .error "no acknowledgement"
      terminalConflict := fun _ => .ok ⟨.succeeded, none⟩
      conflict := fun _ => .error "no conflict"
      rejection := fun _ => .ok none
      credentialLease := fun _ => .error "no lease"
      errorText := fun _ => "operation timed out" }

/-- The first response is lost, and the second attempt meets the transition of the first. -/
theorem terminal_agreed_lost : ∃ s,
    Transition.exec step (start succeededClient .complete .running)
      [.proceed, .handle 0 false, .answer (.error (.transport true "operation timed out")),
        .proceed, .proceed, .handle 1 true, .answer (.ok ⟨409, .ok "conflict"⟩)] = some s ∧
    TerminalAgreed s ∧ (s.status.isTerminal = true → s.status = s.status) := by
  have possible : (Transition.exec step (start succeededClient .complete .running)
      [.proceed, .handle 0 false, .answer (.error (.transport true "operation timed out")),
        .proceed, .proceed, .handle 1 true, .answer (.ok ⟨409, .ok "conflict"⟩)]).isSome := by
    decide +kernel
  obtain ⟨s, run⟩ := Option.isSome_iff_exists.mp possible
  exact ⟨s, run, terminal_agreed _ _ _ _ [] s s run rfl⟩

end TerminalExchange

end SakalaAgent
