/-
Module: SakalaAgent.Proofs.ReportStorage
Layer: Proofs
Purpose: A report against a control plane that keeps every item at most once for each key and index.
  All attempts of a call carry one key, so what an attempt has stored already is a duplicate for the
  next one, and a success is only ever read off an acknowledgement of the whole batch.
Trusted boundary: the key of a call is fresh
Main exports: ReportedOnce, ReportExchange.reported_once
-/
import SakalaAgent.Core.Api.Exchange

namespace SakalaAgent

/-- An outcome behind which a report is sent again, if it may: nothing came back, or a status that
asks for it, or a body that broke off. -/
def transientOutcome : HttpOutcome → Bool
  | .error error => error.isRetryableTransportError
  | .ok response =>
      isRetryableStatus response.status || (response.status = 200 &&
        match response.body with
        | .error error => error.isRetryableTransportError
        | .ok _ => false)

/-- The outcomes by their number, as the client reads them. -/
def responsesOf (outcomes : List HttpOutcome) : Responses := fun attempt =>
  outcomes.getD attempt (.error (.decode ""))

theorem responsesOf_append {outcomes : List HttpOutcome} {outcome : HttpOutcome} {before : Nat}
    (below : before < outcomes.length) :
    responsesOf (outcomes ++ [outcome]) before = responsesOf outcomes before := by
  simp [responsesOf, List.getD_eq_getElem?_getD, List.getElem?_append_left below]

theorem responsesOf_length (outcomes : List HttpOutcome) (outcome : HttpOutcome) :
    responsesOf (outcomes ++ [outcome]) outcomes.length = outcome := by
  simp [responsesOf, List.getD_eq_getElem?_getD]

namespace ApiClient

variable {client : ApiClient} {itemCount : Nat}

theorem errorForStatus_ok {response response' : HttpResponse}
    (passed : response.errorForStatus = .ok response') : response' = response := by
  unfold HttpResponse.errorForStatus at passed
  split at passed
  · cases passed
  · exact (Except.ok.inj passed).symm

theorem errorForStatus_error {response : HttpResponse} {error : CoreError}
    (failed : response.errorForStatus = .error error) : error = .api (.status response.status) := by
  unfold HttpResponse.errorForStatus at failed
  split at failed
  · exact (Except.error.inj failed).symm
  · cases failed

/-- The only error of a report that is tried again behind its status is a body that broke off. -/
theorem reportOutcome_api {response : HttpResponse} {error : HttpError}
    (failed : client.reportOutcome response itemCount = .error (.api error))
    (retryable : error.isRetryableTransportError = true) :
    response.status = 200 ∧ response.body = .error error := by
  simp only [reportOutcome, throw, throwThe, MonadExceptOf.throw, bind, Except.bind, pure,
    Except.pure] at failed
  split at failed
  · cases failed
  split at failed
  · cases failed
  split at failed
  · rename_i refused
    obtain rfl := Except.error.inj failed
    obtain rfl := CoreError.api.inj (errorForStatus_error refused)
    cases retryable
  · rename_i passed
    obtain rfl := errorForStatus_ok passed
    split at failed
    · cases failed
    split at failed
    · cases failed
    · rename_i success
      have status := not_not.mp success
      split at failed
      · rename_i broken
        obtain rfl := CoreError.api.inj (Except.error.inj failed)
        exact ⟨status, broken⟩
      · split at failed
        · cases failed
        · unfold checkAcknowledgement at failed
          split at failed
          · cases failed
          · split at failed <;> cases failed

/-- A report that succeeds was acknowledged. -/
theorem reportOutcome_ok {response : HttpResponse} {acknowledgement : ReportAcknowledgement}
    (accepted : client.reportOutcome response itemCount = .ok acknowledgement) :
    acknowledges client.decoder itemCount (.ok response) = true := by
  simp only [reportOutcome, throw, throwThe, MonadExceptOf.throw, bind, Except.bind, pure,
    Except.pure] at accepted
  split at accepted
  · cases accepted
  split at accepted
  · cases accepted
  split at accepted
  · cases accepted
  · rename_i passed
    obtain rfl := errorForStatus_ok passed
    split at accepted
    · rename_i old
      simp [acknowledges, old]
    split at accepted
    · cases accepted
    · rename_i success
      have status := not_not.mp success
      split at accepted
      · cases accepted
      · rename_i body read
        split at accepted
        · cases accepted
        · rename_i decoded
          unfold checkAcknowledgement at accepted
          split at accepted
          · cases accepted
          · rename_i counted
            simpa [acknowledges, status, HttpResponse.json, read, decoded] using counted

theorem reportAttempt_transient {outcome : HttpOutcome} {transient : String}
    (again : client.reportAttempt itemCount outcome = .inr transient) :
    transientOutcome outcome = true := by
  unfold reportAttempt at again
  split at again
  · rename_i response
    split at again
    · rename_i retryable
      simp [transientOutcome, retryable]
    · split at again
      · cases again
      · rename_i error failed
        split at again
        · rename_i retryable
          obtain ⟨status, broken⟩ := reportOutcome_api failed retryable
          simp [transientOutcome, status, broken, retryable]
        · cases again
      · cases again
  · split at again
    · rename_i retryable
      exact retryable
    · cases again

theorem reportAttempt_ok {outcome : HttpOutcome} {acknowledgement : ReportAcknowledgement}
    (accepted : client.reportAttempt itemCount outcome = .inl (.ok acknowledgement)) :
    acknowledges client.decoder itemCount outcome = true := by
  unfold reportAttempt at accepted
  split at accepted
  · split at accepted
    · cases accepted
    · split at accepted
      · rename_i read
        exact reportOutcome_ok read
      · split at accepted <;> cases accepted
      · cases accepted
  · split at accepted <;> cases accepted

/-- Transient outcomes are passed over, as long as attempts are left. -/
theorem reportFrom_transient {responses : Responses} {attempt left : Nat} (passed : Nat)
    (enough : passed ≤ left)
    (transient : ∀ before < passed,
      ∃ text, client.reportAttempt itemCount (responses (attempt + before)) = .inr text) :
    client.reportFrom itemCount responses attempt left =
      client.reportFrom itemCount responses (attempt + passed) (left - passed) := by
  induction passed generalizing attempt left with
  | zero => rfl
  | succ passed ih =>
      obtain ⟨text, first⟩ := transient 0 (Nat.succ_pos passed)
      cases left with
      | zero => exact absurd enough (Nat.not_succ_le_zero passed)
      | succ left =>
          have later := ih (Nat.le_of_succ_le_succ enough)
            fun before below => by
              have next := transient (before + 1) (Nat.succ_lt_succ below)
              rwa [show attempt + (before + 1) = attempt + 1 + before by omega] at next
          rw [reportFrom]
          simp only [Nat.add_zero] at first
          rw [first]
          simp only
          rw [later]
          congr 1 <;> omega

end ApiClient

variable {α : Type}

/-! ### The store -/

/-- What is stored under a key and an index. -/
def storedAt (stored : List (StoredItem α)) (key : Uuid) (index : Nat) : List (StoredItem α) :=
  stored.filter fun entry => entry.key = key ∧ entry.index = index

theorem storedAt_persist_other {stored : List (StoredItem α)} {entry : StoredItem α} {key : Uuid}
    {index : Nat} (other : ¬(entry.key = key ∧ entry.index = index)) :
    storedAt (persist stored entry) key index = storedAt stored key index := by
  unfold persist
  split
  · rfl
  · simp [storedAt, other]

/-- The second time nothing is stored. -/
theorem storedAt_persist_self (stored : List (StoredItem α)) (entry : StoredItem α) :
    storedAt (persist stored entry) entry.key entry.index =
      if storedAt stored entry.key entry.index = [] then [entry]
      else storedAt stored entry.key entry.index := by
  unfold persist
  split
  · rename_i known
    have some_ : storedAt stored entry.key entry.index ≠ [] := by
      obtain ⟨other, member, same⟩ := List.any_eq_true.mp known
      exact List.ne_nil_of_mem (List.mem_filter.mpr ⟨member, same⟩)
    rw [if_neg some_]
  · rename_i unknown
    have none_ : storedAt stored entry.key entry.index = [] := by
      apply List.filter_eq_nil_iff.mpr
      intro other member same
      exact unknown (List.any_eq_true.mpr ⟨other, member, same⟩)
    rw [if_pos none_]
    unfold storedAt at none_ ⊢
    rw [List.filter_append, none_]
    simp

theorem mem_persist {stored : List (StoredItem α)} {entry other : StoredItem α}
    (member : other ∈ stored) : other ∈ persist stored entry := by
  unfold persist
  split
  · exact member
  · exact List.mem_append_left _ member

/-! ### The call -/

namespace ReportExchange

variable {s s' : ReportExchange α}

/-- What the requests, the outcomes and the result have in common with the position. -/
def Standing (s : ReportExchange α) : Prop :=
  match s.position with
  | .ready => s.requests.length = s.attempt ∧ s.outcomes.length = s.attempt
  | .waiting => s.requests.length = s.attempt + 1 ∧ s.outcomes.length = s.attempt
  | .pausing => s.requests.length = s.attempt + 1 ∧ s.outcomes.length = s.attempt + 1 ∧
      s.attempt + 1 < s.client.attempts ∧ ∃ text, s.client.reportAttempt s.items.length
        (responsesOf s.outcomes s.attempt) = .inr text
  | .returned result => s.requests.length = s.attempt + 1 ∧ s.outcomes.length = s.attempt + 1 ∧
      result = s.client.report s.items.length (responsesOf s.outcomes) ∧
      ∀ acknowledgement, result = .ok acknowledgement → s.AllStored

/-- One call of `report`, from its first request on. -/
structure Reporting (s : ReportExchange α) : Prop where
  requests : ∀ request ∈ s.requests, request = ⟨s.idempotencyKey, s.items⟩
  stored : ∀ index, storedAt s.stored s.idempotencyKey index = [] ∨
    ∃ item, s.items[index]? = some item ∧
      storedAt s.stored s.idempotencyKey index = [⟨s.idempotencyKey, index, item⟩]
  within : s.attempt < s.client.attempts
  transient : ∀ before < s.attempt, ∃ text,
    s.client.reportAttempt s.items.length (responsesOf s.outcomes before) = .inr text
  standing : Standing s

theorem reporting_start (client : ApiClient) (key : Uuid) (items : List α)
    (stored : List (StoredItem α)) (fresh : ∀ entry ∈ stored, entry.key ≠ key) :
    Reporting (.start client key items stored) := by
  refine ⟨by simp [start], ?_, ?_, by simp [start], by simp [Standing, start]⟩
  · intro index
    left
    apply List.filter_eq_nil_iff.mpr
    intro entry member same
    exact fresh entry member (of_decide_eq_true same).1
  · simp [start, ApiClient.attempts]

namespace Reporting

theorem proceed (reporting : Reporting s) (stepped : s.proceed = some s') : Reporting s' := by
  have standing := reporting.standing
  unfold ReportExchange.proceed at stepped
  split at stepped
  case h_1 ready =>
    obtain rfl := Option.some.inj stepped
    rw [Standing, ready] at standing
    refine ⟨?_, reporting.stored, reporting.within, reporting.transient, ?_⟩
    · intro request member
      rcases List.mem_append.mp member with old | new
      · exact reporting.requests request old
      · exact List.mem_singleton.mp new
    · constructor
      · simp [standing.1]
      · exact standing.2
  case h_2 pausing =>
    obtain rfl := Option.some.inj stepped
    rw [Standing, pausing] at standing
    obtain ⟨sent, answered, left, again⟩ := standing
    refine ⟨reporting.requests, reporting.stored, left, ?_, ⟨sent, answered⟩⟩
    intro before below
    rcases Nat.lt_succ_iff_lt_or_eq.mp below with earlier | rfl
    · exact reporting.transient before earlier
    · exact again
  case h_3 | h_4 => cases stepped

/-- The outcome that is read last decides the result. -/
theorem report_eq (reporting : Reporting s) {outcomes : List HttpOutcome}
    (transient : ∀ before < s.attempt, ∃ text,
      s.client.reportAttempt s.items.length (responsesOf outcomes before) = .inr text) :
    s.client.report s.items.length (responsesOf outcomes) =
      s.client.reportFrom s.items.length (responsesOf outcomes) s.attempt
        (s.client.attempts - 1 - s.attempt) := by
  have within := reporting.within
  have passed : s.client.reportFrom s.items.length (responsesOf outcomes) 0
      (s.client.attempts - 1) = s.client.reportFrom s.items.length (responsesOf outcomes)
        (0 + s.attempt) (s.client.attempts - 1 - s.attempt) :=
    ApiClient.reportFrom_transient s.attempt (by omega) (by simpa using transient)
  rw [ApiClient.report, passed, Nat.zero_add]

theorem settle (reporting : Reporting s) {outcome : HttpOutcome} (waiting : s.position = .waiting)
    (truthful : acknowledges s.client.decoder s.items.length outcome = true → s.AllStored) :
    Reporting (s.settle outcome) := by
  have standing := reporting.standing
  rw [Standing, waiting] at standing
  obtain ⟨sent, answered⟩ := standing
  have last : responsesOf (s.outcomes ++ [outcome]) s.attempt = outcome := by
    rw [← answered]
    exact responsesOf_length s.outcomes outcome
  have transient : ∀ before < s.attempt, ∃ text, s.client.reportAttempt s.items.length
      (responsesOf (s.outcomes ++ [outcome]) before) = .inr text := by
    intro before below
    rw [responsesOf_append (answered ▸ below)]
    exact reporting.transient before below
  have result := reporting.report_eq transient
  have within := reporting.within
  have long : (s.outcomes ++ [outcome]).length = s.attempt + 1 := by simp [answered]
  refine ⟨reporting.requests, reporting.stored, reporting.within, transient, ?_⟩
  unfold ReportExchange.settle Standing
  cases attempted : s.client.reportAttempt s.items.length outcome with
  | inl value =>
      refine ⟨sent, long, ?_, ?_⟩
      · rw [result]
        cases s.client.attempts - 1 - s.attempt with
        | zero => simp [ApiClient.reportFrom, last, attempted]
        | succ left => simp [ApiClient.reportFrom, last, attempted]
      · rintro acknowledgement rfl
        exact truthful (ApiClient.reportAttempt_ok attempted)
  | inr text =>
      by_cases exhausted : s.client.attempts ≤ s.attempt + 1
      · simp only [if_pos exhausted]
        refine ⟨sent, long, ?_, by simp⟩
        rw [result, show s.client.attempts - 1 - s.attempt = 0 by omega]
        simp [ApiClient.reportFrom, last, attempted]
      · simp only [if_neg exhausted]
        exact ⟨sent, long, by omega, text, by rw [last]; exact attempted⟩

/-- The store grows by an item of the call, or by one of another call. -/
theorem grown (reporting : Reporting s) (entry : StoredItem α)
    (own : entry.key = s.idempotencyKey → s.items[entry.index]? = some entry.item) :
    Reporting { s with stored := persist s.stored entry } := by
  refine ⟨reporting.requests, ?_, reporting.within, reporting.transient, ?_⟩
  · intro index
    by_cases same : entry.key = s.idempotencyKey ∧ entry.index = index
    · obtain ⟨key, rfl⟩ := same
      have item := own key
      have before := reporting.stored entry.index
      have after := storedAt_persist_self s.stored entry
      rw [key] at after
      rcases before with nothing | ⟨known, at_, once⟩
      · rw [if_pos nothing] at after
        refine Or.inr ⟨entry.item, item, after.trans ?_⟩
        obtain ⟨_, _, _⟩ := entry
        cases key
        rfl
      · rw [if_neg (by simp [once])] at after
        exact Or.inr ⟨known, at_, after.trans once⟩
    · change storedAt (persist s.stored entry) _ _ = [] ∨ _
      rw [storedAt_persist_other same]
      exact reporting.stored index
  · have standing := reporting.standing
    unfold Standing at standing ⊢
    cases position : s.position with
    | ready | waiting | pausing =>
        rw [position] at standing
        exact standing
    | returned result =>
        rw [position] at standing
        obtain ⟨sent, answered, computed, stored⟩ := standing
        refine ⟨sent, answered, computed, ?_⟩
        intro acknowledgement success index below
        exact mem_persist (stored acknowledgement success index below)

theorem step [DecidableEq α] {action : ReportAction α} (reporting : Reporting s)
    (stepped : s.step action = some s') : Reporting s' := by
  cases action with
  | proceed => exact reporting.proceed stepped
  | answer outcome =>
      simp only [ReportExchange.step] at stepped
      split at stepped
      · rename_i waiting
        split at stepped
        · cases stepped
        · rename_i truthful
          obtain rfl := Option.some.inj stepped
          apply reporting.settle waiting
          intro acknowledged
          by_contra missing
          exact truthful ⟨acknowledged, missing⟩
      · cases stepped
  | store request index =>
      simp only [ReportExchange.step] at stepped
      split at stepped
      · cases stepped
      · rename_i sent found
        split at stepped
        · cases stepped
        · rename_i item at_
          obtain rfl := Option.some.inj stepped
          obtain rfl := reporting.requests sent (List.mem_of_getElem? found)
          exact reporting.grown _ fun _ => at_
  | foreign entry =>
      simp only [ReportExchange.step] at stepped
      split at stepped
      · cases stepped
      · rename_i other
        obtain rfl := Option.some.inj stepped
        exact reporting.grown entry fun own => absurd own other

end Reporting

end ReportExchange

/-- One report, in one state: whatever was lost, no item is stored twice, a success means that each
is stored, and the requests are few, carry one key, and stop behind an outcome that is final. -/
structure ReportedOnce (s : ReportExchange α) : Prop where
  atMostOnce : ∀ index, (storedAt s.stored s.idempotencyKey index).length ≤ 1
  persisted : ∀ acknowledgement, s.position = .returned (.ok acknowledgement) →
    ∀ index item, s.items[index]? = some item →
      storedAt s.stored s.idempotencyKey index = [⟨s.idempotencyKey, index, item⟩]
  bounded : s.requests.length ≤ max 1 s.client.maxAttempts.toNat
  sameRequest : ∀ request ∈ s.requests, request = ⟨s.idempotencyKey, s.items⟩
  noneAfterFinal : ∀ before, before + 1 < s.requests.length →
    transientOutcome (responsesOf s.outcomes before) = true
  computed : ∀ result, s.position = .returned result →
    result = s.client.report s.items.length (responsesOf s.outcomes)

namespace ReportExchange

/-- In every run, with whatever lost, late or replaced on the way. -/
theorem reported_once [DecidableEq α] (client : ApiClient) (key : Uuid) (items : List α)
    (stored : List (StoredItem α)) (fresh : ∀ entry ∈ stored, entry.key ≠ key)
    (actions : List (ReportAction α)) (s : ReportExchange α)
    (run : Transition.exec step (start client key items stored) actions = some s) :
    ReportedOnce s := by
  have reporting : Reporting s :=
    Transition.exec_invariant Reporting (fun _ _ _ reporting stepped => reporting.step stepped)
      (reporting_start client key items stored fresh) run
  have standing := reporting.standing
  have few : s.requests.length ≤ s.attempt + 1 := by
    unfold Standing at standing
    split at standing <;> omega
  constructor
  · intro index
    rcases reporting.stored index with nothing | ⟨_, _, once⟩
    · simp [nothing]
    · simp [once]
  · intro acknowledgement success index item at_
    rw [Standing, success] at standing
    obtain ⟨below, rfl⟩ := List.getElem?_eq_some_iff.mp at_
    have member := standing.2.2.2 acknowledgement rfl index below
    rcases reporting.stored index with nothing | ⟨known, found, once⟩
    · have kept : (⟨s.idempotencyKey, index, s.items[index]⟩ : StoredItem α) ∈
          storedAt s.stored s.idempotencyKey index := List.mem_filter.mpr ⟨member, by simp⟩
      rw [nothing] at kept
      cases kept
    · rw [at_] at found
      obtain rfl := Option.some.inj found
      exact once
  · have within := reporting.within
    simp only [ApiClient.attempts] at within
    omega
  · exact reporting.requests
  · intro before below
    obtain ⟨text, again⟩ := reporting.transient before (by omega)
    exact ApiClient.reportAttempt_transient again
  · intro result returned
    rw [Standing, returned] at standing
    exact standing.2.2.1

/-- A client that reads the acknowledgements of its batches of two. -/
def twoItemClient : ApiClient where
  maxAttempts := 3
  decoder :=
    { acknowledgement := fun _ => .ok { acceptedCount := 2, duplicateCount := 1, lastSequence := 1 }
      terminalConflict := fun _ => .error "no conflict"
      conflict := fun _ => .error "no conflict"
      rejection := fun _ => .ok none
      credentialLease := fun _ => .error "no lease"
      errorText := fun _ => "operation timed out" }

/-- The first response is lost with one item stored; the second attempt finds it there, and the rest
of the first request is handled once more behind the success. -/
def lostResponse : List (ReportAction String) :=
  [.proceed, .store 0 0, .answer (.error (.transport true "operation timed out")), .proceed,
    .proceed, .store 1 0, .store 1 1, .answer (.ok ⟨200, .ok "acknowledgement"⟩), .store 0 1]

theorem reported_once_lost : ∃ s,
    Transition.exec step (start twoItemClient (Uuid.ofNat 1) ["building", "ready"] [])
      lostResponse = some s ∧ ReportedOnce s := by
  have possible : (Transition.exec step
      (start twoItemClient (Uuid.ofNat 1) ["building", "ready"] []) lostResponse).isSome := by
    decide +kernel
  obtain ⟨s, run⟩ := Option.isSome_iff_exists.mp possible
  exact ⟨s, run, reported_once _ _ _ _ (by simp) _ s run⟩

end ReportExchange

end SakalaAgent
