/-
Module: SakalaAgent.Proofs.LogDelivery
Layer: Proofs
Purpose: What the callers of a reporter can rely on. Without dropped futures lines are handed over in
  order, once, and completely, and a flush that succeeds has delivered what was accepted before it.
  With dropped futures no line disappears silently, as long as none of them holds a batch; one that
  does takes the batch with it.
Trusted boundary: none
Main exports: DeliveredInOrder, Reporter.delivered_in_order, NoSilentGap, Reporter.no_silent_gap,
  Reporter.batch_lost
-/
import SakalaAgent.Proofs.ReporterLedger
import SakalaAgent.Transition.Runs

namespace SakalaAgent

/-- A flush is running (`draining`, `sending`, `latching`) or about to run (`queued`, or a call that
goes on to it without an await), or a timer is armed (`sleeping`) or about to be. -/
def CallPosition.leadsToFlush : CallPosition → Bool
  | .accepted _ | .sleeping | .queued | .draining | .sending _ | .latching _ _ => true
  | .entered _ | .returned _ => false

namespace Reporter

def FlushComing (s : Reporter) : Prop :=
  ∃ id call, s.calls id = some call ∧ call.position.leadsToFlush = true

def TimerArmed (s : Reporter) : Prop :=
  ∃ id call, s.calls id = some call ∧ call.position = .sleeping

theorem TimerArmed.flushComing {s : Reporter} (armed : TimerArmed s) : FlushComing s := by
  obtain ⟨id, call, found, sleeping⟩ := armed
  exact ⟨id, call, found, by rw [sleeping]; rfl⟩

/-- Pending lines are on their way, and a set flag stands for a timer that has not fired. -/
structure Attended (s : Reporter) : Prop where
  coming : s.state.pending ≠ [] → s.state.deliveryStopped = none → FlushComing s
  armed : s.flushScheduled = true → TimerArmed s

namespace Attended

variable {s s' : Reporter} {id : CallId} {call next : Call}

theorem flushComing_of_update (calls : s'.calls = Function.update s.calls id (some next))
    (leads : next.position.leadsToFlush = true) : FlushComing s' :=
  ⟨id, next, by rw [calls, Function.update_self], leads⟩

/-- A flush that is coming stays, unless it was the call that moved. -/
theorem flushComing_of_other (coming : FlushComing s)
    (calls : s'.calls = Function.update s.calls id (some next))
    (own : ∀ call, s.calls id = some call → call.position.leadsToFlush = false) :
    FlushComing s' := by
  obtain ⟨other, call, found, leads⟩ := coming
  have ne : other ≠ id := by
    rintro rfl
    rw [own call found] at leads
    cases leads
  exact ⟨other, call, by rw [calls, Function.update_of_ne ne, found], leads⟩

theorem timerArmed_of_other (armed : TimerArmed s)
    (calls : s'.calls = Function.update s.calls id (some next))
    (own : ∀ call, s.calls id = some call → call.position ≠ .sleeping) : TimerArmed s' := by
  obtain ⟨other, call, found, sleeping⟩ := armed
  have ne : other ≠ id := by
    rintro rfl
    exact own call found sleeping
  exact ⟨other, call, by rw [calls, Function.update_of_ne ne, found], sleeping⟩

/-- A call that is awake moves: to where it leads to a flush, or when nothing asks for one, or from
where it did not. -/
theorem move (attended : Attended s) (found : s.calls id = some call)
    (awake : call.position ≠ .sleeping)
    (calls : s'.calls = Function.update s.calls id (some next))
    (scheduled : s'.flushScheduled = s.flushScheduled)
    (leads : next.position.leadsToFlush = true ∨
      (s'.state.pending = [] ∨ s'.state.deliveryStopped ≠ none) ∨
      (s'.state = s.state ∧ call.position.leadsToFlush = false)) : Attended s' where
  coming pending running := by
    rcases leads with leads | (nothing | stopped) | ⟨state, before⟩
    · exact flushComing_of_update calls leads
    · exact absurd nothing pending
    · exact absurd running stopped
    · refine flushComing_of_other (attended.coming (state ▸ pending) (state ▸ running)) calls ?_
      intro own same
      rw [found] at same
      obtain rfl := Option.some.inj same
      exact before
  armed set := by
    refine timerArmed_of_other (attended.armed (scheduled ▸ set)) calls ?_
    intro own same
    rw [found] at same
    obtain rfl := Option.some.inj same
    exact awake

/-- A call of a caller starts. -/
theorem spawn (attended : Attended s) (ledger : Ledger s) (caller : Caller)
    (position : CallPosition) : Attended (s.spawn caller position) := by
  have fresh : s.calls s.nextCall = none := ledger.locked.fresh _ (Nat.le_refl _)
  refine ⟨fun pending running => ?_, fun set => ?_⟩
  · refine flushComing_of_other (attended.coming pending running) rfl ?_
    intro call found
    rw [fresh] at found
    cases found
  · refine timerArmed_of_other (attended.armed set) rfl ?_
    intro call found
    rw [fresh] at found
    cases found

theorem accept (attended : Attended s) {log : DeploymentLog} (found : s.calls id = some call)
    (entered : call.position = .entered log) : Attended (s.accept id log) := by
  have awake : call.position ≠ .sleeping := by simp [entered]
  have before : call.position.leadsToFlush = false := by rw [entered]; rfl
  unfold Reporter.accept
  split
  · exact attended.move found awake rfl rfl (Or.inr (Or.inr ⟨rfl, before⟩))
  · split
    · exact attended.move found awake rfl rfl (Or.inr (Or.inr ⟨rfl, before⟩))
    · exact attended.move found awake rfl rfl (Or.inl rfl)

/-- Once the flag is set there is a timer, set now or before. -/
theorem scheduleFlush (attended : Attended s) (ledger : Ledger s) :
    Attended s.scheduleFlush ∧ TimerArmed s.scheduleFlush := by
  unfold Reporter.scheduleFlush
  split
  · rename_i set
    exact ⟨attended, attended.armed set⟩
  · have spawned := attended.spawn ledger .timer .sleeping
    have armed : TimerArmed (s.spawn .timer .sleeping) :=
      ⟨s.nextCall, ⟨.timer, .sleeping⟩, by simp [Reporter.spawn, moveTo], rfl⟩
    exact ⟨⟨spawned.coming, fun _ => armed⟩, armed⟩

theorem drain (attended : Attended s) (found : s.calls id = some call)
    (draining : call.position = .draining) : Attended (s.drain id call.caller) := by
  have awake : call.position ≠ .sleeping := by simp [draining]
  unfold Reporter.drain
  split
  · rename_i reason stopped
    refine attended.move found awake rfl rfl (Or.inr (Or.inl (Or.inr ?_)))
    simp [returnWith, moveTo, stopped]
  · split
    · rename_i nothing
      refine attended.move found awake rfl rfl (Or.inr (Or.inl (Or.inl ?_)))
      simpa [returnWith, moveTo] using nothing
    · exact attended.move found awake rfl rfl (Or.inl rfl)

theorem proceed (attended : Attended s) (ledger : Ledger s) (found : s.calls id = some call)
    (stepped : s.proceed id call = some s') : Attended s' := by
  unfold Reporter.proceed at stepped
  split at stepped
  case h_1 entered =>
    obtain rfl := Option.some.inj stepped
    exact attended.accept found entered
  case h_2 accepted =>
    obtain rfl := Option.some.inj stepped
    exact attended.move found (by simp [accepted]) rfl rfl (Or.inl rfl)
  case h_3 accepted =>
    obtain rfl := Option.some.inj stepped
    obtain ⟨scheduled, armed⟩ := attended.scheduleFlush ledger
    have awake : ∀ own, s.scheduleFlush.calls id = some own → own.position ≠ .sleeping := by
      intro own same
      rw [ledger.scheduleFlush_calls found] at same
      obtain rfl := Option.some.inj same
      simp [accepted]
    have after : TimerArmed (s.scheduleFlush.returnWith id .log (.ok ())) :=
      timerArmed_of_other armed rfl awake
    exact ⟨fun _ _ => after.flushComing, fun _ => after⟩
  case h_4 sleeping =>
    obtain rfl := Option.some.inj stepped
    exact ⟨fun _ _ => flushComing_of_update rfl rfl, fun set => by cases set⟩
  case h_5 queued =>
    split at stepped
    · obtain rfl := Option.some.inj stepped
      exact attended.move found (by simp [queued]) rfl rfl (Or.inl rfl)
    · cases stepped
  case h_6 draining =>
    obtain rfl := Option.some.inj stepped
    exact attended.drain found draining
  case h_8 latching =>
    obtain rfl := Option.some.inj stepped
    exact attended.move found (by simp [latching]) rfl rfl (Or.inr (Or.inl (Or.inl rfl)))
  case h_7 | h_9 => cases stepped

theorem answer (attended : Attended s) {failure : Option String} (found : s.calls id = some call)
    (stepped : s.answer id call failure = some s') : Attended s' := by
  unfold Reporter.answer at stepped
  split at stepped
  case h_1 sending =>
    obtain rfl := Option.some.inj stepped
    exact attended.move found (by simp [sending]) rfl rfl (Or.inl rfl)
  case h_2 sending =>
    obtain rfl := Option.some.inj stepped
    exact attended.move found (by simp [sending]) rfl rfl (Or.inl rfl)
  case h_3 => cases stepped

theorem new (redactLine : String → String) (logBounds : LogBounds) :
    Attended (.new redactLine logBounds) := by
  constructor <;> simp [Reporter.new]

end Attended

/-- No future is dropped. -/
def NoDrop : Action → Prop
  | .drop _ => False
  | _ => True

theorem Attended.step {s s' : Reporter} {action : Action} (attended : Attended s)
    (ledger : Ledger s) (kept : NoDrop action) (stepped : s.step action = some s') :
    Attended s' := by
  cases action with
  | log log =>
      obtain rfl := Option.some.inj stepped
      exact attended.spawn ledger _ _
  | flush =>
      obtain rfl := Option.some.inj stepped
      exact attended.spawn ledger _ _
  | proceed id =>
      obtain ⟨call, found, moved⟩ := Option.bind_eq_some_iff.mp stepped
      exact attended.proceed ledger found moved
  | answer id failure =>
      obtain ⟨call, found, moved⟩ := Option.bind_eq_some_iff.mp stepped
      exact attended.answer found moved
  | drop id => cases kept

theorem safeDrop_of_noDrop (s : Reporter) (action : Action) (kept : NoDrop action) :
    SafeDrop s action := by
  cases action with
  | drop id => cases kept
  | _ => trivial

end Reporter

/-- Ordered, duplicate-free and complete delivery, in one state of a reporter. -/
structure DeliveredInOrder (s : Reporter) : Prop where
  inOrder : s.handed.flatten <+: s.acceptedLines
  complete : s.state.deliveryStopped = none →
    s.acceptedLines = s.handed.flatten ++ s.state.pending
  bytes : s.state.deliveryStopped = none →
    s.state.pendingBytes = (s.state.pending.map DeploymentLog.byteCount).sum
  attended : s.state.pending ≠ [] → s.state.deliveryStopped = none → s.FlushComing
  flushed : ∀ id count, s.calls id = some ⟨.flush count, .returned (.ok ())⟩ →
    count ≤ s.acceptedLines.length ∧ s.acceptedLines.take count <+: s.acknowledged ∧
      s.acknowledged <+: s.handed.flatten

namespace Reporter

/-- In every state of every run without dropped futures delivery is ordered, duplicate-free and
complete. -/
theorem delivered_in_order (redactLine : String → String) (logBounds : LogBounds)
    (actions : List Action) (s : Reporter) (kept : ∀ action ∈ actions, NoDrop action)
    (run : Transition.exec step (.new redactLine logBounds) actions = some s) :
    DeliveredInOrder s := by
  have holds : Ledger s ∧ Attended s :=
    Transition.exec_invariant_along (fun _ action => NoDrop action)
      (fun s => Ledger s ∧ Attended s)
      (fun s action _ before kept stepped =>
        ⟨before.1.step (safeDrop_of_noDrop s action kept) stepped,
          before.2.step before.1 kept stepped⟩)
      ⟨Ledger.new redactLine logBounds, Attended.new redactLine logBounds⟩
      (Transition.along_of_forall kept) run
  obtain ⟨ledger, attended⟩ := holds
  refine
    { inOrder := ledger.handedBounded
      complete := fun running => by rw [ledger.handedExact running]; exact ledger.balanced running
      bytes := fun _ => ledger.bytes
      attended := attended.coming
      flushed := fun id count returned => ⟨ledger.called id count _ returned, ?_,
        ledger.acknowledgedBounded⟩ }
  have delivered := ledger.flushed id count returned
  obtain ⟨rest, accepted⟩ := ledger.acknowledgedBounded.trans ledger.handedBounded
  rw [← accepted, List.take_append_of_le_length delivered]
  exact List.take_prefix count _

/-- Two lines, the first of them sent by a timer while the second arrives, and a flush. -/
def twoLines : List Action :=
  [.log ⟨.stdout, "building"⟩, .proceed 0, .proceed 0, .proceed 1, .proceed 1, .proceed 1,
    .log ⟨.stdout, "ready"⟩, .proceed 2, .proceed 2, .flush, .answer 1 none, .proceed 1,
    .answer 1 none, .proceed 1, .proceed 4, .proceed 4]

theorem delivered_in_order_two : ∃ s,
    Transition.exec step (.new id {}) twoLines = some s ∧ DeliveredInOrder s := by
  have possible : (Transition.exec step (.new id {}) twoLines).isSome := by decide
  obtain ⟨s, run⟩ := Option.isSome_iff_exists.mp possible
  refine ⟨s, run, delivered_in_order id {} twoLines s ?_ run⟩
  simp [twoLines, NoDrop]

/-! ### Dropped futures -/

/-- What a flush does while its requests are acknowledged. -/
def Delivering : Action → Prop
  | .flush | .proceed _ | .answer _ none => True
  | _ => False

/-- From here a flush, with no request failing, ends in a state with nothing left to deliver, or in
a latched one because a request had failed already. -/
def Sendable (s : Reporter) : Prop :=
  ∃ actions s', (∀ action ∈ actions, Delivering action) ∧
    Transition.exec step s actions = some s' ∧
    (s'.acknowledged = s.acceptedLines ∨ s'.state.deliveryStopped ≠ none)

theorem Sendable.after {s : Reporter} (mid : Reporter) (action : Action)
    (delivering : Delivering action) (stepped : s.step action = some mid)
    (same : mid.acceptedLines = s.acceptedLines) (later : Sendable mid) : Sendable s := by
  obtain ⟨actions, s', all, run, done⟩ := later
  refine ⟨action :: actions, s', ?_, Transition.exec_cons_eq_some.mpr ⟨mid, stepped, run⟩, ?_⟩
  · intro other member
    rcases List.mem_cons.mp member with rfl | rest
    · exact delivering
    · exact all other rest
  · rwa [same] at done

theorem step_acknowledge {s : Reporter} {id : CallId} {call : Call} {batch : List DeploymentLog}
    (found : s.calls id = some call) (sending : call.position = .sending batch) :
    s.step (.answer id none) = some (s.acknowledge id call.caller batch) := by
  simp [step, found, answer, sending]

/-- With lines pending, the holder of the flush mutex takes a batch that is not empty. -/
theorem drain_pending {s : Reporter} {id : CallId} (caller : Caller)
    (running : s.state.deliveryStopped = none) (some_ : s.state.pending ≠ []) :
    ∃ batch rest, s.state.pending = batch ++ rest ∧ batch ≠ [] ∧
      (s.drain id caller).calls id = some ⟨caller, .sending batch⟩ ∧
      (s.drain id caller).state.pending = rest ∧
      (s.drain id caller).state.deliveryStopped = none ∧
      (s.drain id caller).acceptedLines = s.acceptedLines := by
  obtain ⟨taken, filled, progress⟩ := Ledger.fillBatch_eq s.batchMaxLines s.state.pending 0 0
  have positive := progress rfl some_
  refine ⟨s.state.pending.take taken, s.state.pending.drop taken,
    (List.take_append_drop taken _).symm, ?_, ?_⟩
  · intro nothing
    rcases List.take_eq_nil_iff.mp nothing with zero | empty
    · omega
    · exact some_ empty
  · simp [drain, running, some_, filled, moveTo]

/-- The loop of the holder of the flush mutex empties the pending lines. -/
theorem sendable_of_draining {s : Reporter} (id : CallId) (call : Call) (ledger : Ledger s)
    (running : s.state.deliveryStopped = none) (found : s.calls id = some call)
    (draining : call.position = .draining) : Sendable s := by
  induction length : s.state.pending.length using Nat.strongRecOn generalizing s call with
  | ind size ih =>
      by_cases nothing : s.state.pending = []
      · have holds : call.position.holdsFlushLock = true := by rw [draining]; rfl
        have idleLine : s.inFlight = [] := by
          rw [ledger.locked.inFlight_holder found holds, draining]
          rfl
        refine ⟨[], s, by simp, rfl, Or.inl ?_⟩
        rw [ledger.balanced running, idleLine, nothing, List.append_nil, List.append_nil]
      · obtain ⟨batch, rest, split, some_, sending, left, stillRunning, accepted⟩ :=
          drain_pending call.caller running nothing
        have taken : s.step (.proceed id) = some (s.drain id call.caller) := by
          simp [step, found, Reporter.proceed, draining]
        have sendingLedger : Ledger (s.drain id call.caller) := ledger.drain found draining
        refine Sendable.after _ (.proceed id) trivial taken accepted ?_
        refine Sendable.after _ (.answer id none) trivial (step_acknowledge sending rfl) rfl ?_
        have shorter : rest.length < size := by
          rw [← length, split, List.length_append]
          have long := List.length_pos_iff.mpr some_
          omega
        exact ih rest.length shorter ⟨call.caller, .draining⟩
          (sendingLedger.acknowledge sending rfl) stillRunning (by simp [acknowledge, moveTo]) rfl
          (congrArg List.length left)

theorem sendable {s : Reporter} (ledger : Ledger s) (running : s.state.deliveryStopped = none) :
    Sendable s := by
  cases lock : s.flushLock with
  | none =>
      let caller : Caller := .flush s.acceptedLines.length
      have started : s.step .flush = some (s.spawn caller .queued) := rfl
      have startedLedger : Ledger (s.spawn caller .queued) := 
        ledger.step (safeDrop_of_noDrop s .flush trivial) started
      have queued : (s.spawn caller .queued).calls s.nextCall = some ⟨caller, .queued⟩ := by
        simp [spawn, moveTo]
      have acquired : (s.spawn caller .queued).step (.proceed s.nextCall) =
          some ((s.spawn caller .queued).acquire s.nextCall caller) := by
        simp only [step, queued, Option.bind_some, Reporter.proceed]
        exact if_pos lock
      refine Sendable.after _ .flush trivial started rfl ?_
      refine Sendable.after _ (.proceed s.nextCall) trivial acquired rfl ?_
      exact sendable_of_draining s.nextCall ⟨caller, .draining⟩
        (startedLedger.acquire queued lock) running (by simp [acquire, moveTo]) rfl
  | some id =>
      obtain ⟨call, found⟩ := ledger.locked.live id lock
      have holds := (ledger.locked.holder id call found).mpr lock
      cases position : call.position with
      | draining => exact sendable_of_draining id call ledger running found position
      | sending batch =>
          refine Sendable.after _ (.answer id none) trivial (step_acknowledge found position) rfl ?_
          exact sendable_of_draining id ⟨call.caller, .draining⟩
            (ledger.acknowledge found position) running (by simp [acknowledge, moveTo]) rfl
      | latching batch reason =>
          refine ⟨[.proceed id], s.latch id call.caller reason, by simp [Delivering], ?_,
            Or.inr (by simp [latch])⟩
          simp [Transition.exec, step, found, Reporter.proceed, position]
      | entered | accepted | sleeping | queued | returned =>
          rw [position] at holds
          cases holds

end Reporter

/-- No line disappears silently: unless delivery has been stopped, every accepted line has been
acknowledged, or is in the batch of the call that holds the flush mutex, or is pending, and a flush
can deliver all of them. -/
structure NoSilentGap (s : Reporter) : Prop where
  accounted : s.state.deliveryStopped = none →
    s.acceptedLines = s.acknowledged ++ s.inFlight ++ s.state.pending
  sendable : s.state.deliveryStopped = none → s.Sendable

namespace Reporter

/-- In every state of every run in which no future is dropped while it holds a batch, no line has
disappeared. -/
theorem no_silent_gap (redactLine : String → String) (logBounds : LogBounds)
    (actions : List Action) (s : Reporter)
    (safe : Transition.Along step SafeDrop (.new redactLine logBounds) actions)
    (run : Transition.exec step (.new redactLine logBounds) actions = some s) : NoSilentGap s := by
  have ledger : Ledger s :=
    Transition.exec_invariant_along SafeDrop Ledger
      (fun _ _ _ ledger safe stepped => ledger.step safe stepped)
      (Ledger.new redactLine logBounds) safe run
  exact ⟨ledger.balanced, sendable ledger⟩

/-- A call of `log` whose batch is full is dropped while it waits for the flush mutex. -/
theorem no_silent_gap_queued : ∃ s,
    Transition.exec step (.new id { maxBatchLines := some 1 })
      [.log ⟨.stdout, "building"⟩, .proceed 0, .proceed 0, .drop 0] = some s ∧ NoSilentGap s := by
  have possible : (Transition.exec step (.new id { maxBatchLines := some 1 })
      [.log ⟨.stdout, "building"⟩, .proceed 0, .proceed 0, .drop 0]).isSome := by decide
  obtain ⟨s, run⟩ := Option.isSome_iff_exists.mp possible
  refine ⟨s, run, no_silent_gap id _ _ s ?_ run⟩
  iterate 3 refine (Transition.along_cons rfl).mpr ⟨trivial, ?_⟩
  refine ⟨?_, fun _ _ => trivial⟩
  intro call found
  obtain rfl := Option.some.inj found
  rfl

/-- A call of `log` is dropped while its request is on the way; the next line is delivered. -/
theorem batch_lost : ¬ ∀ (redactLine : String → String) (logBounds : LogBounds)
    (actions : List Action) (s : Reporter),
    Transition.exec step (.new redactLine logBounds) actions = some s → NoSilentGap s := by
  intro always
  have gap : (Transition.exec step (.new id { maxBatchLines := some 1 })
      [.log ⟨.stdout, "building"⟩, .proceed 0, .proceed 0, .proceed 0, .proceed 0, .drop 0,
        .log ⟨.stdout, "ready"⟩, .proceed 1, .proceed 1, .proceed 1, .proceed 1,
        .answer 1 none]).map (fun s => (s.acceptedLines.length,
          (s.acknowledged ++ s.inFlight ++ s.state.pending).length,
          s.state.deliveryStopped)) = some (2, 1, none) := by decide
  obtain ⟨s, run, counted⟩ := Option.map_eq_some_iff.mp gap
  obtain ⟨accepted, rest⟩ := Prod.mk.inj counted
  obtain ⟨kept, running⟩ := Prod.mk.inj rest
  have balanced := congrArg List.length ((always id _ _ s run).accounted running)
  rw [accepted, kept] at balanced
  cases balanced

end Reporter

end SakalaAgent
