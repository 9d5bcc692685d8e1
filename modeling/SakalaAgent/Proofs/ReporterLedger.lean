/-
Module: SakalaAgent.Proofs.ReporterLedger
Layer: Proofs
Purpose: The invariant of log delivery. At most one call holds the flush mutex, and only it can have
  a batch that is neither pending nor acknowledged, so accepted lines are, in order, acknowledged,
  in flight or pending. Dropping a caller's future keeps the invariant, except where it holds a
  batch.
Trusted boundary: none
Main exports: Reporter.Ledger, Reporter.SafeDrop, Reporter.Ledger.step
-/
import SakalaAgent.Core.Reporting.Reporter

namespace SakalaAgent

/-- The positions at which a call holds the flush mutex. -/
def CallPosition.holdsFlushLock : CallPosition → Bool
  | .draining | .sending _ | .latching _ _ => true
  | _ => false

/-- The lines a call has taken out of the pending ones and not accounted for yet. -/
def CallPosition.batch : CallPosition → List DeploymentLog
  | .sending batch | .latching batch _ => batch
  | _ => []

namespace Reporter

/-- The batch of the holder of the flush mutex. -/
def inFlight (s : Reporter) : List DeploymentLog :=
  match s.flushLock.bind s.calls with
  | some call => call.position.batch
  | none => []

/-! ### The flush mutex -/

/-- The holder of the flush mutex is a live call, at a position that holds it. -/
structure Locked (s : Reporter) : Prop where
  fresh : ∀ id, s.nextCall ≤ id → s.calls id = none
  holder : ∀ id call, s.calls id = some call →
    (call.position.holdsFlushLock = true ↔ s.flushLock = some id)
  live : ∀ id, s.flushLock = some id → ∃ call, s.calls id = some call

namespace Locked

variable {s s' : Reporter} {id : CallId} {call : Call}

theorem inFlight_holder (locked : Locked s) (found : s.calls id = some call)
    (holds : call.position.holdsFlushLock = true) : s.inFlight = call.position.batch := by
  have lock := (locked.holder id call found).mp holds
  simp [inFlight, lock, found]

theorem inFlight_of_free (free : s.flushLock = none) : s.inFlight = [] := by
  simp [inFlight, free]

theorem below (locked : Locked s) (found : s.calls id = some call) : id < s.nextCall := by
  by_contra above
  rw [locked.fresh id (Nat.le_of_not_lt above)] at found
  cases found

/-- One call is moved, started or dropped; the mutex may pass to or from it, and to no other. -/
theorem update (locked : Locked s) (next : Option Call)
    (calls : s'.calls = Function.update s.calls id next) (grown : s.nextCall ≤ s'.nextCall)
    (numbered : id < s'.nextCall)
    (own : s'.flushLock = some id ↔ ∃ call, next = some call ∧ call.position.holdsFlushLock = true)
    (others : ∀ other, other ≠ id → (s'.flushLock = some other ↔ s.flushLock = some other)) :
    Locked s' := by
  refine ⟨?_, ?_, ?_⟩
  · intro other above
    have ne : other ≠ id := fun same => Nat.not_lt.mpr above (same ▸ numbered)
    rw [calls, Function.update_of_ne ne]
    exact locked.fresh other (grown.trans above)
  · intro other call found
    by_cases same : other = id
    · subst same
      rw [calls, Function.update_self] at found
      rw [own, found]
      simp
    · rw [calls, Function.update_of_ne same] at found
      rw [others other same]
      exact locked.holder other call found
  · intro other lock
    by_cases same : other = id
    · subst same
      obtain ⟨call, held, _⟩ := own.mp lock
      exact ⟨call, by rw [calls, Function.update_self, held]⟩
    · obtain ⟨call, found⟩ := locked.live other ((others other same).mp lock)
      exact ⟨call, by rw [calls, Function.update_of_ne same, found]⟩

/-- A call that does not hold the mutex before and after changes nothing that is in flight. -/
theorem inFlight_other (next : Option Call) (calls : s'.calls = Function.update s.calls id next)
    (lock : s'.flushLock = s.flushLock) (idle : s.flushLock ≠ some id) :
    s'.inFlight = s.inFlight := by
  unfold inFlight
  rw [lock, calls]
  cases held : s.flushLock with
  | none => rfl
  | some other =>
      have ne : other ≠ id := by
        rintro rfl
        exact idle held
      simp [Function.update_of_ne ne]

end Locked

/-! ### The ledger -/

/-- What becomes of accepted lines. -/
structure Ledger (s : Reporter) : Prop where
  locked : Locked s
  bytes : s.state.pendingBytes = (s.state.pending.map DeploymentLog.byteCount).sum
  balanced : s.state.deliveryStopped = none →
    s.acceptedLines = s.acknowledged ++ s.inFlight ++ s.state.pending
  handedExact : s.state.deliveryStopped = none → s.handed.flatten = s.acknowledged ++ s.inFlight
  handedBounded : s.handed.flatten <+: s.acceptedLines
  acknowledgedBounded : s.acknowledged <+: s.handed.flatten
  stopped : s.state.deliveryStopped ≠ none → s.state.pending = [] ∧ s.inFlight = []
  called : ∀ id count position, s.calls id = some ⟨.flush count, position⟩ →
    count ≤ s.acceptedLines.length
  flushed : ∀ id count, s.calls id = some ⟨.flush count, .returned (.ok ())⟩ →
    count ≤ s.acknowledged.length

/-- The sections that change neither the lines nor the counts, and what is in flight neither. -/
structure SameLines (s s' : Reporter) : Prop where
  state : s'.state = s.state
  acceptedLines : s'.acceptedLines = s.acceptedLines
  handed : s'.handed = s.handed
  acknowledged : s'.acknowledged = s.acknowledged
  inFlight : s'.inFlight = s.inFlight

/-- What the counts of a flush call promise. -/
def CountsHeld (s : Reporter) (next : Option Call) : Prop :=
  ∀ count position, next = some ⟨.flush count, position⟩ → count ≤ s.acceptedLines.length ∧
    (position = .returned (.ok ()) → count ≤ s.acknowledged.length)

namespace Ledger

variable {s s' : Reporter} {id : CallId} {call : Call}

/-- The counts are kept when accepted and acknowledged lines only grow and one call changes. -/
theorem counts (ledger : Ledger s) (s' : Reporter) {next : Option Call}
    (calls : s'.calls = Function.update s.calls id next)
    (accepted : s.acceptedLines.length ≤ s'.acceptedLines.length)
    (acknowledged : s.acknowledged.length ≤ s'.acknowledged.length)
    (held : CountsHeld s' next) :
    (∀ id count position, s'.calls id = some ⟨.flush count, position⟩ →
      count ≤ s'.acceptedLines.length) ∧
    ∀ id count, s'.calls id = some ⟨.flush count, .returned (.ok ())⟩ →
      count ≤ s'.acknowledged.length := by
  constructor
  · intro other count position found
    by_cases same : other = id
    · subst same
      rw [calls, Function.update_self] at found
      exact (held count position found).1
    · rw [calls, Function.update_of_ne same] at found
      exact (ledger.called other count position found).trans accepted
  · intro other count found
    by_cases same : other = id
    · subst same
      rw [calls, Function.update_self] at found
      exact (held count _ found).2 rfl
    · rw [calls, Function.update_of_ne same] at found
      exact (ledger.flushed other count found).trans acknowledged

/-- A call changes, and the lines stay where they are. -/
theorem of_sameLines (ledger : Ledger s) (next : Option Call) (same : SameLines s s')
    (locked : Locked s') (calls : s'.calls = Function.update s.calls id next)
    (held : CountsHeld s next) : Ledger s' := by
  have held' : CountsHeld s' next := by
    unfold CountsHeld
    rw [same.acceptedLines, same.acknowledged]
    exact held
  obtain ⟨called, flushed⟩ := ledger.counts s' calls (by rw [same.acceptedLines])
    (by rw [same.acknowledged]) held'
  exact
    { locked := locked
      bytes := by rw [same.state]; exact ledger.bytes
      balanced := by
        rw [same.state, same.acceptedLines, same.acknowledged, same.inFlight]
        exact ledger.balanced
      handedExact := by
        rw [same.state, same.handed, same.acknowledged, same.inFlight]
        exact ledger.handedExact
      handedBounded := by rw [same.handed, same.acceptedLines]; exact ledger.handedBounded
      acknowledgedBounded := by
        rw [same.handed, same.acknowledged]
        exact ledger.acknowledgedBounded
      stopped := by rw [same.state, same.inFlight]; exact ledger.stopped
      called := called
      flushed := flushed }

/-- A call that does not hold the flush mutex moves to a position that does not either, or a new
call starts at one, or such a call is dropped. -/
theorem moveIdle (ledger : Ledger s) (idle : s.flushLock ≠ some id) (next : Option Call)
    (calls : s'.calls = Function.update s.calls id next)
    (nextIdle : ∀ call, next = some call → call.position.holdsFlushLock = false)
    (lock : s'.flushLock = s.flushLock) (grown : s.nextCall ≤ s'.nextCall)
    (numbered : id < s'.nextCall) (state : s'.state = s.state)
    (acceptedLines : s'.acceptedLines = s.acceptedLines) (handed : s'.handed = s.handed)
    (acknowledged : s'.acknowledged = s.acknowledged) (held : CountsHeld s next) : Ledger s' := by
  have free : ¬∃ call, next = some call ∧ call.position.holdsFlushLock = true := by
    rintro ⟨call, rfl, holds⟩
    rw [nextIdle call rfl] at holds
    cases holds
  have locked : Locked s' :=
    ledger.locked.update next calls grown numbered
      ⟨fun taken => absurd (lock ▸ taken) idle, fun holds => absurd holds free⟩
      (fun _ _ => by rw [lock])
  exact ledger.of_sameLines next
    ⟨state, acceptedLines, handed, acknowledged, Locked.inFlight_other next calls lock idle⟩
    locked calls held

theorem idle_of_position (ledger : Ledger s) (found : s.calls id = some call)
    (idle : call.position.holdsFlushLock = false) : s.flushLock ≠ some id := by
  intro lock
  rw [(ledger.locked.holder id call found).mpr lock] at idle
  cases idle

theorem idle_of_fresh (ledger : Ledger s) : s.flushLock ≠ some s.nextCall := by
  intro lock
  obtain ⟨call, found⟩ := ledger.locked.live _ lock
  exact absurd (ledger.locked.below found) (Nat.lt_irrefl _)

theorem countsHeld_of_log (s : Reporter) (position : CallPosition) :
    CountsHeld s (some ⟨.log, position⟩) := by
  intro count position found
  cases found

theorem countsHeld_of_timer (s : Reporter) (position : CallPosition) :
    CountsHeld s (some ⟨.timer, position⟩) := by
  intro count position found
  cases found

/-- A caller that is known keeps its count, wherever it goes except to a success. -/
theorem countsHeld_of_caller (ledger : Ledger s) (found : s.calls id = some call)
    {position : CallPosition} (running : position ≠ .returned (.ok ())) :
    CountsHeld s (some ⟨call.caller, position⟩) := by
  intro count position' same
  obtain ⟨caller, old⟩ := call
  obtain ⟨rfl, rfl⟩ := Call.mk.inj (Option.some.inj same)
  exact ⟨ledger.called id count old found, fun success => absurd success running⟩

theorem spawn (ledger : Ledger s) (caller : Caller) (position : CallPosition)
    (idle : position.holdsFlushLock = false) (held : CountsHeld s (some ⟨caller, position⟩)) :
    Ledger (s.spawn caller position) :=
  ledger.moveIdle ledger.idle_of_fresh (some ⟨caller, position⟩) rfl
    (fun call same => by obtain rfl := Option.some.inj same; exact idle) rfl
    (Nat.le_succ _) (Nat.lt_succ_self _) rfl rfl rfl rfl held

/-- A call of `log` or a timer returns or moves on without the flush mutex. -/
theorem moveTo (ledger : Ledger s) (found : s.calls id = some call)
    (idle : call.position.holdsFlushLock = false) (caller : Caller) (position : CallPosition)
    (nextIdle : position.holdsFlushLock = false) (held : CountsHeld s (some ⟨caller, position⟩)) :
    Ledger (s.moveTo id caller position) :=
  ledger.moveIdle (ledger.idle_of_position found idle) (some ⟨caller, position⟩) rfl
    (fun call same => by obtain rfl := Option.some.inj same; exact nextIdle) rfl
    (Nat.le_refl _) (ledger.locked.below found) rfl rfl rfl rfl held

theorem returnIdle (ledger : Ledger s) (found : s.calls id = some call)
    (idle : call.position.holdsFlushLock = false) (outcome : Except String Unit) :
    Ledger (s.returnWith id .log outcome) := by
  have other := ledger.idle_of_position found idle
  refine ledger.moveIdle other (some ⟨.log, .returned outcome⟩) rfl ?_ ?_ (Nat.le_refl _)
    (ledger.locked.below found) rfl rfl rfl rfl (countsHeld_of_log s _)
  · intro call same
    obtain rfl := Option.some.inj same
    rfl
  · simp [returnWith, Reporter.moveTo, other]

/-! ### The sections of `log` -/

/-- One more accepted line, which is pending. -/
theorem acceptLine (ledger : Ledger s) (running : s.state.deliveryStopped = none)
    (line : DeploymentLog) (bytesSent : Nat) :
    Ledger { s with
      state :=
        { s.state with
          bytesSent := bytesSent
          pendingBytes := s.state.pendingBytes + line.byteCount
          pending := s.state.pending ++ [line] }
      acceptedLines := s.acceptedLines ++ [line] } where
  locked := ⟨ledger.locked.fresh, ledger.locked.holder, ledger.locked.live⟩
  bytes := by simp [ledger.bytes]
  balanced _ := by
    change s.acceptedLines ++ [line] = s.acknowledged ++ s.inFlight ++ (s.state.pending ++ [line])
    rw [ledger.balanced running, List.append_assoc]
  handedExact := ledger.handedExact
  handedBounded := ledger.handedBounded.trans (List.prefix_append _ _)
  acknowledgedBounded := ledger.acknowledgedBounded
  stopped stopped := absurd running stopped
  called id count position found := by
    have before := ledger.called id count position found
    simp only [List.length_append, List.length_singleton]
    exact before.trans (Nat.le_succ _)
  flushed := ledger.flushed

theorem accept (ledger : Ledger s) {log : DeploymentLog} (found : s.calls id = some call)
    (entered : call.position = .entered log) : Ledger (s.accept id log) := by
  have idle : call.position.holdsFlushLock = false := by rw [entered]; rfl
  unfold Reporter.accept
  split
  · exact ledger.returnIdle found idle _
  · rename_i running
    split
    · exact ledger.returnIdle found idle _
    · rename_i line _
      exact (ledger.moveTo found idle .log _ rfl (countsHeld_of_log s _)).acceptLine running line _

theorem scheduleFlush (ledger : Ledger s) : Ledger s.scheduleFlush := by
  unfold Reporter.scheduleFlush
  split
  · exact ledger
  · have spawned := ledger.spawn .timer .sleeping rfl (countsHeld_of_timer s _)
    exact ⟨⟨spawned.locked.fresh, spawned.locked.holder, spawned.locked.live⟩, spawned.bytes,
      spawned.balanced, spawned.handedExact, spawned.handedBounded, spawned.acknowledgedBounded,
      spawned.stopped, spawned.called, spawned.flushed⟩

theorem scheduleFlush_calls (ledger : Ledger s) (found : s.calls id = some call) :
    s.scheduleFlush.calls id = some call := by
  unfold Reporter.scheduleFlush
  split
  · exact found
  · have ne : id ≠ s.nextCall := Nat.ne_of_lt (ledger.locked.below found)
    simp [Reporter.spawn, Reporter.moveTo, Function.update_of_ne ne, found]

/-! ### The sections of `flush_pending` -/

/-- The holder of the flush mutex returns, with nothing in flight and nothing said of the lines. -/
theorem returnHolder (ledger : Ledger s) (found : s.calls id = some call)
    (holds : call.position.holdsFlushLock = true) (empty : call.position.batch = [])
    (caller : Caller) (outcome : Except String Unit)
    (held : CountsHeld s (some ⟨caller, .returned outcome⟩)) :
    Ledger (s.returnWith id caller outcome) := by
  have lock : s.flushLock = some id := (ledger.locked.holder id call found).mp holds
  have freed : (s.returnWith id caller outcome).flushLock = none := by simp [returnWith, lock]
  have locked : Locked (s.returnWith id caller outcome) := by
    refine ledger.locked.update (some ⟨caller, .returned outcome⟩) rfl (Nat.le_refl _)
      (ledger.locked.below found) ?_ ?_
    · simp [freed, CallPosition.holdsFlushLock]
    · intro other ne
      rw [freed, lock]
      constructor
      · intro impossible
        cases impossible
      · intro same
        exact absurd (Option.some.inj same).symm ne
  have inFlight : (s.returnWith id caller outcome).inFlight = s.inFlight := by
    rw [Locked.inFlight_of_free freed, ledger.locked.inFlight_holder found holds, empty]
  exact ledger.of_sameLines (some ⟨caller, .returned outcome⟩) ⟨rfl, rfl, rfl, rfl, inFlight⟩ locked
    rfl held

/-- The holder of the flush mutex moves between two positions that hold it. -/
theorem holderLocked (ledger : Ledger s) (found : s.calls id = some call)
    (holds : call.position.holdsFlushLock = true) (caller : Caller) (position : CallPosition)
    (nextHolds : position.holdsFlushLock = true) : Locked (s.moveTo id caller position) := by
  refine ledger.locked.update (some ⟨caller, position⟩) rfl (Nat.le_refl _)
    (ledger.locked.below found) ?_ (fun _ _ => Iff.rfl)
  have lock : s.flushLock = some id := (ledger.locked.holder id call found).mp holds
  simp [Reporter.moveTo, lock, nextHolds]

theorem holder_inFlight (ledger : Ledger s) (found : s.calls id = some call)
    (holds : call.position.holdsFlushLock = true) (caller : Caller) (position : CallPosition) :
    (s.moveTo id caller position).inFlight = position.batch := by
  have lock : s.flushLock = some id := (ledger.locked.holder id call found).mp holds
  simp [inFlight, Reporter.moveTo, lock]

theorem acquire (ledger : Ledger s) (found : s.calls id = some call) (free : s.flushLock = none) :
    Ledger (s.acquire id call.caller) := by
  have inFlight : (s.acquire id call.caller).inFlight = s.inFlight := by
    rw [Locked.inFlight_of_free free]
    simp [Reporter.inFlight, Reporter.acquire, Reporter.moveTo, CallPosition.batch]
  refine ledger.of_sameLines (some ⟨call.caller, .draining⟩) ⟨rfl, rfl, rfl, rfl, inFlight⟩ ?_ rfl
    (ledger.countsHeld_of_caller found (by simp))
  refine ledger.locked.update (some ⟨call.caller, .draining⟩) rfl (Nat.le_refl _)
    (ledger.locked.below found) ?_ ?_
  · simp [Reporter.acquire, CallPosition.holdsFlushLock]
  · intro other ne
    simp [Reporter.acquire, free, Ne.symm ne]

/-- What `fillBatch` counts: the lines it passes and their bytes. -/
theorem fillBatch_eq (maxLines : Nat) (logs : List DeploymentLog) (count bytes : Nat) :
    ∃ taken, fillBatch maxLines logs count bytes =
      (count + taken, bytes + ((logs.take taken).map DeploymentLog.byteCount).sum) ∧
      (count = 0 → logs ≠ [] → 0 < taken) := by
  induction logs generalizing count bytes with
  | nil => exact ⟨0, by simp [fillBatch], by simp⟩
  | cons log rest ih =>
      unfold fillBatch
      split
      · rename_i full
        exact ⟨0, by simp, fun zero => absurd (zero ▸ full.1) (Nat.lt_irrefl 0)⟩
      · obtain ⟨taken, filled, _⟩ := ih (count + 1) (bytes + log.byteCount)
        refine ⟨taken + 1, ?_, fun _ _ => Nat.succ_pos _⟩
        rw [filled]
        simp only [List.take_succ_cons, List.map_cons, List.sum_cons, Prod.mk.injEq]
        omega

/-- The batch that is taken out of the pending lines is in flight. -/
theorem drain (ledger : Ledger s) (found : s.calls id = some call)
    (draining : call.position = .draining) : Ledger (s.drain id call.caller) := by
  have holds : call.position.holdsFlushLock = true := by rw [draining]; rfl
  have empty : call.position.batch = [] := by rw [draining]; rfl
  have idleLine : s.inFlight = [] := by rw [ledger.locked.inFlight_holder found holds, empty]
  unfold Reporter.drain
  split
  · exact ledger.returnHolder found holds empty _ _ (ledger.countsHeld_of_caller found (by simp))
  · rename_i running
    split
    · rename_i none_
      have nothing : s.state.pending = [] := by simpa using none_
      have delivered : s.acceptedLines = s.acknowledged := by
        rw [ledger.balanced running, idleLine, nothing, List.append_nil, List.append_nil]
      refine ledger.returnHolder found holds empty _ _ ?_
      intro count position same
      obtain ⟨caller, old⟩ := call
      obtain ⟨rfl, rfl⟩ := Call.mk.inj (Option.some.inj same)
      have counted := ledger.called id count old found
      exact ⟨counted, fun _ => delivered ▸ counted⟩
    · obtain ⟨taken, filled, _⟩ := fillBatch_eq s.batchMaxLines s.state.pending 0 0
      rw [filled]
      simp only [Nat.zero_add]
      have inFlight : (s.moveTo id call.caller (.sending (s.state.pending.take taken))).inFlight =
          s.state.pending.take taken := ledger.holder_inFlight found holds _ _
      have locked := ledger.holderLocked found holds call.caller
        (.sending (s.state.pending.take taken)) rfl
      obtain ⟨called, flushed⟩ := ledger.counts (s.moveTo id call.caller
        (.sending (s.state.pending.take taken))) rfl (Nat.le_refl _) (Nat.le_refl _)
        (ledger.countsHeld_of_caller found (by simp))
      have exactBefore := ledger.handedExact running
      have balancedBefore := ledger.balanced running
      rw [idleLine, List.append_nil] at exactBefore balancedBefore
      refine
        { locked := ⟨locked.fresh, locked.holder, locked.live⟩
          bytes := ?_
          balanced := fun _ => ?_
          handedExact := fun _ => ?_
          handedBounded := ?_
          acknowledgedBounded := ?_
          stopped := fun stopped => absurd running stopped
          called := called
          flushed := flushed }
      · have split := congrArg (fun logs => (logs.map DeploymentLog.byteCount).sum)
          (List.take_append_drop taken s.state.pending)
        simp only [List.map_append, List.sum_append] at split
        change s.state.pendingBytes - _ = ((s.state.pending.drop taken).map _).sum
        rw [ledger.bytes]
        omega
      · change s.acceptedLines = s.acknowledged ++ (s.moveTo id _ _).inFlight ++ _
        rw [inFlight, balancedBefore, List.append_assoc, List.take_append_drop]
      · change (s.handed ++ [_]).flatten = s.acknowledged ++ (s.moveTo id _ _).inFlight
        rw [inFlight, List.flatten_append, exactBefore]
        simp
      · change (s.handed ++ [_]).flatten <+: s.acceptedLines
        rw [List.flatten_append, exactBefore, balancedBefore]
        refine ⟨s.state.pending.drop taken, ?_⟩
        simp [List.append_assoc]
      · change s.acknowledged <+: (s.handed ++ [_]).flatten
        rw [List.flatten_append, exactBefore]
        exact List.prefix_append _ _

/-- An acknowledged batch. -/
theorem acknowledge (ledger : Ledger s) {batch : List DeploymentLog}
    (found : s.calls id = some call) (sending : call.position = .sending batch) :
    Ledger (s.acknowledge id call.caller batch) := by
  have holds : call.position.holdsFlushLock = true := by rw [sending]; rfl
  have before : s.inFlight = batch := by
    rw [ledger.locked.inFlight_holder found holds, sending]
    rfl
  have after : (s.moveTo id call.caller .draining).inFlight = [] :=
    ledger.holder_inFlight found holds _ _
  have locked := ledger.holderLocked found holds call.caller .draining rfl
  have longer : s.acknowledged.length ≤ (s.acknowledged ++ batch).length := by simp
  obtain ⟨called, flushed⟩ := ledger.counts (s.acknowledge id call.caller batch) rfl
    (Nat.le_refl _) longer
    (fun count position same =>
      ⟨(ledger.countsHeld_of_caller found (by simp) count position same).1, fun success => by
        obtain ⟨_, rfl⟩ := Call.mk.inj (Option.some.inj same)
        cases success⟩)
  refine
    { locked := ⟨locked.fresh, locked.holder, locked.live⟩
      bytes := ledger.bytes
      balanced := fun running => ?_
      handedExact := fun running => ?_
      handedBounded := ledger.handedBounded
      acknowledgedBounded := ?_
      stopped := fun stopped => ⟨(ledger.stopped stopped).1, after⟩
      called := called
      flushed := flushed }
  · change s.acceptedLines = s.acknowledged ++ batch ++ (s.moveTo id _ _).inFlight ++ s.state.pending
    rw [after, ledger.balanced running, before, List.append_nil]
  · change s.handed.flatten = s.acknowledged ++ batch ++ (s.moveTo id _ _).inFlight
    rw [after, ledger.handedExact running, before, List.append_nil]
  · change s.acknowledged ++ batch <+: s.handed.flatten
    by_cases running : s.state.deliveryStopped = none
    · have handed := (ledger.handedExact running).trans (congrArg (s.acknowledged ++ ·) before)
      exact handed ▸ List.prefix_rfl
    · rw [(ledger.stopped running).2] at before
      rw [← before, List.append_nil]
      exact ledger.acknowledgedBounded

/-- A request that has failed keeps its batch in flight until delivery is stopped. -/
theorem failed (ledger : Ledger s) {batch : List DeploymentLog} (found : s.calls id = some call)
    (sending : call.position = .sending batch) (reason : String) :
    Ledger (s.moveTo id call.caller (.latching batch reason)) := by
  have holds : call.position.holdsFlushLock = true := by rw [sending]; rfl
  have inFlight : (s.moveTo id call.caller (.latching batch reason)).inFlight = s.inFlight := by
    rw [ledger.holder_inFlight found holds, ledger.locked.inFlight_holder found holds, sending]
    rfl
  exact ledger.of_sameLines (some ⟨call.caller, .latching batch reason⟩)
    ⟨rfl, rfl, rfl, rfl, inFlight⟩ (ledger.holderLocked found holds _ _ rfl) rfl
    (ledger.countsHeld_of_caller found (by simp))

/-- The delivery stops: what was pending or in flight is given up, and nothing is any more. -/
theorem latch (ledger : Ledger s) {batch : List DeploymentLog} {reason : String}
    (found : s.calls id = some call) (latching : call.position = .latching batch reason) :
    Ledger (s.latch id call.caller reason) := by
  have holds : call.position.holdsFlushLock = true := by rw [latching]; rfl
  have lock : s.flushLock = some id := (ledger.locked.holder id call found).mp holds
  have freed : (s.latch id call.caller reason).flushLock = none := by
    simp [Reporter.latch, returnWith, lock]
  have inFlight : (s.latch id call.caller reason).inFlight = [] := Locked.inFlight_of_free freed
  have locked : Locked (s.latch id call.caller reason) := by
    refine ledger.locked.update (some ⟨call.caller, .returned _⟩) rfl (Nat.le_refl _)
      (ledger.locked.below found) ?_ ?_
    · simp [freed, CallPosition.holdsFlushLock]
    · intro other ne
      rw [freed, lock]
      simp [Ne.symm ne]
  obtain ⟨called, flushed⟩ := ledger.counts (s.latch id call.caller reason) rfl
    (Nat.le_refl _) (Nat.le_refl _) (ledger.countsHeld_of_caller found (by simp))
  exact
    { locked := locked
      bytes := rfl
      balanced := fun running => by cases running
      handedExact := fun running => by cases running
      handedBounded := ledger.handedBounded
      acknowledgedBounded := ledger.acknowledgedBounded
      stopped := fun _ => ⟨rfl, inFlight⟩
      called := called
      flushed := flushed }

/-! ### Steps -/

theorem proceed (ledger : Ledger s) (found : s.calls id = some call)
    (stepped : s.proceed id call = some s') : Ledger s' := by
  unfold Reporter.proceed at stepped
  split at stepped
  case h_1 entered =>
    obtain rfl := Option.some.inj stepped
    exact ledger.accept found entered
  case h_2 accepted =>
    obtain rfl := Option.some.inj stepped
    exact ledger.moveTo found (by rw [accepted]; rfl) .log .queued rfl (countsHeld_of_log s _)
  case h_3 accepted =>
    obtain rfl := Option.some.inj stepped
    exact ledger.scheduleFlush.returnIdle (ledger.scheduleFlush_calls found)
      (by rw [accepted]; rfl) _
  case h_4 sleeping =>
    obtain rfl := Option.some.inj stepped
    have moved := ledger.moveTo found (by rw [sleeping]; rfl) .timer .queued rfl
      (countsHeld_of_timer s _)
    exact ⟨⟨moved.locked.fresh, moved.locked.holder, moved.locked.live⟩, moved.bytes,
      moved.balanced, moved.handedExact, moved.handedBounded, moved.acknowledgedBounded,
      moved.stopped, moved.called, moved.flushed⟩
  case h_5 =>
    split at stepped
    · rename_i free
      obtain rfl := Option.some.inj stepped
      exact ledger.acquire found free
    · cases stepped
  case h_6 draining =>
    obtain rfl := Option.some.inj stepped
    exact ledger.drain found draining
  case h_8 latching =>
    obtain rfl := Option.some.inj stepped
    exact ledger.latch found latching
  case h_7 | h_9 => cases stepped

theorem answer (ledger : Ledger s) {failure : Option String} (found : s.calls id = some call)
    (stepped : s.answer id call failure = some s') : Ledger s' := by
  unfold Reporter.answer at stepped
  split at stepped
  case h_1 sending =>
    obtain rfl := Option.some.inj stepped
    exact ledger.acknowledge found sending
  case h_2 sending =>
    obtain rfl := Option.some.inj stepped
    exact ledger.failed found sending _
  case h_3 => cases stepped

/-- Dropping a future that has no batch loses no line. -/
theorem dropCall (ledger : Ledger s) (found : s.calls id = some call)
    (empty : call.position.batch = []) (stepped : s.dropCall id call = some s') : Ledger s' := by
  unfold Reporter.dropCall at stepped
  split at stepped
  case isFalse => cases stepped
  case isTrue =>
    obtain rfl := Option.some.inj stepped
    have none_ : CountsHeld s none := fun count position impossible => by cases impossible
    cases holds : call.position.holdsFlushLock with
    | false =>
        have other := ledger.idle_of_position found holds
        exact ledger.moveIdle other none rfl (fun _ impossible => by cases impossible)
          (by simp [other]) (Nat.le_refl _) (ledger.locked.below found) rfl rfl rfl rfl none_
    | true =>
        have lock : s.flushLock = some id := (ledger.locked.holder id call found).mp holds
        have before : s.inFlight = [] := by
          rw [ledger.locked.inFlight_holder found holds, empty]
        have after : Reporter.inFlight { s with
            calls := Function.update s.calls id none
            flushLock := if s.flushLock = some id then none else s.flushLock } = s.inFlight := by
          rw [before]
          exact Locked.inFlight_of_free (by simp [lock])
        refine ledger.of_sameLines none ⟨rfl, rfl, rfl, rfl, after⟩ ?_ rfl none_
        refine ledger.locked.update none rfl (Nat.le_refl _) (ledger.locked.below found) ?_ ?_
        · simp [lock]
        · intro other ne
          simp [lock, Ne.symm ne]

theorem new (redactLine : String → String) (logBounds : LogBounds) :
    Ledger (.new redactLine logBounds) := by
  constructor <;> simp [Reporter.new, inFlight]
  constructor <;> simp

end Ledger

/-- A drop that leaves no batch behind. -/
def SafeDrop (s : Reporter) : Action → Prop
  | .drop id => ∀ call, s.calls id = some call → call.position.batch = []
  | _ => True

theorem Ledger.step {s s' : Reporter} {action : Action} (ledger : Ledger s)
    (safe : SafeDrop s action) (stepped : s.step action = some s') : Ledger s' := by
  cases action with
  | log log =>
      obtain rfl := Option.some.inj stepped
      exact ledger.spawn _ _ rfl (countsHeld_of_log s _)
  | flush =>
      obtain rfl := Option.some.inj stepped
      refine ledger.spawn _ _ rfl ?_
      intro count position same
      obtain ⟨called, rfl⟩ := Call.mk.inj (Option.some.inj same)
      obtain rfl := Caller.flush.inj called
      exact ⟨Nat.le_refl _, fun impossible => by cases impossible⟩
  | proceed id =>
      obtain ⟨call, found, moved⟩ := Option.bind_eq_some_iff.mp stepped
      exact ledger.proceed found moved
  | answer id failure =>
      obtain ⟨call, found, moved⟩ := Option.bind_eq_some_iff.mp stepped
      exact ledger.answer found moved
  | drop id =>
      obtain ⟨call, found, moved⟩ := Option.bind_eq_some_iff.mp stepped
      exact ledger.dropCall found (safe call found) moved

end Reporter

end SakalaAgent
