/-
Module: SakalaAgent.Proofs.DeliveryLatch
Layer: Proofs
Purpose: The latch of log delivery. A failed request is recorded under the flush mutex, so nobody
  else has a request on the way then, and whoever comes later finds the delivery stopped. All of it
  holds with dropped futures as well.
Trusted boundary: none
Main exports: Goes, Reporter.step_calls, Reporter.step_lines, DeliveryLatched,
  Reporter.delivery_latched
-/
import SakalaAgent.Proofs.ReporterLedger
import SakalaAgent.Transition.Runs

namespace SakalaAgent

/-- The error of a call that finds the delivery stopped. -/
def stoppedError (reason : String) : Except String Unit :=
  .error s!"log delivery stopped: {reason}"

/-! ### What a step does -/

/-- The moves of one call, with the delivery stopped for a reason, or running, before and after. -/
inductive Goes (before after : Option String) : CallPosition → CallPosition → Prop where
  | refused {log : DeploymentLog} {reason : String} (stopped : before = some reason) :
      Goes before after (.entered log) (.returned (stoppedError reason))
  | skipped {log : DeploymentLog} (running : before = none) :
      Goes before after (.entered log) (.returned (.ok ()))
  | taken {log : DeploymentLog} {flushNow : Bool} (running : before = none) :
      Goes before after (.entered log) (.accepted flushNow)
  | filled : Goes before after (.accepted true) .queued
  | scheduled : Goes before after (.accepted false) (.returned (.ok ()))
  | elapsed : Goes before after .sleeping .queued
  | acquired : Goes before after .queued .draining
  | stopped {reason : String} (stopped : before = some reason) :
      Goes before after .draining (.returned (stoppedError reason))
  | emptied (running : before = none) : Goes before after .draining (.returned (.ok ()))
  | drained {batch : List DeploymentLog} (running : before = none) :
      Goes before after .draining (.sending batch)
  | acknowledged {batch : List DeploymentLog} : Goes before after (.sending batch) .draining
  | failed {batch : List DeploymentLog} {reason : String} :
      Goes before after (.sending batch) (.latching batch reason)
  | latched {batch : List DeploymentLog} {reason : String} (recorded : after = some reason) :
      Goes before after (.latching batch reason) (.returned (stoppedError reason))

/-- Where a new call stands. -/
def CallPosition.isStart : CallPosition → Bool
  | .entered _ | .queued | .sleeping => true
  | _ => false

/-- A request has been made and its end is not recorded yet. -/
def CallPosition.isRequesting : CallPosition → Bool
  | .sending _ | .latching _ _ => true
  | _ => false

theorem CallPosition.holds_of_requesting {position : CallPosition}
    (requesting : position.isRequesting = true) : position.holdsFlushLock = true := by
  cases position with
  | sending batch => rfl
  | latching batch reason => rfl
  | entered | accepted | sleeping | queued | draining | returned => cases requesting

theorem CallPosition.isRequesting_of_start {position : CallPosition}
    (start : position.isStart = true) : position.isRequesting = false := by
  cases position with
  | entered | queued | sleeping => rfl
  | accepted | draining | sending | latching | returned => cases start

namespace Goes

variable {after : Option String} {position position' : CallPosition}

/-- Behind the latch nobody makes a request. -/
theorem isRequesting {reason : String} (goes : Goes (some reason) after position position')
    (idle : position.isRequesting = false) : position'.isRequesting = false := by
  cases goes with
  | acknowledged | failed | latched => cases idle
  | skipped running | taken running | emptied running | drained running => cases running
  | refused | filled | scheduled | elapsed | acquired | stopped => rfl

/-- Before the latch nobody is refused. -/
theorem ok {outcome : Except String Unit} (goes : Goes none none position (.returned outcome)) :
    outcome = .ok () := by
  cases goes with
  | skipped | scheduled | emptied => rfl
  | refused stopped | stopped stopped => cases stopped
  | latched recorded => cases recorded

end Goes

namespace Reporter

variable {s s' : Reporter} {id : CallId} {call : Call} {action : Action}

/-- A call of the state after a step: as it was, one move on, or new. -/
def CallStep (s s' : Reporter) (id : CallId) (call' : Call) : Prop :=
  s.calls id = some call' ∨
    (∃ call, s.calls id = some call ∧
      Goes s.state.deliveryStopped s'.state.deliveryStopped call.position call'.position) ∨
    (s.calls id = none ∧ call'.position.isStart = true)

theorem callStep_of_update {next call' : Call} {other : CallId}
    (calls : s'.calls = Function.update s.calls id (some next)) (found : s.calls id = some call)
    (goes : Goes s.state.deliveryStopped s'.state.deliveryStopped call.position next.position)
    (found' : s'.calls other = some call') : CallStep s s' other call' := by
  rw [calls] at found'
  by_cases same : other = id
  · subst same
    rw [Function.update_self] at found'
    obtain rfl := Option.some.inj found'
    exact Or.inr (Or.inl ⟨call, found, goes⟩)
  · rw [Function.update_of_ne same] at found'
    exact Or.inl found'

theorem callStep_of_spawn (locked : Locked s) {caller : Caller} {position : CallPosition}
    {call' : Call} {other : CallId} (start : position.isStart = true)
    (found' : (s.spawn caller position).calls other = some call') : CallStep s s' other call' := by
  change Function.update s.calls s.nextCall (some ⟨caller, position⟩) other = some call' at found'
  by_cases same : other = s.nextCall
  · subst same
    rw [Function.update_self] at found'
    obtain rfl := Option.some.inj found'
    exact Or.inr (Or.inr ⟨locked.fresh _ (Nat.le_refl _), start⟩)
  · rw [Function.update_of_ne same] at found'
    exact Or.inl found'

theorem accept_calls {log : DeploymentLog} (found : s.calls id = some call)
    (entered : call.position = .entered log) (accepted : s.accept id log = s') {other : CallId}
    {call' : Call} (found' : s'.calls other = some call') : CallStep s s' other call' := by
  unfold Reporter.accept at accepted
  split at accepted
  · rename_i reason stopped
    subst accepted
    exact callStep_of_update rfl found (entered ▸ .refused stopped) found'
  · rename_i running
    split at accepted
    · subst accepted
      exact callStep_of_update rfl found (entered ▸ .skipped running) found'
    · subst accepted
      exact callStep_of_update rfl found (entered ▸ .taken running) found'

theorem drain_calls (found : s.calls id = some call) (draining : call.position = .draining)
    (drained : s.drain id call.caller = s') {other : CallId} {call' : Call}
    (found' : s'.calls other = some call') : CallStep s s' other call' := by
  unfold Reporter.drain at drained
  split at drained
  · rename_i reason stopped
    subst drained
    exact callStep_of_update rfl found (draining ▸ .stopped stopped) found'
  · rename_i running
    split at drained
    · subst drained
      exact callStep_of_update rfl found (draining ▸ .emptied running) found'
    · subst drained
      exact callStep_of_update rfl found (draining ▸ .drained running) found'

theorem schedule_calls (locked : Locked s) (found : s.calls id = some call)
    (accepted : call.position = .accepted false)
    (scheduled : s.scheduleFlush.returnWith id .log (.ok ()) = s') {other : CallId} {call' : Call}
    (found' : s'.calls other = some call') : CallStep s s' other call' := by
  have goes : Goes s.state.deliveryStopped s'.state.deliveryStopped call.position
      (.returned (.ok ())) := accepted ▸ .scheduled
  unfold Reporter.scheduleFlush at scheduled
  split at scheduled
  · subst scheduled
    exact callStep_of_update rfl found goes found'
  · subst scheduled
    change Function.update (s.spawn .timer .sleeping).calls id _ other = some call' at found'
    by_cases same : other = id
    · subst same
      rw [Function.update_self] at found'
      obtain rfl := Option.some.inj found'
      exact Or.inr (Or.inl ⟨call, found, goes⟩)
    · rw [Function.update_of_ne same] at found'
      exact callStep_of_spawn locked rfl found'

theorem proceed_calls (locked : Locked s) (found : s.calls id = some call)
    (stepped : s.proceed id call = some s') {other : CallId} {call' : Call}
    (found' : s'.calls other = some call') : CallStep s s' other call' := by
  unfold Reporter.proceed at stepped
  split at stepped
  case h_1 entered =>
    exact accept_calls found entered (Option.some.inj stepped) found'
  case h_2 accepted =>
    obtain rfl := Option.some.inj stepped
    exact callStep_of_update rfl found (accepted ▸ .filled) found'
  case h_3 accepted =>
    exact schedule_calls locked found accepted (Option.some.inj stepped) found'
  case h_4 sleeping =>
    obtain rfl := Option.some.inj stepped
    exact callStep_of_update rfl found (sleeping ▸ .elapsed) found'
  case h_5 queued =>
    split at stepped
    · obtain rfl := Option.some.inj stepped
      exact callStep_of_update rfl found (queued ▸ .acquired) found'
    · cases stepped
  case h_6 draining =>
    exact drain_calls found draining (Option.some.inj stepped) found'
  case h_8 latching =>
    obtain rfl := Option.some.inj stepped
    exact callStep_of_update rfl found (latching ▸ .latched rfl) found'
  case h_7 | h_9 => cases stepped

theorem answer_calls {failure : Option String} (found : s.calls id = some call)
    (stepped : s.answer id call failure = some s') {other : CallId} {call' : Call}
    (found' : s'.calls other = some call') : CallStep s s' other call' := by
  unfold Reporter.answer at stepped
  split at stepped
  case h_1 sending =>
    obtain rfl := Option.some.inj stepped
    exact callStep_of_update rfl found (sending ▸ .acknowledged) found'
  case h_2 sending =>
    obtain rfl := Option.some.inj stepped
    exact callStep_of_update rfl found (sending ▸ .failed) found'
  case h_3 => cases stepped

theorem dropCall_calls (stepped : s.dropCall id call = some s') {other : CallId} {call' : Call}
    (found' : s'.calls other = some call') : CallStep s s' other call' := by
  unfold Reporter.dropCall at stepped
  split at stepped
  case isFalse => cases stepped
  case isTrue =>
    obtain rfl := Option.some.inj stepped
    change Function.update s.calls id none other = some call' at found'
    by_cases same : other = id
    · subst same
      rw [Function.update_self] at found'
      cases found'
    · rw [Function.update_of_ne same] at found'
      exact Or.inl found'

/-- Every call after a step is where it was, one move on, or new. -/
theorem step_calls (locked : Locked s) (stepped : s.step action = some s') {other : CallId}
    {call' : Call} (found' : s'.calls other = some call') : CallStep s s' other call' := by
  cases action with
  | log log =>
      obtain rfl := Option.some.inj stepped
      exact callStep_of_spawn locked rfl found'
  | flush =>
      obtain rfl := Option.some.inj stepped
      exact callStep_of_spawn locked rfl found'
  | proceed id =>
      obtain ⟨call, found, moved⟩ := Option.bind_eq_some_iff.mp stepped
      exact proceed_calls locked found moved found'
  | answer id failure =>
      obtain ⟨call, found, moved⟩ := Option.bind_eq_some_iff.mp stepped
      exact answer_calls found moved found'
  | drop id =>
      obtain ⟨call, found, moved⟩ := Option.bind_eq_some_iff.mp stepped
      exact dropCall_calls moved found'

/-! ### The flush mutex, whatever is dropped -/

namespace Locked

/-- Whether a call is left at a position that holds the mutex. -/
def nextHolds (next : Option Call) : Bool :=
  match next with
  | none => false
  | some call => call.position.holdsFlushLock

/-- One call moves: the mutex stays with whom it was with, or the call gives it back, or takes it
while it is free. -/
theorem moved (locked : Locked s) (found : s.calls id = some call) (next : Option Call)
    (calls : s'.calls = Function.update s.calls id next) (grown : s.nextCall ≤ s'.nextCall)
    (lock : s'.flushLock = (if nextHolds next then some id
      else if s.flushLock = some id then none else s.flushLock))
    (taken : nextHolds next = true → s.flushLock = none ∨ s.flushLock = some id) : Locked s' := by
  apply locked.update next calls grown (Nat.lt_of_lt_of_le (locked.below found) grown)
  · have meaning : nextHolds next = true ↔
        ∃ call, next = some call ∧ call.position.holdsFlushLock = true := by
      cases next <;> simp [nextHolds]
    rw [lock, ← meaning]
    cases nextHolds next with
    | true => simp
    | false =>
        simp only [Bool.false_eq_true, if_false, iff_false]
        split
        · simp
        · assumption
  · intro other ne
    rw [lock]
    split
    · rename_i holds
      rcases taken holds with free | own
      · simp [free, Ne.symm ne]
      · simp [own]
    · split
      · rename_i own
        simp [own, Ne.symm ne]
      · rfl

theorem spawn (locked : Locked s) (caller : Caller) (position : CallPosition)
    (idle : position.holdsFlushLock = false) : Locked (s.spawn caller position) := by
  have free : s.flushLock ≠ some s.nextCall := by
    intro lock
    obtain ⟨call, found⟩ := locked.live _ lock
    exact absurd (locked.below found) (Nat.lt_irrefl _)
  apply locked.update (some ⟨caller, position⟩) rfl (Nat.le_succ _) (Nat.lt_succ_self _)
  · constructor
    · intro lock
      exact absurd lock free
    · rintro ⟨call, same, holds⟩
      obtain rfl := Option.some.inj same
      rw [idle] at holds
      cases holds
  · intro other _
    rfl

/-- The sections that only read or write the lines keep the mutex. -/
theorem of_same (locked : Locked s) (calls : s'.calls = s.calls)
    (lock : s'.flushLock = s.flushLock) (next : s'.nextCall = s.nextCall) : Locked s' where
  fresh := by rw [calls, next]; exact locked.fresh
  holder := by rw [calls, lock]; exact locked.holder
  live := by rw [calls, lock]; exact locked.live

theorem notHolder (locked : Locked s) (found : s.calls id = some call)
    (idle : call.position.holdsFlushLock = false) : s.flushLock ≠ some id := by
  intro lock
  rw [(locked.holder id call found).mpr lock] at idle
  cases idle

theorem isHolder (locked : Locked s) (found : s.calls id = some call)
    (holds : call.position.holdsFlushLock = true) : s.flushLock = some id :=
  (locked.holder id call found).mp holds

/-- A call moves between positions that do not hold the mutex. -/
theorem moveIdle (locked : Locked s) (found : s.calls id = some call)
    (idle : call.position.holdsFlushLock = false) (caller : Caller) (position : CallPosition)
    (nextIdle : position.holdsFlushLock = false) : Locked (s.moveTo id caller position) := by
  refine locked.moved found (some ⟨caller, position⟩) rfl (Nat.le_refl _) ?_ ?_
  · simp [moveTo, nextHolds, nextIdle, locked.notHolder found idle]
  · simp [nextHolds, nextIdle]

/-- A call moves between positions that hold it. -/
theorem moveHolder (locked : Locked s) (found : s.calls id = some call)
    (holds : call.position.holdsFlushLock = true) (caller : Caller) (position : CallPosition)
    (stays : position.holdsFlushLock = true) : Locked (s.moveTo id caller position) := by
  have own := locked.isHolder found holds
  refine locked.moved found (some ⟨caller, position⟩) rfl (Nat.le_refl _) ?_ ?_
  · simp [moveTo, nextHolds, stays, own]
  · intro _
    exact Or.inr own

/-- A call returns, from wherever it stands. -/
theorem returnWith (locked : Locked s) (found : s.calls id = some call) (caller : Caller)
    (outcome : Except String Unit) : Locked (s.returnWith id caller outcome) := by
  refine locked.moved found (some ⟨caller, .returned outcome⟩) rfl (Nat.le_refl _) ?_ ?_
  · rfl
  · intro impossible
    cases impossible

theorem scheduleFlush (locked : Locked s) : Locked s.scheduleFlush := by
  unfold Reporter.scheduleFlush
  split
  · exact locked
  · exact (locked.spawn .timer .sleeping rfl).of_same rfl rfl rfl

theorem scheduleFlush_calls (locked : Locked s) (found : s.calls id = some call) :
    s.scheduleFlush.calls id = some call := by
  unfold Reporter.scheduleFlush
  split
  · exact found
  · have ne : id ≠ s.nextCall := Nat.ne_of_lt (locked.below found)
    simp [Reporter.spawn, Reporter.moveTo, Function.update_of_ne ne, found]

theorem accept (locked : Locked s) {log : DeploymentLog} (found : s.calls id = some call)
    (entered : call.position = .entered log) : Locked (s.accept id log) := by
  have idle : call.position.holdsFlushLock = false := by rw [entered]; rfl
  unfold Reporter.accept
  split
  · exact locked.returnWith found _ _
  · split
    · exact locked.returnWith found _ _
    · exact (locked.moveIdle found idle .log (.accepted _) rfl).of_same rfl rfl rfl

theorem acquire (locked : Locked s) (found : s.calls id = some call) (free : s.flushLock = none) :
    Locked (s.acquire id call.caller) := by
  refine locked.moved found (some ⟨call.caller, .draining⟩) rfl (Nat.le_refl _) ?_ ?_
  · rfl
  · intro _
    exact Or.inl free

theorem drain (locked : Locked s) (found : s.calls id = some call)
    (draining : call.position = .draining) : Locked (s.drain id call.caller) := by
  have holds : call.position.holdsFlushLock = true := by rw [draining]; rfl
  unfold Reporter.drain
  split
  · exact locked.returnWith found _ _
  · split
    · exact locked.returnWith found _ _
    · exact (locked.moveHolder found holds call.caller (.sending _) rfl).of_same rfl rfl rfl

theorem proceed (locked : Locked s) (found : s.calls id = some call)
    (stepped : s.proceed id call = some s') : Locked s' := by
  unfold Reporter.proceed at stepped
  split at stepped
  case h_1 entered =>
    obtain rfl := Option.some.inj stepped
    exact locked.accept found entered
  case h_2 accepted =>
    obtain rfl := Option.some.inj stepped
    exact locked.moveIdle found (by rw [accepted]; rfl) .log .queued rfl
  case h_3 =>
    obtain rfl := Option.some.inj stepped
    exact locked.scheduleFlush.returnWith (locked.scheduleFlush_calls found) _ _
  case h_4 sleeping =>
    obtain rfl := Option.some.inj stepped
    exact (locked.moveIdle found (by rw [sleeping]; rfl) .timer .queued rfl).of_same rfl rfl rfl
  case h_5 =>
    split at stepped
    · rename_i free
      obtain rfl := Option.some.inj stepped
      exact locked.acquire found free
    · cases stepped
  case h_6 draining =>
    obtain rfl := Option.some.inj stepped
    exact locked.drain found draining
  case h_8 reason _ =>
    obtain rfl := Option.some.inj stepped
    exact (locked.returnWith found call.caller (stoppedError reason)).of_same rfl rfl rfl
  case h_7 | h_9 => cases stepped

theorem answer (locked : Locked s) {failure : Option String} (found : s.calls id = some call)
    (stepped : s.answer id call failure = some s') : Locked s' := by
  unfold Reporter.answer at stepped
  split at stepped
  case h_1 sending =>
    obtain rfl := Option.some.inj stepped
    have holds : call.position.holdsFlushLock = true := by rw [sending]; rfl
    exact (locked.moveHolder found holds call.caller .draining rfl).of_same rfl rfl rfl
  case h_2 sending =>
    obtain rfl := Option.some.inj stepped
    have holds : call.position.holdsFlushLock = true := by rw [sending]; rfl
    exact locked.moveHolder found holds call.caller (.latching _ _) rfl
  case h_3 => cases stepped

theorem dropCall (locked : Locked s) (found : s.calls id = some call)
    (stepped : s.dropCall id call = some s') : Locked s' := by
  unfold Reporter.dropCall at stepped
  split at stepped
  case isFalse => cases stepped
  case isTrue =>
    obtain rfl := Option.some.inj stepped
    refine locked.moved found none rfl (Nat.le_refl _) ?_ ?_
    · rfl
    · intro impossible
      cases impossible

theorem step (locked : Locked s) (stepped : s.step action = some s') : Locked s' := by
  cases action with
  | log log =>
      obtain rfl := Option.some.inj stepped
      exact locked.spawn _ _ rfl
  | flush =>
      obtain rfl := Option.some.inj stepped
      exact locked.spawn _ _ rfl
  | proceed id =>
      obtain ⟨call, found, moved⟩ := Option.bind_eq_some_iff.mp stepped
      exact locked.proceed found moved
  | answer id failure =>
      obtain ⟨call, found, moved⟩ := Option.bind_eq_some_iff.mp stepped
      exact locked.answer found moved
  | drop id =>
      obtain ⟨call, found, moved⟩ := Option.bind_eq_some_iff.mp stepped
      exact locked.dropCall found moved

theorem new (redactLine : String → String) (logBounds : LogBounds) :
    Locked (.new redactLine logBounds) := by
  constructor <;> simp [Reporter.new]

/-- Two calls at positions that hold the mutex are one. -/
theorem unique (locked : Locked s) {other : CallId} {call' : Call}
    (found : s.calls id = some call) (holds : call.position.holdsFlushLock = true)
    (found' : s.calls other = some call') (holds' : call'.position.holdsFlushLock = true) :
    other = id := by
  have own := locked.isHolder found holds
  rw [locked.isHolder found' holds'] at own
  exact Option.some.inj own

end Locked

/-! ### The lines -/

/-- What a step does to the pending lines, the latch and the requests. -/
inductive LineStep (s s' : Reporter) (action : Action) : Prop where
  | kept (state : s'.state = s.state) (handed : s'.handed = s.handed)
  /-- A line is accepted, or a batch is taken and handed over. -/
  | moved (running : s.state.deliveryStopped = none) (running' : s'.state.deliveryStopped = none)
  /-- A failed request is recorded. -/
  | recorded (id : CallId) (call : Call) (batch : List DeploymentLog) (reason : String)
      (at_ : action = .proceed id) (found : s.calls id = some call)
      (latching : call.position = .latching batch reason)
      (state : s'.state =
        { s.state with pending := [], pendingBytes := 0, deliveryStopped := some reason })
      (handed : s'.handed = s.handed)

theorem accept_lines (log : DeploymentLog) : LineStep s (s.accept id log) action := by
  unfold Reporter.accept
  split
  · exact .kept rfl rfl
  · rename_i running
    split
    · exact .kept rfl rfl
    · exact .moved running running

theorem drain_lines (caller : Caller) : LineStep s (s.drain id caller) action := by
  unfold Reporter.drain
  split
  · exact .kept rfl rfl
  · rename_i running
    split
    · exact .kept rfl rfl
    · exact .moved running running

theorem scheduleFlush_lines :
    s.scheduleFlush.state = s.state ∧ s.scheduleFlush.handed = s.handed := by
  unfold Reporter.scheduleFlush
  split
  · exact ⟨rfl, rfl⟩
  · exact ⟨rfl, rfl⟩

theorem proceed_lines (found : s.calls id = some call) (stepped : s.proceed id call = some s') :
    LineStep s s' (.proceed id) := by
  unfold Reporter.proceed at stepped
  split at stepped
  case h_1 log _ =>
    obtain rfl := Option.some.inj stepped
    exact accept_lines log
  case h_3 =>
    obtain rfl := Option.some.inj stepped
    exact .kept scheduleFlush_lines.1 scheduleFlush_lines.2
  case h_5 =>
    split at stepped
    · obtain rfl := Option.some.inj stepped
      exact .kept rfl rfl
    · cases stepped
  case h_6 =>
    obtain rfl := Option.some.inj stepped
    exact drain_lines call.caller
  case h_8 batch reason latching =>
    obtain rfl := Option.some.inj stepped
    exact .recorded id call batch reason rfl found latching rfl rfl
  case h_2 | h_4 =>
    obtain rfl := Option.some.inj stepped
    exact .kept rfl rfl
  case h_7 | h_9 => cases stepped

theorem step_lines (stepped : s.step action = some s') : LineStep s s' action := by
  cases action with
  | log log | flush =>
      obtain rfl := Option.some.inj stepped
      exact .kept rfl rfl
  | proceed id =>
      obtain ⟨call, found, moved⟩ := Option.bind_eq_some_iff.mp stepped
      exact proceed_lines found moved
  | answer id failure =>
      obtain ⟨call, found, moved⟩ := Option.bind_eq_some_iff.mp stepped
      unfold Reporter.answer at moved
      split at moved
      case h_1 | h_2 =>
        obtain rfl := Option.some.inj moved
        exact .kept rfl rfl
      case h_3 => cases moved
  | drop id =>
      obtain ⟨call, found, moved⟩ := Option.bind_eq_some_iff.mp stepped
      unfold Reporter.dropCall at moved
      split at moved
      case isTrue =>
        obtain rfl := Option.some.inj moved
        exact .kept rfl rfl
      case isFalse => cases moved

/-! ### The latch -/

/-- Before the latch no call has returned an error; behind it nothing is pending, and no request is
on the way whose end is not recorded. -/
structure Latch (s : Reporter) : Prop where
  locked : Locked s
  running : s.state.deliveryStopped = none → ∀ id call outcome, s.calls id = some call →
    call.position = .returned outcome → outcome = .ok ()
  stopped : s.state.deliveryStopped ≠ none → s.state.pending = [] ∧ s.state.pendingBytes = 0 ∧
    ∀ id call, s.calls id = some call → call.position.isRequesting = false

namespace Latch

theorem new (redactLine : String → String) (logBounds : LogBounds) :
    Latch (.new redactLine logBounds) := by
  refine ⟨Locked.new redactLine logBounds, ?_, ?_⟩
  · intro _ id call outcome found
    cases found
  · intro stopped
    exact absurd rfl stopped

/-- Once stopped, a step changes neither the lines nor the latch. -/
theorem same_of_stopped (latch : Latch s) (stopped : s.state.deliveryStopped ≠ none)
    (stepped : s.step action = some s') : s'.state = s.state ∧ s'.handed = s.handed := by
  cases step_lines stepped with
  | kept state handed => exact ⟨state, handed⟩
  | moved running _ => exact absurd running stopped
  | recorded id call batch reason _ found latching _ _ =>
      have idle := (latch.stopped stopped).2.2 id call found
      rw [latching] at idle
      cases idle

/-- Where a call stands after a step, if it stood behind no request before. -/
theorem idle_step (latch : Latch s) {reason : String}
    (stopped : s.state.deliveryStopped = some reason) (stepped : s.step action = some s')
    (id : CallId) (call : Call) (found : s'.calls id = some call) :
    call.position.isRequesting = false := by
  have idle := (latch.stopped (by simp [stopped])).2.2
  rcases step_calls latch.locked stepped found with same | ⟨before, found', goes⟩ | ⟨_, start⟩
  · exact idle id call same
  · rw [stopped] at goes
    exact goes.isRequesting (idle id before found')
  · exact CallPosition.isRequesting_of_start start

/-- The call that records its failed request was the only one with a request. -/
theorem idle_recorded (latch : Latch s) {batch : List DeploymentLog} {reason : String}
    (found : s.calls id = some call) (latching : call.position = .latching batch reason)
    (stepped : s.step (.proceed id) = some s') (other : CallId) (call' : Call)
    (found' : s'.calls other = some call') : call'.position.isRequesting = false := by
  have holds : call.position.holdsFlushLock = true := by rw [latching]; rfl
  have after : s' = s.latch id call.caller reason := by
    simpa [step, found, Reporter.proceed, latching] using stepped.symm
  subst after
  change Function.update s.calls id _ other = some call' at found'
  by_cases same : other = id
  · subst same
    rw [Function.update_self] at found'
    obtain rfl := Option.some.inj found'
    rfl
  · rw [Function.update_of_ne same] at found'
    by_contra requesting
    have holds' := CallPosition.holds_of_requesting (Bool.eq_true_of_not_eq_false requesting)
    exact same (latch.locked.unique found holds found' holds')

theorem step (latch : Latch s) (stepped : s.step action = some s') : Latch s' := by
  refine ⟨latch.locked.step stepped, ?_, ?_⟩
  · intro running' id call outcome found returned
    have running : s.state.deliveryStopped = none := by
      by_contra stopped
      rw [(latch.same_of_stopped stopped stepped).1] at running'
      exact stopped running'
    rcases step_calls latch.locked stepped found with same | ⟨before, found', goes⟩ | ⟨_, start⟩
    · exact latch.running running id call outcome same returned
    · rw [running, running', returned] at goes
      exact goes.ok
    · rw [returned] at start
      cases start
  · intro stopped'
    cases step_lines stepped with
    | kept state handed =>
        rw [state] at stopped' ⊢
        obtain ⟨reason, stopped⟩ := Option.ne_none_iff_exists'.mp stopped'
        obtain ⟨empty, bytes, _⟩ := latch.stopped stopped'
        exact ⟨empty, bytes, latch.idle_step stopped stepped⟩
    | moved _ running' => exact absurd running' stopped'
    | recorded id call batch reason at_ found latching state handed =>
        subst at_
        rw [state]
        exact ⟨rfl, rfl, latch.idle_recorded found latching stepped⟩

/-- The step that stops the delivery is the one that records a failed request. -/
theorem stopped_iff (running : s.state.deliveryStopped = none) (stepped : s.step action = some s')
    (reason : String) : s'.state.deliveryStopped = some reason ↔
      ∃ id call batch, action = .proceed id ∧ s.calls id = some call ∧
        call.position = .latching batch reason := by
  constructor
  · intro stopped'
    cases step_lines stepped with
    | kept state _ =>
        rw [state, running] at stopped'
        cases stopped'
    | moved _ running' =>
        rw [running'] at stopped'
        cases stopped'
    | recorded id call batch recorded at_ found latching state _ =>
        rw [state] at stopped'
        obtain rfl := Option.some.inj stopped'
        exact ⟨id, call, batch, at_, found, latching⟩
  · rintro ⟨id, call, batch, rfl, found, latching⟩
    have after : s' = s.latch id call.caller reason := by
      simpa [Reporter.step, found, Reporter.proceed, latching] using stepped.symm
    subst after
    rfl

end Latch

/-! ### Calls behind the latch -/

/-- A call that came behind the latch has not got further than being refused. -/
def CallPosition.isRefused (reason : String) : CallPosition → Prop
  | .entered _ | .sleeping | .queued | .draining => True
  | .returned outcome => outcome = stoppedError reason
  | .accepted _ | .sending _ | .latching _ _ => False

theorem isRefused_of_goes {reason : String} {after : Option String}
    {position position' : CallPosition} (goes : Goes (some reason) after position position')
    (refused : CallPosition.isRefused reason position) :
    CallPosition.isRefused reason position' := by
  cases goes with
  | refused stopped | stopped stopped =>
      obtain rfl := Option.some.inj stopped
      rfl
  | skipped running | taken running | emptied running | drained running => cases running
  | filled | scheduled | acknowledged | failed | latched => exact absurd refused not_false
  | elapsed | acquired => trivial

theorem isRefused_of_start {reason : String} {position : CallPosition}
    (start : position.isStart = true) : CallPosition.isRefused reason position := by
  cases position with
  | entered | queued | sleeping => trivial
  | accepted | draining | sending | latching | returned => cases start

/-- What holds behind a state in which the delivery was stopped. -/
structure Behind (first : CallId) (handed : List (List DeploymentLog)) (reason : String)
    (s : Reporter) : Prop where
  latch : Latch s
  stopped : s.state.deliveryStopped = some reason
  quiet : s.handed = handed
  refused : ∀ id call, first ≤ id → s.calls id = some call →
    CallPosition.isRefused reason call.position

namespace Behind

variable {first : CallId} {handed : List (List DeploymentLog)} {reason : String}

theorem start (latch : Latch s) (stopped : s.state.deliveryStopped = some reason) :
    Behind s.nextCall s.handed reason s := by
  refine ⟨latch, stopped, rfl, ?_⟩
  intro id call late found
  rw [latch.locked.fresh id late] at found
  cases found

theorem step (behind : Behind first handed reason s) (stepped : s.step action = some s') :
    Behind first handed reason s' := by
  obtain ⟨state, requests⟩ := behind.latch.same_of_stopped (by simp [behind.stopped]) stepped
  refine ⟨behind.latch.step stepped, ?_, ?_, ?_⟩
  · rw [state]
    exact behind.stopped
  · rw [requests]
    exact behind.quiet
  · intro id call late found
    rcases step_calls behind.latch.locked stepped found with same | ⟨before, found', goes⟩ |
      ⟨_, start⟩
    · exact behind.refused id call late same
    · rw [behind.stopped] at goes
      exact isRefused_of_goes goes (behind.refused id before late found')
    · exact isRefused_of_start start

theorem run {actions : List Action} (behind : Behind first handed reason s)
    (run : Transition.exec Reporter.step s actions = some s') : Behind first handed reason s' :=
  Transition.exec_invariant (Behind first handed reason)
    (fun _ _ _ behind stepped => behind.step stepped) behind run

end Behind

/-- The calls only have to go on for this one to return the error. -/
def RefusalComing (s : Reporter) (id : CallId) (reason : String) : Prop :=
  ∃ actions s', (∀ action ∈ actions, ∃ other, action = .proceed other) ∧
    Transition.exec step s actions = some s' ∧
    ∃ caller, s'.calls id = some ⟨caller, .returned (stoppedError reason)⟩

namespace RefusalComing

variable {reason : String}

theorem returned {caller : Caller}
    (found : s.calls id = some ⟨caller, .returned (stoppedError reason)⟩) :
    s.RefusalComing id reason :=
  ⟨[], s, by simp, rfl, caller, found⟩

theorem after {other : CallId} (stepped : s.step (.proceed other) = some s')
    (later : s'.RefusalComing id reason) : s.RefusalComing id reason := by
  obtain ⟨actions, last, all, run, refused⟩ := later
  refine ⟨.proceed other :: actions, last, ?_, ?_, refused⟩
  · intro action member
    rcases List.mem_cons.mp member with rfl | rest
    · exact ⟨other, rfl⟩
    · exact all action rest
  · exact Transition.exec_cons_eq_some.mpr ⟨s', stepped, run⟩

/-- The holder of the flush mutex finds the delivery stopped. -/
theorem of_draining (stopped : s.state.deliveryStopped = some reason)
    (found : s.calls id = some call) (draining : call.position = .draining) :
    s.RefusalComing id reason := by
  have stepped : s.step (.proceed id) =
      some (s.returnWith id call.caller (stoppedError reason)) := by
    simp [step, found, Reporter.proceed, draining, drain, stopped, stoppedError]
  have refused : (s.returnWith id call.caller (stoppedError reason)).calls id =
      some ⟨call.caller, .returned (stoppedError reason)⟩ := by
    simp [returnWith, moveTo]
  exact after stepped (returned refused)

theorem of_free (stopped : s.state.deliveryStopped = some reason) (free : s.flushLock = none)
    (found : s.calls id = some call) (queued : call.position = .queued) :
    s.RefusalComing id reason := by
  have stepped : s.step (.proceed id) = some (s.acquire id call.caller) := by
    simp [step, found, Reporter.proceed, queued, free]
  have holds : (s.acquire id call.caller).calls id = some ⟨call.caller, .draining⟩ := by
    simp [acquire, moveTo]
  exact after stepped (of_draining stopped holds rfl)

/-- A call that waits for the flush mutex: its holder returns first. -/
theorem of_queued (latch : Latch s) (stopped : s.state.deliveryStopped = some reason)
    (found : s.calls id = some call) (queued : call.position = .queued) :
    s.RefusalComing id reason := by
  cases lock : s.flushLock with
  | none => exact of_free stopped lock found queued
  | some holder =>
      obtain ⟨held, found'⟩ := latch.locked.live holder lock
      have holds := (latch.locked.holder holder held found').mpr lock
      have idle := (latch.stopped (by simp [stopped])).2.2 holder held found'
      have draining : held.position = .draining := by
        cases position : held.position with
        | draining => rfl
        | sending | latching =>
            rw [position] at idle
            cases idle
        | entered | accepted | sleeping | queued | returned =>
            rw [position] at holds
            cases holds
      have stepped : s.step (.proceed holder) =
          some (s.returnWith holder held.caller (stoppedError reason)) := by
        simp [step, found', Reporter.proceed, draining, drain, stopped, stoppedError]
      have other : id ≠ holder := by
        rintro rfl
        rw [found] at found'
        obtain rfl := Option.some.inj found'
        rw [queued] at draining
        cases draining
      refine after stepped (of_free stopped ?_ ?_ queued)
      · simp [returnWith, lock]
      · simp [returnWith, moveTo, Function.update_of_ne other, found]

theorem of_refused (latch : Latch s) (stopped : s.state.deliveryStopped = some reason)
    (found : s.calls id = some call) (refused : CallPosition.isRefused reason call.position) :
    s.RefusalComing id reason := by
  cases position : call.position with
  | entered log =>
      have stepped : s.step (.proceed id) =
          some (s.returnWith id .log (stoppedError reason)) := by
        simp [step, found, Reporter.proceed, position, accept, stopped, stoppedError]
      have refused : (s.returnWith id .log (stoppedError reason)).calls id =
          some ⟨.log, .returned (stoppedError reason)⟩ := by
        simp [returnWith, moveTo]
      exact after stepped (returned refused)
  | sleeping =>
      have stepped : s.step (.proceed id) =
          some { s.moveTo id .timer .queued with flushScheduled := false } := by
        simp [step, found, Reporter.proceed, position]
      have queued : ({ s.moveTo id .timer .queued with flushScheduled := false } :
          Reporter).calls id = some ⟨.timer, .queued⟩ := by
        simp [moveTo]
      exact after stepped (of_queued (latch.step stepped) stopped queued rfl)
  | queued => exact of_queued latch stopped found position
  | draining => exact of_draining stopped found position
  | returned outcome =>
      rw [position] at refused
      obtain ⟨caller, at_⟩ := call
      obtain rfl : at_ = .returned outcome := position
      obtain rfl : outcome = stoppedError reason := refused
      exact returned found
  | accepted | sending | latching =>
      rw [position] at refused
      exact absurd refused not_false

end RefusalComing

end Reporter

/-- Delivery was stopped for the reason in the first state, and stays so: no further request, nothing
pending, and every call that came later returns the error. -/
structure DeliveryLatched (s s' : Reporter) (reason : String) : Prop where
  latched : s'.state.deliveryStopped = some reason
  quiet : s'.handed = s.handed
  empty : s'.state.pending = [] ∧ s'.state.pendingBytes = 0
  refused : ∀ id caller outcome, s.nextCall ≤ id →
    s'.calls id = some ⟨caller, .returned outcome⟩ → outcome = stoppedError reason
  returns : ∀ id call, s.nextCall ≤ id → s'.calls id = some call → s'.RefusalComing id reason

namespace Reporter

/-- In every run, with or without dropped futures: no call returns an error before a failed request
is recorded, recording it is the only step that stops the delivery, and from then on the delivery
stays stopped. -/
theorem delivery_latched (redactLine : String → String) (logBounds : LogBounds)
    (before after : List Action) (s s' : Reporter)
    (run : Transition.exec step (.new redactLine logBounds) before = some s)
    (later : Transition.exec step s after = some s') :
    (s.state.deliveryStopped = none →
      (∀ id caller outcome, s.calls id = some ⟨caller, .returned outcome⟩ → outcome = .ok ()) ∧
      ∀ action next reason, s.step action = some next →
        (next.state.deliveryStopped = some reason ↔ ∃ id call batch, action = .proceed id ∧
          s.calls id = some call ∧ call.position = .latching batch reason)) ∧
    ∀ reason, s.state.deliveryStopped = some reason → DeliveryLatched s s' reason := by
  have latch : Latch s :=
    Transition.exec_invariant Latch (fun _ _ _ latch stepped => latch.step stepped)
      (Latch.new redactLine logBounds) run
  constructor
  · intro running
    constructor
    · intro id caller outcome found
      exact latch.running running id _ outcome found rfl
    · intro action next reason stepped
      exact Latch.stopped_iff running stepped reason
  · intro reason stopped
    have behind := (Behind.start latch stopped).run later
    obtain ⟨empty, bytes, _⟩ := behind.latch.stopped (by simp [behind.stopped])
    constructor
    · exact behind.stopped
    · exact behind.quiet
    · exact ⟨empty, bytes⟩
    · intro id caller outcome late found
      exact behind.refused id _ late found
    · intro id call late found
      exact RefusalComing.of_refused behind.latch behind.stopped found
        (behind.refused id call late found)

/-- A line is sent and its request fails; the next line is refused. -/
theorem delivery_latched_refused : ∃ s s',
    Transition.exec step (.new id { maxBatchLines := some 1 })
      [.log ⟨.stdout, "building"⟩, .proceed 0, .proceed 0, .proceed 0, .proceed 0,
        .answer 0 (some "HTTP 422"), .proceed 0] = some s ∧
    Transition.exec step s [.log ⟨.stdout, "ready"⟩, .proceed 1] = some s' ∧
    DeliveryLatched s s' "HTTP 422" := by
  have possible : (Transition.exec step (.new id { maxBatchLines := some 1 })
      [.log ⟨.stdout, "building"⟩, .proceed 0, .proceed 0, .proceed 0, .proceed 0,
        .answer 0 (some "HTTP 422"), .proceed 0]).isSome := by decide
  obtain ⟨s, run⟩ := Option.isSome_iff_exists.mp possible
  have stopped : (Transition.exec step (.new id { maxBatchLines := some 1 })
      [.log ⟨.stdout, "building"⟩, .proceed 0, .proceed 0, .proceed 0, .proceed 0,
        .answer 0 (some "HTTP 422"), .proceed 0]).bind (fun s =>
          (Transition.exec step s [.log ⟨.stdout, "ready"⟩, .proceed 1]).map fun _ =>
            s.state.deliveryStopped) = some (some "HTTP 422") := by decide
  rw [run, Option.bind_some] at stopped
  obtain ⟨s', later, reason⟩ := Option.map_eq_some_iff.mp stopped
  exact ⟨s, s', run, later, (delivery_latched id _ _ _ s s' run later).2 _ reason⟩

end Reporter

end SakalaAgent
