/-
Module: SakalaAgent.Proofs.LogLimits
Layer: Proofs
Purpose: The limits of log delivery. An accepted line is a beginning of what the redactor left of the
  line it was offered for, within the bounds of the command, and all accepted lines together stay
  within the budget; a request stays within the local ceilings as long as no single line is longer
  than a request may be.
Trusted boundary: none
Main exports: Reporter.LineChange, Reporter.log_budget, Reporter.requests_within_ceilings
-/
import SakalaAgent.Proofs.DeliveryLatch
import SakalaAgent.Proofs.ReporterLedger
import SakalaAgent.Transition.Runs

namespace SakalaAgent

/-! ### One line -/

/-- What the bounds promise of a line that is accepted for an offered one. -/
structure WithinBounds (redactLine : String → String) (bounds : LogBounds)
    (offered accepted : DeploymentLog) : Prop where
  stream : accepted.stream = offered.stream
  nonempty : accepted.message ≠ ""
  oneLine : '\r' ∉ accepted.message.toList ∧ '\n' ∉ accepted.message.toList
  short : ∀ maximum, bounds.maxLineLength = some maximum → accepted.byteCount ≤ maximum.toNat
  begins : accepted.message.toList <+: (sanitiseLine (redactLine offered.message)).toList

/-- No line break is left of a line. -/
theorem sanitiseLine_oneLine (value : String) {character : Char}
    (member : character ∈ (sanitiseLine value).toList) : character ≠ '\r' ∧ character ≠ '\n' := by
  have inside : character ∈ value.toList.map fun character =>
      if character = '\r' ∨ character = '\n' then ' ' else character := by
    rw [sanitiseLine, String.toList_ofList, Text.trimEnd, List.mem_reverse] at member
    exact List.mem_reverse.mp ((List.dropWhile_sublist _).mem member)
  obtain ⟨original, _, same⟩ := List.mem_map.mp inside
  subst same
  split
  · decide
  · rename_i other
    exact not_or.mp other

theorem truncateUtf8_isPrefix (value : String) (maximum : Option Nat) :
    (truncateUtf8 value maximum).toList <+: value.toList := by
  cases maximum with
  | none => exact List.prefix_rfl
  | some maximum =>
      rw [truncateUtf8, String.toList_ofList]
      exact Text.takeBytes_isPrefix maximum _

theorem byteLength_truncateUtf8 (value : String) (maximum : Nat) :
    Text.byteLength (truncateUtf8 value (some maximum)).toList ≤ maximum := by
  rw [truncateUtf8, String.toList_ofList]
  exact Text.byteLength_takeBytes maximum _

/-- The line that is queued, and what the bounds have let through of it. -/
structure Bounded (redactLine : String → String) (bounds : LogBounds) (sent : Nat)
    (log line : DeploymentLog) : Prop where
  within : WithinBounds redactLine bounds log line
  total : ∀ maximum, bounds.maxTotalBytes = some maximum → sent + line.byteCount ≤ maximum.toNat
  batches : bounds.maxBatchLines ≠ some 0

theorem bounded_of_boundedLog {redactLine : String → String} {bounds : LogBounds} {sent : Nat}
    {log line : DeploymentLog} (bounded : boundedLog redactLine log bounds sent = some line) :
    Bounded redactLine bounds sent log line := by
  unfold boundedLog at bounded
  split at bounded
  · cases bounded
  rename_i batches
  -- the line as it is cut at the length of a line, and what is kept of it
  generalize cutAt : truncateUtf8 (sanitiseLine (redactLine log.message))
    (bounds.maxLineLength.map UInt64.toNat) = cut at bounded
  have begins : cut.toList <+: (sanitiseLine (redactLine log.message)).toList := by
    rw [← cutAt]
    exact truncateUtf8_isPrefix _ _
  have short : ∀ maximum, bounds.maxLineLength = some maximum →
      Text.byteLength cut.toList ≤ maximum.toNat := by
    intro maximum isSet
    rw [← cutAt, isSet]
    exact byteLength_truncateUtf8 _ _
  have of_begins : ∀ message : String, message.toList <+: cut.toList → message ≠ "" →
      WithinBounds redactLine bounds log { log with message } := by
    intro message inside isSome
    have whole := inside.trans begins
    have noBreak : ∀ character ∈ message.toList, character ≠ '\r' ∧ character ≠ '\n' :=
      fun character member => sanitiseLine_oneLine _ (whole.subset member)
    exact
      { stream := rfl
        nonempty := isSome
        oneLine := ⟨fun member => (noBreak _ member).1 rfl, fun member => (noBreak _ member).2 rfl⟩
        short := fun maximum isSet =>
          (Text.byteLength_le_of_isPrefix inside).trans (short maximum isSet)
        begins := whole }
  cases total : bounds.maxTotalBytes with
  | none =>
      simp only [total, Option.map_none] at bounded
      split at bounded
      · cases bounded
      · rename_i isSome
        obtain rfl := Option.some.inj bounded
        exact ⟨of_begins cut List.prefix_rfl (by simpa using isSome), by simp [total], batches⟩
  | some maximum =>
      simp only [total, Option.map_some] at bounded
      split at bounded
      · cases bounded
      · rename_i room
        split at bounded
        · cases bounded
        · rename_i isSome
          obtain rfl := Option.some.inj bounded
          have within := of_begins _ (truncateUtf8_isPrefix cut (some (maximum.toNat - sent)))
            (by simpa using isSome)
          refine ⟨within, ?_, batches⟩
          intro other same
          obtain rfl := Option.some.inj (total.symm.trans same)
          have cutTotal := byteLength_truncateUtf8 cut (maximum.toNat - sent)
          simp only [DeploymentLog.byteCount]
          omega

namespace Reporter

variable {s s' : Reporter} {id : CallId} {call : Call} {action : Action}

/-! ### What a step does to the lines -/

/-- The next batch of the pending lines. -/
def nextBatch (s : Reporter) : Nat :=
  (fillBatch s.batchMaxLines s.state.pending 0 0).1

/-- What a step does to the pending lines, the accepted ones and the requests. -/
inductive LineChange (s s' : Reporter) (action : Action) : Prop where
  | kept (state : s'.state = s.state) (lines : s'.acceptedLines = s.acceptedLines)
      (handed : s'.handed = s.handed)
  /-- A line is accepted. -/
  | accepted (id : CallId) (call : Call) (log line : DeploymentLog) (at_ : action = .proceed id)
      (found : s.calls id = some call) (entered : call.position = .entered log)
      (delivering : s.state.deliveryStopped = none)
      (bounded : boundedLog s.redactLine log s.logBounds s.state.bytesSent = some line)
      (pending : s'.state.pending = s.state.pending ++ [line])
      (spent : s'.state.bytesSent = s.state.bytesSent + line.byteCount)
      (lines : s'.acceptedLines = s.acceptedLines ++ [line]) (handed : s'.handed = s.handed)
  /-- A batch is taken out of the pending lines and handed over. -/
  | drained (isSome : s.state.pending ≠ [])
      (pending : s'.state.pending = s.state.pending.drop s.nextBatch)
      (spent : s'.state.bytesSent = s.state.bytesSent)
      (lines : s'.acceptedLines = s.acceptedLines)
      (handed : s'.handed = s.handed ++ [s.state.pending.take s.nextBatch])
  /-- The delivery is stopped. -/
  | stopped (pending : s'.state.pending = []) (spent : s'.state.bytesSent = s.state.bytesSent)
      (lines : s'.acceptedLines = s.acceptedLines) (handed : s'.handed = s.handed)

/-- The redaction and the bounds are the ones the reporter was made with. -/
def SamePolicy (s s' : Reporter) : Prop :=
  s'.redactLine = s.redactLine ∧ s'.logBounds = s.logBounds

theorem SamePolicy.refl (s : Reporter) : SamePolicy s s := ⟨rfl, rfl⟩

theorem accept_change {log : DeploymentLog} (found : s.calls id = some call)
    (entered : call.position = .entered log) :
    SamePolicy s (s.accept id log) ∧ LineChange s (s.accept id log) (.proceed id) := by
  unfold Reporter.accept
  split
  · exact ⟨SamePolicy.refl s, .kept rfl rfl rfl⟩
  · rename_i delivering
    split
    · exact ⟨SamePolicy.refl s, .kept rfl rfl rfl⟩
    · rename_i line bounded
      exact ⟨SamePolicy.refl s,
        .accepted id call log line rfl found entered delivering bounded rfl rfl rfl rfl⟩

theorem drain_change (caller : Caller) :
    SamePolicy s (s.drain id caller) ∧ LineChange s (s.drain id caller) action := by
  unfold Reporter.drain
  split
  · exact ⟨SamePolicy.refl s, .kept rfl rfl rfl⟩
  · split
    · exact ⟨SamePolicy.refl s, .kept rfl rfl rfl⟩
    · rename_i isSome
      exact ⟨SamePolicy.refl s, .drained (by simpa using isSome) rfl rfl rfl rfl⟩

theorem schedule_change (outcome : Except String Unit) :
    SamePolicy s (s.scheduleFlush.returnWith id .log outcome) ∧
      LineChange s (s.scheduleFlush.returnWith id .log outcome) action := by
  unfold Reporter.scheduleFlush
  split
  · exact ⟨SamePolicy.refl s, .kept rfl rfl rfl⟩
  · exact ⟨SamePolicy.refl s, .kept rfl rfl rfl⟩

theorem proceed_change (found : s.calls id = some call) (stepped : s.proceed id call = some s') :
    SamePolicy s s' ∧ LineChange s s' (.proceed id) := by
  unfold Reporter.proceed at stepped
  split at stepped
  case h_1 entered =>
    obtain rfl := Option.some.inj stepped
    exact accept_change found entered
  case h_3 =>
    obtain rfl := Option.some.inj stepped
    exact schedule_change _
  case h_5 =>
    split at stepped
    · obtain rfl := Option.some.inj stepped
      exact ⟨SamePolicy.refl s, .kept rfl rfl rfl⟩
    · cases stepped
  case h_6 =>
    obtain rfl := Option.some.inj stepped
    exact drain_change call.caller
  case h_8 =>
    obtain rfl := Option.some.inj stepped
    exact ⟨SamePolicy.refl s, .stopped rfl rfl rfl rfl⟩
  case h_2 | h_4 =>
    obtain rfl := Option.some.inj stepped
    exact ⟨SamePolicy.refl s, .kept rfl rfl rfl⟩
  case h_7 | h_9 => cases stepped

theorem step_change (stepped : s.step action = some s') :
    SamePolicy s s' ∧ LineChange s s' action := by
  cases action with
  | log log | flush =>
      obtain rfl := Option.some.inj stepped
      exact ⟨SamePolicy.refl s, .kept rfl rfl rfl⟩
  | proceed id =>
      obtain ⟨call, found, moved⟩ := Option.bind_eq_some_iff.mp stepped
      exact proceed_change found moved
  | answer id failure =>
      obtain ⟨call, found, moved⟩ := Option.bind_eq_some_iff.mp stepped
      unfold Reporter.answer at moved
      split at moved
      case h_1 | h_2 =>
        obtain rfl := Option.some.inj moved
        exact ⟨SamePolicy.refl s, .kept rfl rfl rfl⟩
      case h_3 => cases moved
  | drop id =>
      obtain ⟨call, found, moved⟩ := Option.bind_eq_some_iff.mp stepped
      unfold Reporter.dropCall at moved
      split at moved
      case isTrue =>
        obtain rfl := Option.some.inj moved
        exact ⟨SamePolicy.refl s, .kept rfl rfl rfl⟩
      case isFalse => cases moved

/-! ### Where a line is offered -/

/-- A call that is moved to another position than the entry of `log` leaves the entries as they
are. -/
theorem entered_of_update {next call' : Call} {other : CallId} {log : DeploymentLog}
    (calls : s'.calls = Function.update s.calls id (some next))
    (moved : ∀ line, next.position ≠ .entered line) (found' : s'.calls other = some call')
    (entered : call'.position = .entered log) : s.calls other = some call' := by
  rw [calls] at found'
  by_cases same : other = id
  · subst same
    rw [Function.update_self] at found'
    obtain rfl := Option.some.inj found'
    exact absurd entered (moved log)
  · rw [Function.update_of_ne same] at found'
    exact found'

theorem proceed_entered {call' : Call} {other : CallId} {log : DeploymentLog}
    (stepped : s.proceed id call = some s') (found' : s'.calls other = some call')
    (entered : call'.position = .entered log) : s.calls other = some call' := by
  unfold Reporter.proceed at stepped
  split at stepped
  case h_1 =>
    obtain rfl := Option.some.inj stepped
    unfold Reporter.accept at found'
    split at found'
    · exact entered_of_update rfl (by simp) found' entered
    · split at found'
      · exact entered_of_update rfl (by simp) found' entered
      · exact entered_of_update rfl (by simp) found' entered
  case h_3 =>
    obtain rfl := Option.some.inj stepped
    have scheduled : s.scheduleFlush.calls other = some call' :=
      entered_of_update (s := s.scheduleFlush) rfl (by simp) found' entered
    unfold Reporter.scheduleFlush at scheduled
    split at scheduled
    · exact scheduled
    · exact entered_of_update rfl (by simp) scheduled entered
  case h_5 =>
    split at stepped
    · obtain rfl := Option.some.inj stepped
      exact entered_of_update rfl (by simp) found' entered
    · cases stepped
  case h_6 =>
    obtain rfl := Option.some.inj stepped
    unfold Reporter.drain at found'
    split at found'
    · exact entered_of_update rfl (by simp) found' entered
    · split at found'
      · exact entered_of_update rfl (by simp) found' entered
      · exact entered_of_update rfl (by simp) found' entered
  case h_2 | h_4 | h_8 =>
    obtain rfl := Option.some.inj stepped
    exact entered_of_update rfl (by simp) found' entered
  case h_7 | h_9 => cases stepped

/-- A call stands at the entry of `log` with a line only from the call of `log` with that line on. -/
theorem step_entered {call' : Call} {other : CallId} {log : DeploymentLog}
    (stepped : s.step action = some s') (found' : s'.calls other = some call')
    (entered : call'.position = .entered log) :
    s.calls other = some call' ∨ action = .log log := by
  cases action with
  | log line =>
      obtain rfl := Option.some.inj stepped
      change Function.update s.calls s.nextCall (some ⟨.log, .entered line⟩) other = _ at found'
      by_cases same : other = s.nextCall
      · rw [same, Function.update_self] at found'
        obtain rfl := Option.some.inj found'
        exact Or.inr (congrArg Action.log (CallPosition.entered.inj entered))
      · rw [Function.update_of_ne same] at found'
        exact Or.inl found'
  | flush =>
      obtain rfl := Option.some.inj stepped
      exact Or.inl (entered_of_update rfl (by simp) found' entered)
  | proceed id =>
      obtain ⟨call, _, moved⟩ := Option.bind_eq_some_iff.mp stepped
      exact Or.inl (proceed_entered moved found' entered)
  | answer id failure =>
      obtain ⟨call, _, moved⟩ := Option.bind_eq_some_iff.mp stepped
      unfold Reporter.answer at moved
      split at moved
      case h_1 | h_2 =>
        obtain rfl := Option.some.inj moved
        exact Or.inl (entered_of_update rfl (by simp) found' entered)
      case h_3 => cases moved
  | drop id =>
      obtain ⟨call, found, moved⟩ := Option.bind_eq_some_iff.mp stepped
      unfold Reporter.dropCall at moved
      split at moved
      case isTrue =>
        obtain rfl := Option.some.inj moved
        change Function.update s.calls id none other = some call' at found'
        by_cases same : other = id
        · rw [same, Function.update_self] at found'
          cases found'
        · rw [Function.update_of_ne same] at found'
          exact Or.inl found'
      case isFalse => cases moved

/-! ### The budget -/

/-- What is known of the lines a reporter has accepted, all of them offered by the given calls. -/
structure Budgeted (redactLine : String → String) (logBounds : LogBounds)
    (actions : List Action) (s : Reporter) : Prop where
  redaction : s.redactLine = redactLine
  bounds : s.logBounds = logBounds
  entered : ∀ id call log, s.calls id = some call → call.position = .entered log →
    .log log ∈ actions
  lines : ∀ accepted ∈ s.acceptedLines, ∃ offered, .log offered ∈ actions ∧
    WithinBounds redactLine logBounds offered accepted
  spent : s.state.bytesSent = (s.acceptedLines.map DeploymentLog.byteCount).sum
  total : ∀ maximum, logBounds.maxTotalBytes = some maximum → s.state.bytesSent ≤ maximum.toNat
  batches : logBounds.maxBatchLines = some 0 → s.acceptedLines = []

namespace Budgeted

variable {redactLine : String → String} {logBounds : LogBounds} {actions : List Action}

theorem new : Budgeted redactLine logBounds actions (.new redactLine logBounds) where
  redaction := rfl
  bounds := rfl
  entered := fun _ _ _ found => nomatch found
  lines := fun _ member => nomatch member
  spent := rfl
  total := fun _ _ => Nat.zero_le _
  batches := fun _ => rfl

/-- A step accepts a line within the bounds, or none. -/
theorem step (budgeted : Budgeted redactLine logBounds actions s) (taken : action ∈ actions)
    (stepped : s.step action = some s') : Budgeted redactLine logBounds actions s' := by
  obtain ⟨⟨sameRedaction, sameBounds⟩, change⟩ := step_change stepped
  have redaction := sameRedaction.trans budgeted.redaction
  have bounds := sameBounds.trans budgeted.bounds
  have entered : ∀ id call log, s'.calls id = some call → call.position = .entered log →
      .log log ∈ actions := by
    intro id call log found entered
    rcases step_entered stepped found entered with before | same
    · exact budgeted.entered id call log before entered
    · exact same ▸ taken
  have of_same : s'.acceptedLines = s.acceptedLines → s'.state.bytesSent = s.state.bytesSent →
      Budgeted redactLine logBounds actions s' := by
    intro lines spent
    exact
      { redaction, bounds, entered
        lines := by rw [lines]; exact budgeted.lines
        spent := by rw [lines, spent]; exact budgeted.spent
        total := by rw [spent]; exact budgeted.total
        batches := by rw [lines]; exact budgeted.batches }
  cases change with
  | kept state lines handed => exact of_same lines (by rw [state])
  | drained isSome pending spent lines handed => exact of_same lines spent
  | stopped pending spent lines handed => exact of_same lines spent
  | accepted id call log line at_ found position delivering accepted pending spent lines handed =>
      have bounded := bounded_of_boundedLog accepted
      rw [budgeted.redaction, budgeted.bounds] at bounded
      refine { redaction, bounds, entered, lines := ?_, spent := ?_, total := ?_, batches := ?_ }
      · intro other member
        rw [lines] at member
        rcases List.mem_append.mp member with before | last
        · exact budgeted.lines other before
        · obtain rfl := List.mem_singleton.mp last
          exact ⟨log, budgeted.entered id call log found position, bounded.within⟩
      · rw [spent, lines, budgeted.spent]
        simp
      · intro maximum isSet
        rw [spent]
        exact bounded.total maximum isSet
      · intro none_
        exact absurd none_ bounded.batches

end Budgeted

/-- Whatever the callers do, every accepted line is a beginning of the redacted line it was offered
for, within the bounds, and all of them together are within the budget. -/
theorem log_budget (redactLine : String → String) (logBounds : LogBounds) (actions : List Action)
    (s : Reporter) (run : Transition.exec step (.new redactLine logBounds) actions = some s) :
    (∀ accepted ∈ s.acceptedLines, ∃ offered, .log offered ∈ actions ∧
      WithinBounds redactLine logBounds offered accepted) ∧
    (∀ maximum, logBounds.maxTotalBytes = some maximum →
      (s.acceptedLines.map DeploymentLog.byteCount).sum ≤ maximum.toNat) ∧
    (logBounds.maxBatchLines = some 0 → s.acceptedLines = []) := by
  have budgeted : Budgeted redactLine logBounds actions s :=
    Transition.exec_invariant_along (fun _ action => action ∈ actions)
      (Budgeted redactLine logBounds actions)
      (fun _ _ _ budgeted taken stepped => budgeted.step taken stepped) Budgeted.new
      (Transition.along_of_forall fun _ member => member) run
  refine ⟨budgeted.lines, ?_, budgeted.batches⟩
  intro maximum isSet
  rw [← budgeted.spent]
  exact budgeted.total maximum isSet

/-- Two lines share a budget of three bytes. -/
theorem log_budget_shared : ∃ s,
    Transition.exec step (.new (fun line => line) { maxTotalBytes := some 3 })
      [.log ⟨.stdout, "ab"⟩, .proceed 0, .log ⟨.stdout, "cd"⟩, .proceed 1] = some s ∧
      s.acceptedLines.map DeploymentLog.message = ["ab", "c"] ∧
      (s.acceptedLines.map DeploymentLog.byteCount).sum ≤ 3 := by
  have possible : (Transition.exec step (.new (fun line => line) { maxTotalBytes := some 3 })
      [.log ⟨.stdout, "ab"⟩, .proceed 0, .log ⟨.stdout, "cd"⟩, .proceed 1]).map
          (fun s => s.acceptedLines.map DeploymentLog.message) = some ["ab", "c"] := by
    decide +kernel
  obtain ⟨s, run, messages⟩ := Option.map_eq_some_iff.mp possible
  exact ⟨s, run, messages, (log_budget (fun line => line) _ _ s run).2.1 3 rfl⟩

/-! ### The requests -/

/-- A request within the local ceilings: it has a line, not more lines than the policy of the control
plane and the local ceiling allow, and not more bytes of messages than a request may have. -/
structure WithinCeilings (logBounds : LogBounds) (batch : List DeploymentLog) : Prop where
  nonempty : batch ≠ []
  ceiling : batch.length ≤ 100
  policy : ∀ maximum, logBounds.maxBatchLines = some maximum →
    batch.length ≤ max 1 (min maximum.toNat 100)
  bytes : (batch.map DeploymentLog.byteCount).sum ≤ 512 * 1024

/-- Whatever is accepted of an offered line, it is no longer than a request may be: a beginning of
the redacted line that is within the length of a line and within what is left of the budget. -/
def FitsRequest (s : Reporter) (log : DeploymentLog) : Prop :=
  s.state.deliveryStopped = none → s.logBounds.maxBatchLines ≠ some 0 →
  ∀ message, message <+: (sanitiseLine (s.redactLine log.message)).toList →
    (∀ maximum, s.logBounds.maxLineLength = some maximum →
      Text.byteLength message ≤ maximum.toNat) →
    (∀ maximum, s.logBounds.maxTotalBytes = some maximum →
      s.state.bytesSent + Text.byteLength message ≤ maximum.toNat) →
    Text.byteLength message ≤ maxBatchBytes

/-- The line that a call of `log` accepts next, if it does, fits into a request. -/
def AcceptsShortLine (s : Reporter) : Action → Prop
  | .proceed id => ∀ call log, s.calls id = some call → call.position = .entered log →
      s.FitsRequest log
  | _ => True

/-- What fills a batch: not more lines than asked for, and not more bytes than a request may have,
unless it is a single line. -/
theorem fillBatch_limits (maxLines : Nat) (logs : List DeploymentLog) (count bytes : Nat)
    (short : ∀ log ∈ logs, log.byteCount ≤ maxBatchBytes) (lines : count ≤ max 1 maxLines)
    (fits : bytes ≤ maxBatchBytes) (started : count = 0 → bytes = 0) :
    (fillBatch maxLines logs count bytes).1 ≤ max 1 maxLines ∧
      (fillBatch maxLines logs count bytes).2 ≤ maxBatchBytes := by
  induction logs generalizing count bytes with
  | nil => exact ⟨lines, fits⟩
  | cons log rest ih =>
      have longest := short log List.mem_cons_self
      rw [fillBatch]
      split
      · exact ⟨lines, fits⟩
      · rename_i goesOn
        have room : count = 0 ∨ (count < maxLines ∧ bytes + log.byteCount ≤ maxBatchBytes) := by
          omega
        apply ih (count + 1) (bytes + log.byteCount)
        · exact fun other member => short other (List.mem_cons_of_mem _ member)
        · omega
        · rcases room with first | ⟨_, within⟩
          · rw [started first]
            omega
          · exact within
        · omega

/-- The next batch of pending lines that each fit into a request. -/
theorem nextBatch_within (isSome : s.state.pending ≠ [])
    (short : ∀ log ∈ s.state.pending, log.byteCount ≤ maxBatchBytes) :
    WithinCeilings s.logBounds (s.state.pending.take s.nextBatch) := by
  obtain ⟨taken, filled, progress⟩ := Ledger.fillBatch_eq s.batchMaxLines s.state.pending 0 0
  have limits := fillBatch_limits s.batchMaxLines s.state.pending 0 0 short (Nat.zero_le _)
    (Nat.zero_le _) (fun _ => rfl)
  have counted : s.nextBatch = taken := by
    rw [nextBatch, filled, Nat.zero_add]
  rw [filled] at limits
  obtain ⟨lines, bytes⟩ := limits
  have length : (s.state.pending.take taken).length ≤ max 1 s.batchMaxLines := by
    rw [List.length_take]
    omega
  rw [counted]
  refine { nonempty := ?_, ceiling := ?_, policy := ?_, bytes := ?_ }
  · have long := List.length_pos_iff.mpr isSome
    have positive := progress rfl isSome
    apply List.ne_nil_of_length_pos
    rw [List.length_take]
    omega
  · apply length.trans
    rw [batchMaxLines, defaultBatchLines]
    split <;> omega
  · intro maximum isSet
    rw [batchMaxLines, isSet] at length
    simpa [defaultBatchLines] using length
  · simpa [maxBatchBytes] using bytes

/-- Every pending line fits into a request, and every request made so far is within the ceilings. -/
structure Limited (logBounds : LogBounds) (s : Reporter) : Prop where
  bounds : s.logBounds = logBounds
  pending : ∀ log ∈ s.state.pending, log.byteCount ≤ maxBatchBytes
  handed : ∀ batch ∈ s.handed, WithinCeilings logBounds batch

theorem Limited.step {logBounds : LogBounds} (limited : Limited logBounds s)
    (short : s.AcceptsShortLine action) (stepped : s.step action = some s') :
    Limited logBounds s' := by
  obtain ⟨⟨_, sameBounds⟩, change⟩ := step_change stepped
  have bounds := sameBounds.trans limited.bounds
  cases change with
  | kept state lines handed =>
      exact
        { bounds
          pending := by rw [state]; exact limited.pending
          handed := by rw [handed]; exact limited.handed }
  | stopped pending spent lines handed =>
      exact
        { bounds
          pending := by rw [pending]; exact fun _ member => nomatch member
          handed := by rw [handed]; exact limited.handed }
  | drained isSome pending spent lines handed =>
      refine { bounds, pending := ?_, handed := ?_ }
      · intro log member
        rw [pending] at member
        exact limited.pending log (List.mem_of_mem_drop member)
      · intro batch member
        rw [handed] at member
        rcases List.mem_append.mp member with before | last
        · exact limited.handed batch before
        · obtain rfl := List.mem_singleton.mp last
          have within := nextBatch_within isSome limited.pending
          rwa [limited.bounds] at within
  | accepted id call log line at_ found entered delivering accepted pending spent lines handed =>
      subst at_
      have bounded := bounded_of_boundedLog accepted
      have fits : line.byteCount ≤ maxBatchBytes :=
        short call log found entered delivering bounded.batches line.message.toList
          bounded.within.begins bounded.within.short bounded.total
      refine { bounds, pending := ?_, handed := by rw [handed]; exact limited.handed }
      intro other member
      rw [pending] at member
      rcases List.mem_append.mp member with before | last
      · exact limited.pending other before
      · obtain rfl := List.mem_singleton.mp last
        exact fits

/-- As long as every line that is accepted fits into a request, every request stays within the local
ceilings. -/
theorem requests_within_ceilings (redactLine : String → String) (logBounds : LogBounds)
    (actions : List Action) (s : Reporter)
    (short : Transition.Along step AcceptsShortLine (.new redactLine logBounds) actions)
    (run : Transition.exec step (.new redactLine logBounds) actions = some s) :
    ∀ batch ∈ s.handed, WithinCeilings logBounds batch := by
  have start : Limited logBounds (.new redactLine logBounds) :=
    { bounds := rfl
      pending := fun _ member => nomatch member
      handed := fun _ member => nomatch member }
  have limited : Limited logBounds s :=
    Transition.exec_invariant_along AcceptsShortLine (Limited logBounds)
      (fun _ _ _ limited short stepped => limited.step short stepped) start short run
  exact limited.handed

/-- With a length of a line that is no more than a request may have, every line fits. -/
theorem along_of_maxLineLength {redactLine : String → String} {logBounds : LogBounds}
    {maximum : UInt64} (isSet : logBounds.maxLineLength = some maximum)
    (limit : maximum.toNat ≤ maxBatchBytes) (actions : List Action) :
    Transition.Along step AcceptsShortLine (.new redactLine logBounds) actions := by
  apply Transition.along_of_invariant (fun s => s.logBounds.maxLineLength = some maximum)
  · intro s action s' same stepped
    rw [(step_change stepped).1.2]
    exact same
  · intro s action same
    cases action with
    | proceed id =>
        intro call log _ _ _ _ message _ short _
        exact (short maximum same).trans limit
    | log log | flush | answer id failure | drop id => trivial
  · exact isSet

/-- Two lines are cut at four bytes and sent in one request. -/
theorem requests_within_ceilings_short_lines : ∃ s,
    Transition.exec step (.new (fun line => line) { maxLineLength := some 4 })
      [.log ⟨.stdout, "running"⟩, .proceed 0, .log ⟨.stderr, "ok"⟩, .proceed 1, .flush,
        .proceed 2, .proceed 2] = some s ∧
      s.handed.map (List.map DeploymentLog.message) = [["runn", "ok"]] ∧
      ∀ batch ∈ s.handed, WithinCeilings { maxLineLength := some 4 } batch := by
  have possible : (Transition.exec step (.new (fun line => line) { maxLineLength := some 4 })
      [.log ⟨.stdout, "running"⟩, .proceed 0, .log ⟨.stderr, "ok"⟩, .proceed 1, .flush,
        .proceed 2, .proceed 2]).map (fun s => s.handed.map (List.map DeploymentLog.message)) =
          some [["runn", "ok"]] := by decide +kernel
  obtain ⟨s, run, messages⟩ := Option.map_eq_some_iff.mp possible
  have short : ∀ actions, Transition.Along step AcceptsShortLine
      (.new (fun line => line) { maxLineLength := some 4 }) actions :=
    along_of_maxLineLength rfl (by decide)
  exact ⟨s, run, messages, requests_within_ceilings _ _ _ s (short _) run⟩

/-- A line and a flush: what the bounds leave of the line is a request. -/
theorem single_line_handed {redactLine : String → String} {logBounds : LogBounds}
    {log line : DeploymentLog} (bounded : boundedLog redactLine log logBounds 0 = some line) :
    ∃ s, Transition.exec step (.new redactLine logBounds)
        [.log log, .proceed 0, .flush, .proceed 1, .proceed 1] = some s ∧
      s.handed = [[line]] := by
  have bounded' : boundedLog redactLine log logBounds (LogState.bytesSent {}) = some line := bounded
  simp [Transition.exec, step, spawn, moveTo, new, proceed, accept, acquire, drain, fillBatch,
    bounded']

/-- A line of one letter over and over. -/
def longLine (count : Nat) : DeploymentLog :=
  ⟨.stdout, String.ofList (List.replicate count 'a')⟩

theorem sanitiseLine_longLine (count : Nat) :
    sanitiseLine (longLine count).message = (longLine count).message := by
  have letter : Text.isWhiteSpace 'a' = false := by decide
  cases count with
  | zero => rfl
  | succ count =>
      have back : (List.replicate (count + 1) 'a').dropWhile Text.isWhiteSpace =
          List.replicate (count + 1) 'a' := by
        rw [List.replicate_succ, List.dropWhile_cons_of_neg (by simp [letter])]
      simp only [sanitiseLine, longLine, String.toList_ofList, List.map_replicate, Text.trimEnd,
        List.reverse_replicate]
      simp only [Char.reduceEq, or_self, if_false, back, List.reverse_replicate]

theorem byteCount_longLine (count : Nat) : (longLine count).byteCount = count := by
  have one : 'a'.utf8Size = 1 := rfl
  rw [DeploymentLog.byteCount, longLine, String.toList_ofList, Text.byteLength,
    List.map_replicate, List.sum_replicate_nat, one, Nat.mul_one]

/-- Without bounds the line is queued as it is. -/
theorem boundedLog_longLine (count sent : Nat) :
    boundedLog (fun line => line) (longLine (count + 1)) {} sent = some (longLine (count + 1)) := by
  have isSome : (longLine (count + 1)).message.isEmpty = false := by
    simp [longLine, List.replicate_succ]
  simp only [boundedLog, Option.map_none, truncateUtf8, sanitiseLine_longLine, isSome]
  rfl

/-- A line that is longer than a request may be becomes a request of its own. -/
theorem requests_within_ceilings_long_line :
    ¬ ∀ (redactLine : String → String) (logBounds : LogBounds) (actions : List Action)
      (s : Reporter), Transition.exec step (.new redactLine logBounds) actions = some s →
      ∀ batch ∈ s.handed, WithinCeilings logBounds batch := by
  intro all
  obtain ⟨s, run, handed⟩ := single_line_handed (boundedLog_longLine (512 * 1024) 0)
  have within := (all _ _ _ s run [longLine (512 * 1024 + 1)] (by simp [handed])).bytes
  rw [List.map_singleton, List.sum_singleton, byteCount_longLine] at within
  omega

end Reporter

end SakalaAgent
