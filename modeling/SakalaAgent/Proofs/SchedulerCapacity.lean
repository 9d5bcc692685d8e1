/-
Module: SakalaAgent.Proofs.SchedulerCapacity
Layer: Proofs
Purpose: The accounting of slots. It is exact as long as no task is joined while another task with
  its command id is still in the set: the slots are given back by command id, so such a join gives
  back the slot of the other task as well. A command without a project is not held back when a poll
  returns it again, so this happens.
Trusted boundary: none
Main exports: CapacityExact, Poller.SafeJoin, Poller.capacity_exact, Poller.capacity_lost
-/
import SakalaAgent.Proofs.TaskRelease
import SakalaAgent.Core.Scheduler.Poller

namespace SakalaAgent

open CommandExecutions

/-- The number of tasks of one class that have not been joined. -/
def CommandExecutions.unjoined (e : CommandExecutions) (lightweight : Bool) : Nat :=
  e.tasks.countP fun entry => isLightweight entry.2.commandType == lightweight

/-- The counters, the metric, the limits and the records all speak of the unjoined tasks. -/
structure SlotsExact (e : CommandExecutions) : Prop where
  numbered : ∀ entry ∈ e.spawned, entry.1 < e.nextTaskId
  ids : (e.spawned.map Prod.fst).Nodup
  recorded : e.taskMetadata = e.spawned
  heavy : e.activeHeavy = e.unjoined false
  lightweight : e.activeLightweight = e.unjoined true
  metric : e.metrics.activeCommands = (e.activeHeavy + e.activeLightweight) % usizeModulus
  heavyBound : e.activeHeavy ≤ e.heavyLimit
  lightweightBound : e.activeLightweight ≤ e.lightweightLimit

theorem CommandExecutions.unjoined_eq (e : CommandExecutions) (lightweight : Bool) :
    e.unjoined lightweight = e.spawned.countP fun entry => entry.2.lightweight == lightweight := by
  rw [unjoined, spawned, List.countP_map]
  rfl

namespace SlotsExact

variable {e e' : CommandExecutions} {id : TaskId} {record : TaskMetadata}

/-- Taking one numbered entry out of the tasks lowers the count of its class by one. -/
theorem countP_without (exact : SlotsExact e) (member : (id, record) ∈ e.spawned)
    (lightweight : Bool) :
    e.spawned.countP (fun entry => entry.2.lightweight == lightweight) =
      (e.spawned.filter fun entry => entry.1 != id).countP
        (fun entry => entry.2.lightweight == lightweight) +
      (record.lightweight == lightweight).toNat := by
  obtain ⟨before, after, split⟩ := List.append_of_mem member
  have ids := exact.ids
  rw [split, List.map_append, List.map_cons, List.nodup_middle, List.nodup_cons] at ids
  have absent : ∀ entry ∈ before ++ after, (entry.1 != id) = true := by
    intro entry present
    have listed : entry.1 ∈ before.map Prod.fst ++ after.map Prod.fst := by
      rw [← List.map_append]
      exact List.mem_map.mpr ⟨entry, present, rfl⟩
    have ne : entry.1 ≠ id := fun same => ids.1 (same ▸ listed)
    simpa using ne
  have keptBefore : before.filter (fun entry => entry.1 != id) = before :=
    List.filter_eq_self.mpr fun entry present =>
      absent entry (List.mem_append.mpr (Or.inl present))
  have keptAfter : after.filter (fun entry => entry.1 != id) = after :=
    List.filter_eq_self.mpr fun entry present =>
      absent entry (List.mem_append.mpr (Or.inr present))
  rw [split, List.filter_append, List.filter_cons_of_neg (by simp), keptBefore, keptAfter]
  simp only [List.countP_append, List.countP_cons]
  cases record.lightweight <;> cases lightweight <;> simp <;> omega

/-- One unjoined task less, and its slot given back. -/
theorem released (exact : SlotsExact e) (member : (id, record) ∈ e.spawned)
    (others : e'.spawned = e.spawned.filter fun entry => entry.1 != id)
    (records : e'.taskMetadata = e.taskMetadata.filter fun entry => entry.1 != id)
    (next : e'.nextTaskId = e.nextTaskId)
    (heavy : e'.activeHeavy = e.activeHeavy - (!record.lightweight).toNat)
    (light : e'.activeLightweight = e.activeLightweight - record.lightweight.toNat)
    (metric : e'.metrics = e.metrics.commandFinished) (heavyLimit : e'.heavyLimit = e.heavyLimit)
    (lightLimit : e'.lightweightLimit = e.lightweightLimit) : SlotsExact e' := by
  have sublist : e'.spawned.Sublist e.spawned := others ▸ List.filter_sublist
  have heavyCount := exact.countP_without member false
  have lightCount := exact.countP_without member true
  rw [← unjoined_eq, ← exact.heavy, ← others, ← unjoined_eq] at heavyCount
  rw [← unjoined_eq, ← exact.lightweight, ← others, ← unjoined_eq] at lightCount
  have heavyAfter : e'.activeHeavy = e'.unjoined false := by
    rw [heavy]
    cases class_ : record.lightweight <;> simp [class_] at heavyCount ⊢ <;> omega
  have lightAfter : e'.activeLightweight = e'.unjoined true := by
    rw [light]
    cases class_ : record.lightweight <;> simp [class_] at lightCount ⊢ <;> omega
  have total : e.activeHeavy + e.activeLightweight =
      e'.activeHeavy + e'.activeLightweight + 1 := by
    rw [heavyAfter, lightAfter]
    cases class_ : record.lightweight <;> simp [class_] at heavyCount lightCount <;> omega
  refine
    { numbered := fun entry present => next ▸ exact.numbered entry (sublist.subset present)
      ids := exact.ids.sublist (sublist.map Prod.fst)
      recorded := by rw [records, exact.recorded, others]
      heavy := heavyAfter
      lightweight := lightAfter
      metric := ?_
      heavyBound := ?_
      lightweightBound := ?_ }
  · rw [metric, SchedulerMetrics.commandFinished, exact.metric, total]
    simp only [usizeModulus]
    omega
  · rw [heavyLimit, heavy]
    exact (Nat.sub_le _ _).trans exact.heavyBound
  · rw [lightLimit, light]
    exact (Nat.sub_le _ _).trans exact.lightweightBound

theorem releaseId_released (exact : SlotsExact e) (member : (id, record) ∈ e.spawned)
    (joined : CommandExecutions)
    (join : joined = { e with tasks := e.tasks.filter fun entry => entry.1 != id })
    (others : joined.spawned = e.spawned.filter fun entry => entry.1 != id) :
    SlotsExact (joined.releaseId id) := by
  have same := releaseId_sameTasks joined id
  have records : joined.taskMetadata = e.taskMetadata := by rw [join]
  have recordIds : (joined.taskMetadata.map Prod.fst).Nodup := by
    rw [records, exact.recorded]
    exact exact.ids
  have shape := releaseId_of_mem recordIds (by rw [records, exact.recorded]; exact member)
  refine exact.released member (same.spawned.trans others) ?_ ?_ ?_ ?_ ?_ ?_ ?_ <;>
    rw [shape, join] <;> rfl

/-- When no other unjoined task carries the command id, the release by command id is the release
of the joined task. -/
theorem releaseTask_released (exact : SlotsExact e) (member : (id, record) ∈ e.spawned)
    (sole : ∀ entry ∈ e.spawned, entry.2.commandId = record.commandId → entry.1 = id)
    (joined : CommandExecutions) (projects : Finset Uuid)
    (join : joined = { e with
      activeProjects := projects, tasks := e.tasks.filter fun entry => entry.1 != id })
    (others : joined.spawned = e.spawned.filter fun entry => entry.1 != id) :
    SlotsExact (joined.releaseTask record.commandId) := by
  have records : joined.taskMetadata = e.spawned := by rw [join, ← exact.recorded]
  have recordIds : (joined.taskMetadata.map Prod.fst).Nodup := by
    rw [records]
    exact exact.ids
  have same := releaseTask_sameTasks joined record.commandId
  have selected : ∀ entry ∈ e.spawned,
      decide (entry.2.commandId = record.commandId) = decide (entry.1 = id) := by
    intro entry present
    refine decide_eq_decide.mpr ⟨sole entry present, fun numbered => ?_⟩
    have equal : entry.2 = record :=
      value_unique exact.ids (show (id, entry.2) ∈ e.spawned by rw [← numbered]; exact present) member
    rw [equal]
  have chosen : joined.recordsOf record.commandId = [record] := by
    rw [recordsOf, records, List.filter_congr selected]
    obtain ⟨before, after, split⟩ := List.append_of_mem member
    have ids := exact.ids
    rw [split, List.map_append, List.map_cons, List.nodup_middle, List.nodup_cons,
      ← List.map_append] at ids
    have absent : ∀ entry ∈ before ++ after, ¬decide (entry.1 = id) = true := by
      intro entry present same
      exact ids.1 (List.mem_map.mpr ⟨entry, present, by simpa using same⟩)
    rw [split, List.filter_append, List.filter_cons_of_pos (by simp),
      List.filter_eq_nil_iff.mpr fun entry present =>
        absent entry (List.mem_append.mpr (Or.inl present)),
      List.filter_eq_nil_iff.mpr fun entry present =>
        absent entry (List.mem_append.mpr (Or.inr present))]
    rfl
  have kept : (joined.taskMetadata.filter fun entry =>
      !decide (entry.2.commandId = record.commandId)) =
      e.taskMetadata.filter fun entry => entry.1 != id := by
    rw [records, exact.recorded]
    refine List.filter_congr fun entry present => ?_
    rw [selected entry present]
    simp [bne, BEq.beq]
  have shape := releaseTask_eq recordIds record.commandId
  rw [chosen, kept] at shape
  refine exact.released member (same.spawned.trans others) ?_ ?_ ?_ ?_ ?_ ?_ ?_ <;>
    rw [shape, join] <;> rfl

/-! ### The steps -/

/-- No other unjoined task carries the command id of the task `id`. -/
def SoleCommand (e : CommandExecutions) (id : TaskId) : Prop :=
  ∀ task, e.tasks.lookup id = some task → task.outcome = some .completed →
    ∀ entry ∈ e.tasks, entry.2.commandId = task.commandId → entry.1 = id

theorem SoleCommand.spawned {task : CommandTask} (sole : SoleCommand e id)
    (found : e.tasks.lookup id = some task) (completed : task.outcome = some .completed) :
    ∀ entry ∈ e.spawned, entry.2.commandId = task.metadata.commandId → entry.1 = id := by
  rintro ⟨other, record⟩ member command
  obtain ⟨otherTask, present, rfl⟩ := mem_spawned.mp member
  exact sole task found completed (other, otherTask) present command

theorem reapJoined {task : CommandTask} (exact : SlotsExact e) (sole : SoleCommand e id)
    (joined : e.join id = some (task, e')) : SlotsExact (e'.reapJoined id task) := by
  obtain ⟨member, others⟩ := join_spawned joined
  obtain ⟨found, _, rfl⟩ := join_eq_some.mp joined
  unfold CommandExecutions.reapJoined
  split
  · rename_i completed
    exact exact.releaseTask_released member (sole.spawned found completed) _ _ rfl others
  · exact exact.releaseId_released member _ rfl others

theorem waitJoined {task : CommandTask} (exact : SlotsExact e) (sole : SoleCommand e id)
    (joined : e.join id = some (task, e')) : SlotsExact (e'.waitJoined id task) := by
  obtain ⟨member, others⟩ := join_spawned joined
  obtain ⟨found, _, rfl⟩ := join_eq_some.mp joined
  unfold CommandExecutions.waitJoined
  split
  · rename_i completed
    exact exact.releaseTask_released member (sole.spawned found completed) _ _ rfl others
  · exact exact.releaseId_released member _ rfl others

/-- Steps that leave the tasks, their records and the counters as they are. -/
theorem of_same (exact : SlotsExact e) (spawned : e'.spawned = e.spawned)
    (records : e'.taskMetadata = e.taskMetadata) (next : e'.nextTaskId = e.nextTaskId)
    (heavy : e'.activeHeavy = e.activeHeavy)
    (light : e'.activeLightweight = e.activeLightweight)
    (metric : e'.metrics.activeCommands = e.metrics.activeCommands)
    (heavyLimit : e'.heavyLimit = e.heavyLimit)
    (lightLimit : e'.lightweightLimit = e.lightweightLimit) : SlotsExact e' where
  numbered := by rw [spawned, next]; exact exact.numbered
  ids := by rw [spawned]; exact exact.ids
  recorded := by rw [spawned, records]; exact exact.recorded
  heavy := by rw [heavy, unjoined_eq, spawned, ← unjoined_eq]; exact exact.heavy
  lightweight := by rw [light, unjoined_eq, spawned, ← unjoined_eq]; exact exact.lightweight
  metric := by rw [metric, heavy, light]; exact exact.metric
  heavyBound := by rw [heavy, heavyLimit]; exact exact.heavyBound
  lightweightBound := by rw [light, lightLimit]; exact exact.lightweightBound

theorem finish {outcome : TaskOutcome} (exact : SlotsExact e)
    (finished : e.finish id outcome = some e') : SlotsExact e' := by
  obtain ⟨spawned, rest⟩ := finish_spawned finished
  refine exact.of_same spawned ?_ ?_ ?_ ?_ ?_ ?_ ?_ <;> rw [← rest]

theorem started {command : AgentCommand} {cancellation : CancellationToken} (exact : SlotsExact e)
    (accepted : e.refuses command = false) : SlotsExact (e.started command cancellation) := by
  simp only [refuses, Bool.or_eq_false_iff, Bool.and_eq_false_iff, decide_eq_false_iff_not,
    Bool.not_eq_false'] at accepted
  obtain ⟨⟨lightFree, heavyFree⟩, _⟩ := accepted
  have counted (lightweight : Bool) : (e.started command cancellation).unjoined lightweight =
      e.unjoined lightweight + (isLightweight command.commandType == lightweight).toNat := by
    rw [unjoined_eq, started_spawned, List.countP_append, ← unjoined_eq]
    cases class_ : isLightweight command.commandType <;> cases lightweight <;>
      simp [spawnedFor, CommandTask.metadata, class_]
  have fresh : ∀ entry ∈ e.spawned, entry.1 ≠ e.nextTaskId :=
    fun entry present => Nat.ne_of_lt (exact.numbered entry present)
  refine
    { numbered := ?_
      ids := ?_
      recorded := ?_
      heavy := ?_
      lightweight := ?_
      metric := ?_
      heavyBound := ?_
      lightweightBound := ?_ }
  · rw [started_spawned]
    intro entry member
    rcases List.mem_append.mp member with old | new
    · exact Nat.lt_succ_of_lt (exact.numbered entry old)
    · obtain rfl := List.mem_singleton.mp new
      exact Nat.lt_succ_self _
  · rw [started_spawned, List.map_append]
    refine List.Nodup.append exact.ids (List.nodup_singleton _) ?_
    intro taken old new
    obtain ⟨entry, present, rfl⟩ := List.mem_map.mp old
    exact fresh entry present (by simpa using new)
  · rw [started_spawned, ← exact.recorded]
    rfl
  · rw [counted, ← exact.heavy]
    cases class_ : isLightweight command.commandType <;> simp [CommandExecutions.started, class_]
  · rw [counted, ← exact.lightweight]
    cases class_ : isLightweight command.commandType <;> simp [CommandExecutions.started, class_]
  · have one : (isLightweight command.commandType).toNat +
        (!isLightweight command.commandType).toNat = 1 := by
      cases isLightweight command.commandType <;> rfl
    simp only [CommandExecutions.started, SchedulerMetrics.commandStarted, exact.metric]
    rw [Nat.mod_add_mod]
    congr 1
    omega
  · have bound := exact.heavyBound
    cases class_ : isLightweight command.commandType <;>
      simp [CommandExecutions.started, class_] at heavyFree ⊢ <;> omega
  · have bound := exact.lightweightBound
    cases class_ : isLightweight command.commandType <;>
      simp [CommandExecutions.started, class_] at lightFree ⊢ <;> omega

theorem new (limit : Nat) : SlotsExact (.new limit {}) := by
  constructor <;> simp [CommandExecutions.new, spawned, unjoined, usizeModulus]

end SlotsExact

/-! ### Runs of the poller -/

/-- What the counters promise, in any state of the poller. The metric is a `usize`; below the
largest limits its wrap-around is not reached. -/
structure CapacityExact (limit : Nat) (s : Poller) : Prop where
  heavy : s.executions.activeHeavy = s.executions.unjoined false
  lightweight : s.executions.activeLightweight = s.executions.unjoined true
  metric : s.executions.metrics.activeCommands =
    (s.executions.unjoined false + s.executions.unjoined true) % usizeModulus
  metricBelow : limit + 1 < usizeModulus → s.executions.metrics.activeCommands =
    s.executions.unjoined false + s.executions.unjoined true
  heavyBound : s.executions.unjoined false ≤ limit
  lightweightBound : s.executions.unjoined true ≤ 1
  cancelled : s.phase = .cancelling ∨ s.phase = .aborting →
    ∀ entry ∈ s.executions.tasks, entry.2.cancellation ∈ s.executions.cancelledTokens

/-- A step that does not join a completed task whose command id another unjoined task carries. -/
def Poller.SafeJoin (s : Poller) : PollerAction → Prop
  | .join id => SlotsExact.SoleCommand s.executions id
  | _ => True

/-- The inductive form of `CapacityExact`. -/
structure PollerAccounts (limit : Nat) (s : Poller) : Prop where
  slots : SlotsExact s.executions
  heavyLimit : s.executions.heavyLimit = limit
  lightweightLimit : s.executions.lightweightLimit = 1
  cancelled : s.phase = .cancelling ∨ s.phase = .aborting →
    ∀ entry ∈ s.executions.spawned, entry.2.cancellation ∈ s.executions.cancelledTokens

namespace PollerAccounts

variable {limit : Nat} {s s' : Poller}

theorem exact (accounts : PollerAccounts limit s) : CapacityExact limit s := by
  have slots := accounts.slots
  have heavyBound : s.executions.unjoined false ≤ limit := by
    rw [← slots.heavy, ← accounts.heavyLimit]
    exact slots.heavyBound
  have lightBound : s.executions.unjoined true ≤ 1 := by
    rw [← slots.lightweight, ← accounts.lightweightLimit]
    exact slots.lightweightBound
  have metric : s.executions.metrics.activeCommands =
      (s.executions.unjoined false + s.executions.unjoined true) % usizeModulus := by
    rw [slots.metric, slots.heavy, slots.lightweight]
  refine
    { heavy := slots.heavy
      lightweight := slots.lightweight
      metric := metric
      metricBelow := fun small => metric.trans (Nat.mod_eq_of_lt (by omega))
      heavyBound := heavyBound
      lightweightBound := lightBound
      cancelled := ?_ }
  intro stopping entry member
  exact accounts.cancelled stopping (entry.1, entry.2.metadata)
    (List.mem_map.mpr ⟨entry, member, rfl⟩)

/-- A step that changes the phase, to one in which nothing has been cancelled yet, or to none of
the two in which it has. -/
theorem of_phase (accounts : PollerAccounts limit s) (executions : s'.executions = s.executions)
    (phase : s'.phase ≠ .cancelling ∧ s'.phase ≠ .aborting) : PollerAccounts limit s' where
  slots := by rw [executions]; exact accounts.slots
  heavyLimit := by rw [executions]; exact accounts.heavyLimit
  lightweightLimit := by rw [executions]; exact accounts.lightweightLimit
  cancelled stopping := by
    rcases stopping with cancelling | aborting
    · exact absurd cancelling phase.1
    · exact absurd aborting phase.2

theorem beginPoll (accounts : PollerAccounts limit s) : PollerAccounts limit s.beginPoll := by
  unfold Poller.beginPoll
  split
  · exact
      { slots := accounts.slots.of_same rfl rfl rfl rfl rfl rfl rfl rfl
        heavyLimit := accounts.heavyLimit
        lightweightLimit := accounts.lightweightLimit
        cancelled := by simp }
  · exact accounts.of_phase rfl (by simp)

theorem offer (accounts : PollerAccounts limit s) (command : AgentCommand)
    (rest : List AgentCommand) : PollerAccounts limit (s.offer command rest) := by
  unfold Poller.offer tryStart
  cases refused : s.executions.refuses command with
  | true =>
      exact
        { slots := accounts.slots.of_same rfl rfl rfl rfl rfl rfl rfl rfl
          heavyLimit := accounts.heavyLimit
          lightweightLimit := accounts.lightweightLimit
          cancelled := by simp }
  | false =>
      exact
        { slots := accounts.slots.started refused
          heavyLimit := accounts.heavyLimit
          lightweightLimit := accounts.lightweightLimit
          cancelled := by simp }

theorem proceed (accounts : PollerAccounts limit s) (stepped : s.proceed = some s') :
    PollerAccounts limit s' := by
  unfold Poller.proceed at stepped
  split at stepped
  case h_1 =>
    split at stepped
    · cases stepped
    · obtain rfl := Option.some.inj stepped
      exact accounts.of_phase rfl (by simp)
  case h_2 =>
    split at stepped
    · obtain rfl := Option.some.inj stepped
      exact accounts.of_phase rfl (by simp)
    · obtain rfl := Option.some.inj stepped
      exact accounts.beginPoll
  case h_3 =>
    obtain rfl := Option.some.inj stepped
    exact PollerAccounts.beginPoll
      ⟨accounts.slots, accounts.heavyLimit, accounts.lightweightLimit, accounts.cancelled⟩
  case h_6 =>
    split at stepped
    · obtain rfl := Option.some.inj stepped
      exact accounts.of_phase rfl (by simp)
    · obtain rfl := Option.some.inj stepped
      exact accounts.of_phase rfl (by simp)
  case h_7 =>
    obtain rfl := Option.some.inj stepped
    exact accounts.offer _ _
  case h_5 | h_8 =>
    obtain rfl := Option.some.inj stepped
    exact accounts.of_phase rfl (by simp)
  case h_9 | h_10 =>
    split at stepped
    · obtain rfl := Option.some.inj stepped
      exact accounts.of_phase rfl (by simp)
    · cases stepped
  case h_4 | h_11 => cases stepped

/-- A joined task and its release, whichever path it takes. -/
theorem joined {id : TaskId} {task : CommandTask} {e after : CommandExecutions}
    (accounts : PollerAccounts limit s) (join : s.executions.join id = some (task, e))
    (same : SameTasks e after) (slots : SlotsExact after) :
    PollerAccounts limit { s with executions := after } := by
  obtain ⟨_, others⟩ := join_spawned join
  obtain ⟨_, _, rfl⟩ := join_eq_some.mp join
  refine
    { slots := slots
      heavyLimit := same.heavyLimit.trans accounts.heavyLimit
      lightweightLimit := same.lightweightLimit.trans accounts.lightweightLimit
      cancelled := ?_ }
  intro stopping entry member
  have present : entry ∈ s.executions.spawned := by
    have kept : entry ∈ after.spawned := member
    rw [same.spawned, others] at kept
    exact (List.mem_filter.mp kept).1
  have held : after.cancelledTokens = s.executions.cancelledTokens := same.cancelledTokens
  change entry.2.cancellation ∈ after.cancelledTokens
  rw [held]
  exact accounts.cancelled stopping entry present

theorem step {action : PollerAction} (accounts : PollerAccounts limit s)
    (safe : s.SafeJoin action) (stepped : s.step action = some s') : PollerAccounts limit s' := by
  cases action with
  | proceed => exact accounts.proceed stepped
  | join id =>
      simp only [Poller.step] at stepped
      split at stepped
      · cases stepped
      · rename_i task joinedSet join
        split at stepped
        · obtain rfl := Option.some.inj stepped
          exact accounts.joined join (reapJoined_sameTasks _ _ _)
            (accounts.slots.reapJoined safe join)
        all_goals first
          | cases stepped
            done
          | obtain rfl := Option.some.inj stepped
            exact accounts.joined join (waitJoined_sameTasks _ _ _)
              (accounts.slots.waitJoined safe join)
  | polled commands =>
      simp only [Poller.step] at stepped
      split at stepped
      · obtain rfl := Option.some.inj stepped
        exact accounts.of_phase rfl (by simp)
      · obtain rfl := Option.some.inj stepped
        exact accounts.of_phase rfl (by simp)
      · cases stepped
  | shutdown =>
      simp only [Poller.step] at stepped
      split at stepped
      · obtain rfl := Option.some.inj stepped
        refine
          { slots := accounts.slots.of_same rfl rfl rfl rfl rfl rfl rfl rfl
            heavyLimit := accounts.heavyLimit
            lightweightLimit := accounts.lightweightLimit
            cancelled := ?_ }
        intro _ entry member
        have present : entry ∈ s.executions.taskMetadata := by
          rw [accounts.slots.recorded]
          exact member
        refine Finset.mem_union_right _ (List.mem_toFinset.mpr ?_)
        exact List.mem_map.mpr ⟨entry, present, rfl⟩
      · cases stepped
  | graceElapsed =>
      simp only [Poller.step] at stepped
      split at stepped
      · rename_i cancelling
        obtain rfl := Option.some.inj stepped
        refine
          { slots := accounts.slots.of_same (abortAll_spawned _) rfl rfl rfl rfl rfl rfl rfl
            heavyLimit := accounts.heavyLimit
            lightweightLimit := accounts.lightweightLimit
            cancelled := ?_ }
        intro _ entry member
        rw [abortAll_spawned] at member
        exact accounts.cancelled (Or.inl cancelling) entry member
      · cases stepped
  | taskEnded id outcome =>
      obtain ⟨executions, ended, rfl⟩ := Option.map_eq_some_iff.mp stepped
      obtain ⟨spawned, rest⟩ := finish_spawned ended
      have cancelledTokens : executions.cancelledTokens = s.executions.cancelledTokens := by
        rw [← rest]
      refine
        { slots := accounts.slots.finish ended
          heavyLimit := by
            refine Eq.trans ?_ accounts.heavyLimit
            rw [← rest]
          lightweightLimit := by
            refine Eq.trans ?_ accounts.lightweightLimit
            rw [← rest]
          cancelled := ?_ }
      intro stopping entry member
      change entry.2.cancellation ∈ executions.cancelledTokens
      rw [cancelledTokens]
      exact accounts.cancelled stopping entry (spawned ▸ member)
  | lifecycleSet state =>
      obtain rfl := Option.some.inj stepped
      exact ⟨accounts.slots, accounts.heavyLimit, accounts.lightweightLimit, accounts.cancelled⟩

theorem new (connected : Bool) (limit : Nat) (lifecycle : NodeLifecycleState) :
    PollerAccounts limit (.new connected limit lifecycle) where
  slots := SlotsExact.new limit
  heavyLimit := rfl
  lightweightLimit := rfl
  cancelled := by simp [Poller.new]

end PollerAccounts

/-- The accounting is exact in every state of every run in which no completed task is joined while
another unjoined task carries its command id. -/
theorem Poller.capacity_exact (connected : Bool) (limit : Nat) (lifecycle : NodeLifecycleState)
    (actions : List PollerAction) (s : Poller)
    (safe : Transition.Along Poller.step Poller.SafeJoin (.new connected limit lifecycle) actions)
    (run : Transition.exec Poller.step (.new connected limit lifecycle) actions = some s) :
    CapacityExact limit s :=
  (Transition.exec_invariant_along Poller.SafeJoin (PollerAccounts limit)
    (fun _ _ _ accounts safe stepped => accounts.step safe stepped)
    (PollerAccounts.new connected limit lifecycle) safe run).exact

/-- A command that belongs to no project. -/
def approvedCleanup : AgentCommand where
  id := .ofNat 7
  commandType := .cleanupRuntime
  status := .pending
  projectId := none
  deploymentId := none
  payload := .null

/-- One turn of the loop in which the poll returns the command. -/
def pollOnce (command : AgentCommand) : List PollerAction :=
  [.proceed, .proceed, .polled (some [command]), .proceed, .proceed, .proceed, .proceed]

/-- A polled command that runs to its end and is joined. -/
theorem Poller.capacity_exact_once : ∃ s,
    Transition.exec Poller.step (.new true 4 .active)
      (pollOnce approvedCleanup ++ [.taskEnded 0 .completed, .join 0]) = some s ∧
    CapacityExact 4 s := by
  have possible : (Transition.exec Poller.step (.new true 4 .active)
      (pollOnce approvedCleanup ++ [.taskEnded 0 .completed, .join 0])).isSome := by decide
  obtain ⟨s, run⟩ := Option.isSome_iff_exists.mp possible
  refine ⟨s, run, Poller.capacity_exact true 4 .active _ s ?_ run⟩
  iterate 8 refine (Transition.along_cons rfl).mpr ⟨trivial, ?_⟩
  refine ⟨?_, fun _ _ => trivial⟩
  intro task _ _ entry member _
  obtain rfl := List.mem_singleton.mp member
  rfl

/-- The same command is returned by two polls, the second time because its claim has not landed
yet. The second task ends at once; its join gives back the slots of both. -/
theorem Poller.capacity_lost : ¬ ∀ (connected : Bool) (limit : Nat) (lifecycle : NodeLifecycleState)
    (actions : List PollerAction) (s : Poller),
    Transition.exec Poller.step (.new connected limit lifecycle) actions = some s →
      CapacityExact limit s := by
  intro always
  have counted : (Transition.exec Poller.step (.new true 2 .active)
      (pollOnce approvedCleanup ++ pollOnce approvedCleanup ++
        [.taskEnded 1 .completed, .join 1])).map
      (fun s => (s.executions.activeHeavy, s.executions.unjoined false)) = some (0, 1) := by decide
  obtain ⟨s, run, slots⟩ := Option.map_eq_some_iff.mp counted
  have exact := (always true 2 .active _ s run).heavy
  obtain ⟨free, running⟩ := Prod.mk.inj slots
  rw [free, running] at exact
  cases exact

end SakalaAgent
