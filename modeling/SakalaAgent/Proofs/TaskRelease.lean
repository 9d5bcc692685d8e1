/-
Module: SakalaAgent.Proofs.TaskRelease
Layer: Proofs
Purpose: What the methods of the task set do to its collections: one specification for each method,
  which the invariants are derived from.
Trusted boundary: none
Main exports: CommandExecutions.releaseTask_eq, CommandExecutions.spawned,
  CommandExecutions.join_spawned, CommandExecutions.finish_spawned
-/
import SakalaAgent.Core.Scheduler.CommandExecutions

namespace SakalaAgent

/-! ### Numbered entries -/

section Numbered

variable {α : Type} {entries : List (TaskId × α)} {id : TaskId} {value : α}

theorem mem_of_lookup (found : entries.lookup id = some value) : (id, value) ∈ entries := by
  obtain ⟨before, after, split, _⟩ := List.lookup_eq_some_iff.mp found
  simp [split]

theorem lookup_of_mem (ids : (entries.map Prod.fst).Nodup) (member : (id, value) ∈ entries) :
    entries.lookup id = some value := by
  induction entries with
  | nil => cases member
  | cons entry rest ih =>
      obtain ⟨other, otherValue⟩ := entry
      simp only [List.map_cons, List.nodup_cons] at ids
      rcases List.mem_cons.mp member with first | later
      · obtain ⟨rfl, rfl⟩ := Prod.mk.inj first
        exact List.lookup_cons_self
      · have ne : id ≠ other := by
          rintro rfl
          exact ids.1 (List.mem_map.mpr ⟨_, later, rfl⟩)
        rw [List.lookup_cons, beq_false_of_ne ne]
        exact ih ids.2 later

theorem value_unique (ids : (entries.map Prod.fst).Nodup) {other : α}
    (member : (id, value) ∈ entries) (again : (id, other) ∈ entries) : value = other := by
  have found := lookup_of_mem ids member
  rw [lookup_of_mem ids again] at found
  exact (Option.some.inj found).symm

/-- With distinct numbers, selecting entries by number is selecting them by what selected the
numbers. -/
theorem not_mem_selected (ids : (entries.map Prod.fst).Nodup) (selected : TaskId × α → Bool) :
    entries.filter (fun entry => decide (entry.1 ∉ (entries.filter selected).map Prod.fst)) =
      entries.filter fun entry => !selected entry := by
  refine List.filter_congr fun entry member => ?_
  cases chosen : selected entry with
  | true =>
      have listed : entry.1 ∈ (entries.filter selected).map Prod.fst :=
        List.mem_map.mpr ⟨entry, List.mem_filter.mpr ⟨member, chosen⟩, rfl⟩
      simpa using listed
  | false =>
      have unlisted : entry.1 ∉ (entries.filter selected).map Prod.fst := by
        intro listed
        obtain ⟨other, kept, same⟩ := List.mem_map.mp listed
        obtain ⟨present, taken⟩ := List.mem_filter.mp kept
        have equal : other.2 = entry.2 :=
          value_unique ids (show (entry.1, other.2) ∈ entries by rw [← same]; exact present) member
        rw [Prod.ext same equal, chosen] at taken
        cases taken
      simpa using unlisted

/-- Taking one numbered entry out. -/
theorem filter_ids_nodup (ids : (entries.map Prod.fst).Nodup) (keep : TaskId × α → Bool) :
    ((entries.filter keep).map Prod.fst).Nodup :=
  ids.sublist (List.filter_sublist.map Prod.fst)

end Numbered

namespace CommandExecutions

/-! ### Releases -/

/-- The fields that say what is running, which a release does not touch. -/
structure SameTasks (e e' : CommandExecutions) : Prop where
  tasks : e'.tasks = e.tasks
  nextTaskId : e'.nextTaskId = e.nextTaskId
  heavyLimit : e'.heavyLimit = e.heavyLimit
  lightweightLimit : e'.lightweightLimit = e.lightweightLimit
  cancelledTokens : e'.cancelledTokens = e.cancelledTokens

theorem SameTasks.trans {e e' e'' : CommandExecutions} (first : SameTasks e e')
    (second : SameTasks e' e'') : SameTasks e e'' where
  tasks := second.tasks.trans first.tasks
  nextTaskId := second.nextTaskId.trans first.nextTaskId
  heavyLimit := second.heavyLimit.trans first.heavyLimit
  lightweightLimit := second.lightweightLimit.trans first.lightweightLimit
  cancelledTokens := second.cancelledTokens.trans first.cancelledTokens

/-- The releases of several records, one after the other. -/
def releaseAll (e : CommandExecutions) (records : List TaskMetadata) : CommandExecutions :=
  records.foldl releaseMetadata e

theorem mem_releaseAll_activeProjects (e : CommandExecutions) (records : List TaskMetadata)
    (projectId : Uuid) :
    projectId ∈ (e.releaseAll records).activeProjects ↔
      projectId ∈ e.activeProjects ∧ ∀ record ∈ records, record.projectId ≠ some projectId := by
  induction records generalizing e with
  | nil => simp [releaseAll]
  | cons record records ih =>
      have rest := ih (e.releaseMetadata record)
      simp only [releaseAll, List.foldl_cons] at rest ⊢
      rw [rest]
      simp [releaseMetadata, and_assoc]

/-- The list of records itself is no part of what a release of a record changes. -/
theorem releaseAll_taskMetadata (e : CommandExecutions) (records : List TaskMetadata)
    (kept : List (TaskId × TaskMetadata)) :
    ({ e with taskMetadata := kept }).releaseAll records =
      { e.releaseAll records with taskMetadata := kept } := by
  induction records generalizing e with
  | nil => rfl
  | cons record records ih => exact ih (e.releaseMetadata record)

theorem releaseId_of_mem {e : CommandExecutions} {id : TaskId} {record : TaskMetadata}
    (ids : (e.taskMetadata.map Prod.fst).Nodup) (member : (id, record) ∈ e.taskMetadata) :
    e.releaseId id =
      { e.releaseMetadata record with
        taskMetadata := e.taskMetadata.filter fun entry => entry.1 != id } := by
  rw [releaseId, lookup_of_mem ids member]
  rfl

theorem foldl_releaseId {entries : List (TaskId × TaskMetadata)} {e : CommandExecutions}
    (ids : (e.taskMetadata.map Prod.fst).Nodup) (sublist : entries.Sublist e.taskMetadata) :
    (entries.map Prod.fst).foldl releaseId e =
      { e.releaseAll (entries.map Prod.snd) with
        taskMetadata := e.taskMetadata.filter fun entry =>
          decide (entry.1 ∉ entries.map Prod.fst) } := by
  induction entries generalizing e with
  | nil => simp [releaseAll]
  | cons entry entries ih =>
      obtain ⟨id, record⟩ := entry
      have member : (id, record) ∈ e.taskMetadata := sublist.subset List.mem_cons_self
      have distinct : id ∉ entries.map Prod.fst := by
        have all := ids.sublist (sublist.map Prod.fst)
        exact (List.nodup_cons.mp all).1
      have others : entries.Sublist (e.taskMetadata.filter fun entry => entry.1 != id) := by
        have kept : entries.filter (fun entry => entry.1 != id) = entries := by
          refine List.filter_eq_self.mpr fun entry member => ?_
          have listed : entry.1 ∈ entries.map Prod.fst := List.mem_map.mpr ⟨entry, member, rfl⟩
          have ne : entry.1 ≠ id := fun same => distinct (by rw [← same]; exact listed)
          simpa using ne
        have filtered := ((List.sublist_cons_self (id, record) entries).trans sublist).filter
          fun entry => entry.1 != id
        rwa [kept] at filtered
      have next : (e.releaseId id).taskMetadata =
          e.taskMetadata.filter fun entry => entry.1 != id := by
        rw [releaseId_of_mem ids member]
      rw [List.map_cons, List.foldl_cons, ih (by rw [next]; exact filter_ids_nodup ids _)
        (by rw [next]; exact others), next, releaseId_of_mem ids member, releaseAll_taskMetadata,
        List.filter_filter]
      simp [releaseAll, bne, Bool.and_comm]

/-- The records that carry a command id. -/
def recordsOf (e : CommandExecutions) (commandId : Uuid) : List TaskMetadata :=
  (e.taskMetadata.filter fun entry => entry.2.commandId = commandId).map Prod.snd

theorem releaseTask_eq {e : CommandExecutions} (ids : (e.taskMetadata.map Prod.fst).Nodup)
    (commandId : Uuid) :
    e.releaseTask commandId =
      { e.releaseAll (e.recordsOf commandId) with
        taskMetadata := e.taskMetadata.filter fun entry =>
          !decide (entry.2.commandId = commandId) } := by
  rw [releaseTask, foldl_releaseId ids List.filter_sublist, recordsOf, not_mem_selected ids]

theorem releaseId_sameTasks (e : CommandExecutions) (id : TaskId) :
    SameTasks e (e.releaseId id) := by
  unfold releaseId
  split <;> exact ⟨rfl, rfl, rfl, rfl, rfl⟩

theorem foldl_releaseId_sameTasks (ids : List TaskId) (e : CommandExecutions) :
    SameTasks e (ids.foldl releaseId e) := by
  induction ids generalizing e with
  | nil => exact ⟨rfl, rfl, rfl, rfl, rfl⟩
  | cons id ids ih => exact (releaseId_sameTasks e id).trans (ih (e.releaseId id))

theorem releaseTask_sameTasks (e : CommandExecutions) (commandId : Uuid) :
    SameTasks e (e.releaseTask commandId) :=
  foldl_releaseId_sameTasks _ e

theorem reapJoined_sameTasks (e : CommandExecutions) (id : TaskId) (task : CommandTask) :
    SameTasks e (e.reapJoined id task) := by
  unfold reapJoined
  split
  · have same := releaseTask_sameTasks { e with
      activeProjects := e.activeProjects \ task.projectId.toFinset } task.commandId
    exact ⟨same.tasks, same.nextTaskId, same.heavyLimit, same.lightweightLimit,
      same.cancelledTokens⟩
  · exact releaseId_sameTasks e id

theorem waitJoined_sameTasks (e : CommandExecutions) (id : TaskId) (task : CommandTask) :
    SameTasks e (e.waitJoined id task) := by
  unfold waitJoined
  split
  · exact releaseTask_sameTasks e task.commandId
  · exact releaseId_sameTasks e id

/-! ### Joins and ends of tasks -/

theorem join_eq_some {e e' : CommandExecutions} {id : TaskId} {task : CommandTask} :
    e.join id = some (task, e') ↔
      e.tasks.lookup id = some task ∧ task.outcome.isSome ∧
        { e with tasks := e.tasks.filter fun entry => entry.1 != id } = e' := by
  unfold join
  cases found : e.tasks.lookup id with
  | none => simp
  | some joined =>
      by_cases ended : joined.outcome.isSome
      · simp only [ended, if_true, Option.some.injEq, Prod.mk.injEq]
        constructor
        · rintro ⟨rfl, rest⟩
          exact ⟨rfl, ended, rest⟩
        · rintro ⟨rfl, _, rest⟩
          exact ⟨rfl, rest⟩
      · simp only [ended, Bool.false_eq_true, if_false, Option.some.injEq]
        constructor
        · intro impossible
          cases impossible
        · rintro ⟨rfl, isEnded, _⟩
          exact absurd isEnded ended

/-- The tasks that were spawned and not joined yet, by what was recorded of them. -/
def spawned (e : CommandExecutions) : List (TaskId × TaskMetadata) :=
  e.tasks.map fun entry => (entry.1, entry.2.metadata)

theorem mem_spawned {e : CommandExecutions} {id : TaskId} {record : TaskMetadata} :
    (id, record) ∈ e.spawned ↔ ∃ task, (id, task) ∈ e.tasks ∧ task.metadata = record := by
  constructor
  · intro member
    obtain ⟨entry, present, same⟩ := List.mem_map.mp member
    obtain ⟨rfl, rfl⟩ := Prod.mk.inj same
    exact ⟨entry.2, present, rfl⟩
  · rintro ⟨task, present, rfl⟩
    exact List.mem_map.mpr ⟨(id, task), present, rfl⟩

theorem started_spawned (e : CommandExecutions) (command : AgentCommand)
    (cancellation : CancellationToken) :
    (e.started command cancellation).spawned =
      e.spawned ++ [(e.nextTaskId, (spawnedFor command cancellation).metadata)] := by
  simp [spawned, started]

theorem join_spawned {e e' : CommandExecutions} {id : TaskId} {task : CommandTask}
    (joined : e.join id = some (task, e')) :
    (id, task.metadata) ∈ e.spawned ∧
      e'.spawned = e.spawned.filter fun entry => entry.1 != id := by
  obtain ⟨found, _, rfl⟩ := join_eq_some.mp joined
  refine ⟨mem_spawned.mpr ⟨task, mem_of_lookup found, rfl⟩, ?_⟩
  simp only [spawned, List.filter_map]
  rfl

theorem SameTasks.spawned {e e' : CommandExecutions} (same : SameTasks e e') :
    e'.spawned = e.spawned := by
  rw [CommandExecutions.spawned, same.tasks, CommandExecutions.spawned]

/-- The end of a task changes nothing that was recorded. -/
theorem finish_spawned {e e' : CommandExecutions} {id : TaskId} {outcome : TaskOutcome}
    (finished : e.finish id outcome = some e') :
    e'.spawned = e.spawned ∧ { e' with tasks := e.tasks } = e := by
  unfold finish at finished
  split at finished
  · cases finished
  · split at finished
    · obtain rfl := Option.some.inj finished
      refine ⟨?_, rfl⟩
      simp only [spawned, List.map_map]
      refine List.map_congr_left fun entry _ => ?_
      simp only [Function.comp_apply]
      split <;> rfl
    · cases finished

theorem abortAll_spawned (e : CommandExecutions) : e.abortAll.spawned = e.spawned := by
  simp only [spawned, abortAll, List.map_map]
  rfl

end CommandExecutions

end SakalaAgent
