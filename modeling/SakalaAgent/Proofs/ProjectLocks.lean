/-
Module: SakalaAgent.Proofs.ProjectLocks
Layer: Proofs
Purpose: Commands of one project are serialized. The set of active projects is tied to the tasks
  that have not been joined, whatever the order in which they end; command ids may be offered twice,
  so the records can be fewer than the tasks, but never for a task that holds a project.
Trusted boundary: none
Main exports: ProjectLocks, Calls.activeProjects_exact
-/
import SakalaAgent.Proofs.TaskRelease

namespace SakalaAgent

open CommandExecutions

/-- The locks of the projects are those of the tasks that have not been joined. `projectOf` is the
project each command id stands for. -/
structure ProjectLocks (projectOf : Uuid → Option Uuid) (e : CommandExecutions) : Prop where
  numbered : ∀ entry ∈ e.spawned, entry.1 < e.nextTaskId
  ids : (e.spawned.map Prod.fst).Nodup
  agrees : ∀ entry ∈ e.spawned, entry.2.projectId = projectOf entry.2.commandId
  distinct : (e.spawned.filterMap fun entry => entry.2.projectId).Nodup
  locked : ∀ projectId, projectId ∈ e.activeProjects ↔
    ∃ entry ∈ e.spawned, entry.2.projectId = some projectId
  recorded : e.taskMetadata.Sublist e.spawned
  covered : ∀ entry ∈ e.spawned, entry.2.projectId.isSome → entry ∈ e.taskMetadata

/-- In a list whose images are distinct an image has one origin. -/
theorem origin_unique {α β : Type} {f : α → Option β} {items : List α}
    (distinct : (items.filterMap f).Nodup) {first second : α} {image : β} (member : first ∈ items)
    (other : second ∈ items) (from₁ : f first = some image) (from₂ : f second = some image) :
    first = second := by
  induction items with
  | nil => cases member
  | cons item items ih =>
      rcases List.mem_cons.mp member with rfl | memberRest <;>
        rcases List.mem_cons.mp other with rfl | otherRest
      · rfl
      · rw [List.filterMap_cons_some from₁, List.nodup_cons] at distinct
        exact absurd (List.mem_filterMap.mpr ⟨second, otherRest, from₂⟩) distinct.1
      · rw [List.filterMap_cons_some from₂, List.nodup_cons] at distinct
        exact absurd (List.mem_filterMap.mpr ⟨first, memberRest, from₁⟩) distinct.1
      · refine ih (distinct.sublist ?_) memberRest otherRest
        exact (List.sublist_cons_self item items).filterMap f

namespace ProjectLocks

variable {projectOf : Uuid → Option Uuid} {e e' : CommandExecutions} {id : TaskId}
  {record : TaskMetadata}

theorem recordIds (locks : ProjectLocks projectOf e) : (e.taskMetadata.map Prod.fst).Nodup :=
  locks.ids.sublist (locks.recorded.map Prod.fst)

/-- A task that is gone and whose project is free again. -/
theorem released (locks : ProjectLocks projectOf e) (member : (id, record) ∈ e.spawned)
    (others : e'.spawned = e.spawned.filter fun entry => entry.1 != id)
    (next : e'.nextTaskId = e.nextTaskId)
    (freed : ∀ projectId, projectId ∈ e'.activeProjects ↔
      projectId ∈ e.activeProjects ∧ record.projectId ≠ some projectId)
    (recorded : e'.taskMetadata.Sublist (e.taskMetadata.filter fun entry => entry.1 != id))
    (kept : ∀ entry ∈ e.taskMetadata, entry.1 ≠ id → entry ∈ e.spawned →
      entry.2.projectId.isSome → entry ∈ e'.taskMetadata) :
    ProjectLocks projectOf e' := by
  have sublist : e'.spawned.Sublist e.spawned := others ▸ List.filter_sublist
  have remains : ∀ entry, entry ∈ e'.spawned ↔ entry ∈ e.spawned ∧ entry.1 ≠ id := by
    simp [others]
  refine
    { numbered := fun entry present => next ▸ locks.numbered entry (sublist.subset present)
      ids := locks.ids.sublist (sublist.map Prod.fst)
      agrees := fun entry present => locks.agrees entry (sublist.subset present)
      distinct := locks.distinct.sublist (sublist.filterMap _)
      locked := ?_
      recorded := others ▸ recorded.trans (locks.recorded.filter _)
      covered := ?_ }
  · intro projectId
    rw [freed, locks.locked]
    constructor
    · rintro ⟨⟨entry, present, holds⟩, other⟩
      refine ⟨entry, (remains entry).mpr ⟨present, ?_⟩, holds⟩
      rintro rfl
      have same : entry.2 = record := value_unique locks.ids present member
      exact other (same ▸ holds)
    · rintro ⟨entry, present, holds⟩
      obtain ⟨before, ne⟩ := (remains entry).mp present
      refine ⟨⟨entry, before, holds⟩, fun also => ne ?_⟩
      rw [origin_unique locks.distinct before member holds also]
  · intro entry present held
    obtain ⟨before, ne⟩ := (remains entry).mp present
    exact kept entry (locks.covered entry before held) ne before held

/-- The release by command id frees exactly the project of the joined task. -/
theorem releaseTask_released (locks : ProjectLocks projectOf e) (record : TaskMetadata)
    (member : (id, record) ∈ e.spawned) {joined : CommandExecutions}
    (others : joined.spawned = e.spawned.filter fun entry => entry.1 != id)
    (next : joined.nextTaskId = e.nextTaskId) (records : joined.taskMetadata = e.taskMetadata)
    (projects : ∀ projectId, record.projectId ≠ some projectId →
      (projectId ∈ joined.activeProjects ↔ projectId ∈ e.activeProjects)) :
    ProjectLocks projectOf (joined.releaseTask record.commandId) := by
  have recordIds : (joined.taskMetadata.map Prod.fst).Nodup := records ▸ locks.recordIds
  have same := releaseTask_sameTasks joined record.commandId
  -- every record under this command id stands for the same project
  have sameProject : ∀ entry ∈ e.taskMetadata, entry.2.commandId = record.commandId →
      entry.2.projectId = record.projectId := by
    intro entry present command
    rw [locks.agrees entry (locks.recorded.subset present), command]
    exact (locks.agrees _ member).symm
  refine locks.released member (same.spawned.trans others) (same.nextTaskId.trans next) ?_ ?_ ?_
  · intro projectId
    rw [releaseTask_eq recordIds]
    simp only [mem_releaseAll_activeProjects, recordsOf, records]
    constructor
    · rintro ⟨active, free⟩
      have other : record.projectId ≠ some projectId := by
        intro held
        have present := locks.covered _ member (by simp [held])
        refine free record (List.mem_map.mpr ⟨_, List.mem_filter.mpr ⟨present, ?_⟩, rfl⟩) held
        simp
      exact ⟨(projects projectId other).mp active, other⟩
    · rintro ⟨active, other⟩
      refine ⟨(projects projectId other).mpr active, fun found listed => ?_⟩
      obtain ⟨entry, kept, rfl⟩ := List.mem_map.mp listed
      obtain ⟨present, command⟩ := List.mem_filter.mp kept
      rw [sameProject entry present (by simpa using command)]
      exact other
  · rw [releaseTask_eq recordIds, records]
    have split : (e.taskMetadata.filter fun entry =>
        !decide (entry.2.commandId = record.commandId)) =
        (e.taskMetadata.filter fun entry => entry.1 != id).filter fun entry =>
          !decide (entry.2.commandId = record.commandId) := by
      rw [List.filter_filter]
      refine List.filter_congr fun entry present => ?_
      by_cases numbered : entry.1 = id
      · subst numbered
        have equal : entry.2 = record :=
          value_unique locks.ids (locks.recorded.subset present) member
        simp [equal]
      · simp [numbered]
    rw [split]
    exact List.filter_sublist
  · intro entry present ne before held
    rw [releaseTask_eq recordIds, records]
    refine List.mem_filter.mpr ⟨present, ?_⟩
    have command : entry.2.commandId ≠ record.commandId := by
      intro command
      obtain ⟨projectId, holds⟩ := Option.isSome_iff_exists.mp held
      have also : record.projectId = some projectId := sameProject entry present command ▸ holds
      exact ne (by rw [origin_unique locks.distinct before member holds also])
    simpa using command

/-- The release by task id frees exactly the project of the joined task. -/
theorem releaseId_released (locks : ProjectLocks projectOf e)
    (member : (id, record) ∈ e.spawned) {joined : CommandExecutions}
    (others : joined.spawned = e.spawned.filter fun entry => entry.1 != id)
    (next : joined.nextTaskId = e.nextTaskId) (records : joined.taskMetadata = e.taskMetadata)
    (projects : joined.activeProjects = e.activeProjects) :
    ProjectLocks projectOf (joined.releaseId id) := by
  have same := releaseId_sameTasks joined id
  have shape : (∀ projectId, projectId ∈ (joined.releaseId id).activeProjects ↔
      projectId ∈ e.activeProjects ∧ record.projectId ≠ some projectId) ∧
      (joined.releaseId id).taskMetadata = e.taskMetadata.filter fun entry => entry.1 != id := by
    by_cases present : (id, record) ∈ e.taskMetadata
    · rw [releaseId_of_mem (records ▸ locks.recordIds) (records ▸ present), ← records, ← projects]
      simp [releaseMetadata]
    · have absent : ∀ entry ∈ e.taskMetadata, entry.1 ≠ id := by
        rintro entry listed rfl
        have equal : entry.2 = record :=
          value_unique locks.ids (locks.recorded.subset listed) member
        exact present (equal ▸ listed)
      have missing : joined.taskMetadata.lookup id = none := by
        rw [records, List.lookup_eq_none_iff]
        exact fun entry listed => by simpa using (absent entry listed).symm
      have free : record.projectId = none := by
        by_contra held
        exact present (locks.covered _ member (Option.isSome_iff_ne_none.mpr held))
      rw [releaseId, missing]
      refine ⟨by simp [projects, free], ?_⟩
      rw [records]
      exact (List.filter_eq_self.mpr fun entry listed => by simpa using absent entry listed).symm
  refine locks.released member (same.spawned.trans others) (same.nextTaskId.trans next) shape.1 ?_ ?_
  · rw [shape.2]
  · intro entry listed ne _ _
    rw [shape.2]
    exact List.mem_filter.mpr ⟨listed, by simpa using ne⟩

/-! ### The steps -/

theorem reapJoined {task : CommandTask} (locks : ProjectLocks projectOf e)
    (joined : e.join id = some (task, e')) : ProjectLocks projectOf (e'.reapJoined id task) := by
  obtain ⟨member, others⟩ := join_spawned joined
  obtain ⟨_, _, rfl⟩ := join_eq_some.mp joined
  unfold CommandExecutions.reapJoined
  split
  · refine locks.releaseTask_released task.metadata member others rfl rfl ?_
    intro projectId other
    have free : task.projectId ≠ some projectId := other
    simp [free]
  · exact locks.releaseId_released member others rfl rfl rfl

theorem waitJoined {task : CommandTask} (locks : ProjectLocks projectOf e)
    (joined : e.join id = some (task, e')) : ProjectLocks projectOf (e'.waitJoined id task) := by
  obtain ⟨member, others⟩ := join_spawned joined
  obtain ⟨_, _, rfl⟩ := join_eq_some.mp joined
  unfold CommandExecutions.waitJoined
  split
  · exact locks.releaseTask_released task.metadata member others rfl rfl
      fun _ _ => Iff.rfl
  · exact locks.releaseId_released member others rfl rfl rfl

/-- Steps that leave the records of the tasks and the locks as they are. -/
theorem of_same (locks : ProjectLocks projectOf e) (spawned : e'.spawned = e.spawned)
    (next : e'.nextTaskId = e.nextTaskId) (projects : e'.activeProjects = e.activeProjects)
    (records : e'.taskMetadata = e.taskMetadata) : ProjectLocks projectOf e' where
  numbered := by rw [spawned, next]; exact locks.numbered
  ids := by rw [spawned]; exact locks.ids
  agrees := by rw [spawned]; exact locks.agrees
  distinct := by rw [spawned]; exact locks.distinct
  locked := by rw [spawned, projects]; exact locks.locked
  recorded := by rw [spawned, records]; exact locks.recorded
  covered := by rw [spawned, records]; exact locks.covered

theorem started {command : AgentCommand} {cancellation : CancellationToken}
    (locks : ProjectLocks projectOf e) (offered : command.projectId = projectOf command.id)
    (accepted : e.refuses command = false) :
    ProjectLocks projectOf (e.started command cancellation) := by
  have idle : ∀ projectId, command.projectId = some projectId → projectId ∉ e.activeProjects := by
    intro projectId held
    simp only [refuses, held, Bool.or_eq_false_iff, Option.any_some] at accepted
    simpa using accepted.2
  have fresh : ∀ entry ∈ e.spawned, entry.1 ≠ e.nextTaskId :=
    fun entry present => Nat.ne_of_lt (locks.numbered entry present)
  refine
    { numbered := ?_
      ids := ?_
      agrees := ?_
      distinct := ?_
      locked := ?_
      recorded := ?_
      covered := ?_ }
  all_goals rw [started_spawned]
  · intro entry member
    rcases List.mem_append.mp member with old | new
    · exact Nat.lt_succ_of_lt (locks.numbered entry old)
    · obtain rfl := List.mem_singleton.mp new
      exact Nat.lt_succ_self _
  · rw [List.map_append]
    refine List.Nodup.append locks.ids (List.nodup_singleton _) ?_
    intro taken old new
    obtain ⟨entry, present, rfl⟩ := List.mem_map.mp old
    exact fresh entry present (by simpa using new)
  · intro entry member
    rcases List.mem_append.mp member with old | new
    · exact locks.agrees entry old
    · obtain rfl := List.mem_singleton.mp new
      exact offered
  · rw [List.filterMap_append]
    refine List.Nodup.append locks.distinct ?_ ?_
    · cases held : command.projectId <;> simp [spawnedFor, CommandTask.metadata, held]
    · intro projectId old new
      have held : command.projectId = some projectId := by
        cases held : command.projectId with
        | none => simp [spawnedFor, CommandTask.metadata, held] at new
        | some other => simpa [spawnedFor, CommandTask.metadata, held, eq_comm] using new
      obtain ⟨entry, present, holds⟩ := List.mem_filterMap.mp old
      exact idle projectId held ((locks.locked projectId).mpr ⟨entry, present, holds⟩)
  · intro projectId
    simp [CommandExecutions.started, spawnedFor, CommandTask.metadata, locks.locked, or_and_right,
      exists_or]
  · exact locks.recorded.append (List.Sublist.refl _)
  · intro entry member held
    rcases List.mem_append.mp member with old | new
    · exact List.mem_append.mpr (Or.inl (locks.covered entry old held))
    · exact List.mem_append.mpr (Or.inr new)

theorem tryStart {command : AgentCommand} {cancellation : CancellationToken}
    (locks : ProjectLocks projectOf e) (offered : command.projectId = projectOf command.id) :
    ProjectLocks projectOf (e.tryStart command cancellation).1 := by
  unfold CommandExecutions.tryStart
  split
  · exact locks
  · rename_i accepted
    exact locks.started offered (by simpa using accepted)

theorem new (projectOf : Uuid → Option Uuid) (limit : Nat) (metrics : SchedulerMetrics) :
    ProjectLocks projectOf (.new limit metrics) := by
  constructor <;> simp [CommandExecutions.new, spawned]

end ProjectLocks

/-! ### Runs -/

/-- A command id always carries the same project id. -/
def OffersProject (projectOf : Uuid → Option Uuid) : ExecutionsAction → Prop
  | .tryStart command _ => command.projectId = projectOf command.id
  | _ => True

theorem Calls.step_locks {projectOf : Uuid → Option Uuid} {s s' : Calls} {action : ExecutionsAction}
    (locks : ProjectLocks projectOf s.executions) (offered : OffersProject projectOf action)
    (stepped : s.step action = some s') : ProjectLocks projectOf s'.executions := by
  cases action with
  | tryStart command cancellation =>
      simp only [step] at stepped
      split at stepped
      · obtain rfl := Option.some.inj stepped
        exact locks.tryStart offered
      · cases stepped
  | reapCompleted | waitForTasks =>
      simp only [step] at stepped
      split at stepped
      · obtain rfl := Option.some.inj stepped
        exact locks
      · cases stepped
  | cancelAndWait =>
      simp only [step] at stepped
      split at stepped
      · obtain rfl := Option.some.inj stepped
        exact locks.of_same rfl rfl rfl rfl
      · cases stepped
  | join id =>
      simp only [step] at stepped
      split at stepped
      · cases stepped
      · rename_i task executions joined
        split at stepped
        · cases stepped
        · obtain rfl := Option.some.inj stepped
          exact locks.reapJoined joined
        · obtain rfl := Option.some.inj stepped
          exact locks.waitJoined joined
  | graceElapsed =>
      simp only [step] at stepped
      split at stepped
      · obtain rfl := Option.some.inj stepped
        exact locks.of_same (abortAll_spawned _) rfl rfl rfl
      · cases stepped
  | finished =>
      simp only [step] at stepped
      repeat' split at stepped
      all_goals cases stepped
      all_goals exact locks
  | taskEnded id outcome =>
      obtain ⟨executions, ended, rfl⟩ := Option.map_eq_some_iff.mp stepped
      obtain ⟨spawned, rest⟩ := finish_spawned ended
      refine locks.of_same spawned ?_ ?_ ?_ <;> rw [← rest]

/-- A deployment of the project that goes by the same number. -/
def deployOf (number : Nat) : AgentCommand where
  id := .ofNat number
  commandType := .deployProject
  status := .pending
  projectId := some (.ofNat number)
  deploymentId := some (.ofNat number)
  payload := .null

/-- After any calls, with tasks ending in any way and order, the active projects are those of the
tasks that have not been joined, and these belong to different projects. -/
theorem Calls.activeProjects_exact (projectOf : Uuid → Option Uuid) (limit : Nat)
    (metrics : SchedulerMetrics) (actions : List ExecutionsAction) (s : Calls)
    (offers : ∀ action ∈ actions, OffersProject projectOf action)
    (run : Transition.exec Calls.step (.new limit metrics) actions = some s) :
    (∀ projectId, projectId ∈ s.executions.activeProjects ↔
      ∃ entry ∈ s.executions.tasks, entry.2.projectId = some projectId) ∧
    (s.executions.tasks.filterMap fun entry => entry.2.projectId).Nodup := by
  have locks : ProjectLocks projectOf s.executions :=
    Transition.exec_invariant_along (fun _ action => OffersProject projectOf action)
      (fun s => ProjectLocks projectOf s.executions)
      (fun _ _ _ locks offered stepped => Calls.step_locks locks offered stepped)
      (ProjectLocks.new projectOf limit metrics) (Transition.along_of_forall offers) run
  refine ⟨fun projectId => ?_, ?_⟩
  · rw [locks.locked]
    simp [spawned, CommandTask.metadata]
  · have distinct := locks.distinct
    rwa [spawned, List.filterMap_map] at distinct

/-- A deployment that is offered again while it runs, and once its task, which panicked, has been
joined. -/
def offeredAgain : List ExecutionsAction :=
  [.tryStart (deployOf 1) 0, .tryStart (deployOf 1) 1, .taskEnded 0 .panicked, .reapCompleted,
    .join 0, .finished, .tryStart (deployOf 1) 2]

theorem Calls.activeProjects_exact_again : ∃ s,
    Transition.exec Calls.step (.new 2 {}) offeredAgain = some s ∧
    (∀ projectId, projectId ∈ s.executions.activeProjects ↔
      ∃ entry ∈ s.executions.tasks, entry.2.projectId = some projectId) ∧
    (s.executions.tasks.filterMap fun entry => entry.2.projectId).Nodup := by
  have possible : (Transition.exec Calls.step (.new 2 {}) offeredAgain).isSome := by decide
  obtain ⟨s, run⟩ := Option.isSome_iff_exists.mp possible
  refine ⟨s, run, Calls.activeProjects_exact (fun id => some id) 2 {} _ s ?_ run⟩
  simp [OffersProject, deployOf, offeredAgain]

end SakalaAgent
