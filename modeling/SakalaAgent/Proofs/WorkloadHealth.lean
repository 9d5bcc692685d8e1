/-
Module: SakalaAgent.Proofs.WorkloadHealth
Layer: Proofs
Purpose: How the heartbeat and the health check of the runtime sort the same workloads. Both read the
  status Docker prints; they agree on a list of workloads unless a status says `starting` for another
  reason than a health check, as that of a container which is restarted again and again does.
Trusted boundary: none
Main exports: WorkloadStatistics.Agrees, heartbeat_agrees_exact, restarting_counts_as_starting
-/
import SakalaAgent.Core.Heartbeat.Worker
import SakalaAgent.Runtime.Containers

namespace SakalaAgent

/-! ### Parts of a text -/

theorem contains_iff {text part : Text} : Text.contains text part = true ↔ part <:+: text := by
  induction text with
  | nil => simp [Text.contains]
  | cons character rest ih =>
      simp only [Text.contains, Bool.or_eq_true, ih, Text.startsWith, List.isPrefixOf_iff_prefix,
        List.infix_cons_iff]

/-- What contains a text contains every part of it. -/
theorem contains_part {text whole part : Text} (inner : part <:+: whole)
    (contained : Text.contains text whole = true) : Text.contains text part = true :=
  contains_iff.mpr (inner.trans (contains_iff.mp contained))

/-! ### The two classifications -/

/-- The text that says that a health check has not come to a result. -/
def stillStarting : String := "Docker health check is still starting"

/-- The health check of the runtime says that the workload is still starting. -/
def RuntimeHealthSnapshot.isStarting (snapshot : RuntimeHealthSnapshot) : Bool :=
  !snapshot.ready && snapshot.reason = some stillStarting

/-- The heartbeat sorts the snapshots as the health check of the runtime does. -/
structure WorkloadStatistics.Agrees (statistics : WorkloadStatistics)
    (snapshots : List RuntimeHealthSnapshot) : Prop where
  starting : statistics.starting = some (snapshots.countP fun snapshot => snapshot.isStarting)
  details : statistics.unhealthyDetails =
    snapshots.filter fun snapshot => !snapshot.ready && !snapshot.isStarting
  unhealthy : statistics.unhealthy = some statistics.unhealthyDetails.length
  total : statistics.starting.bind (fun starting => statistics.unhealthy.map fun unhealthy =>
    starting + unhealthy + snapshots.countP fun snapshot => snapshot.ready) =
      some snapshots.length

/-- The status says `starting` somewhere. -/
def SaysStarting (status : Text) : Prop :=
  Text.contains (Text.lowerAscii status) "starting".toList = true

/-- The status is that of a health check without a result. -/
def AwaitsHealth (status : Text) : Prop :=
  Text.contains (Text.lowerAscii status) "health: starting".toList = true ∧
    Text.contains (Text.lowerAscii status) "unhealthy".toList = false

instance (status : Text) : Decidable (SaysStarting status) :=
  inferInstanceAs (Decidable (_ = true))

instance (status : Text) : Decidable (AwaitsHealth status) :=
  inferInstanceAs (Decidable (_ ∧ _))

theorem AwaitsHealth.saysStarting {status : Text} (awaits : AwaitsHealth status) :
    SaysStarting status := by
  have inner : "starting".toList <:+: "health: starting".toList :=
    ⟨"health: ".toList, [], by decide⟩
  exact contains_part inner awaits.1

theorem mentionsStarting_iff (workload : RuntimeWorkload) :
    mentionsStarting (snapshotOf workload) = true ↔ SaysStarting workload.status :=
  Iff.rfl

/-- The reason of a container that does not run is not that of a health check. -/
theorem notRunning_ne_stillStarting (status : String) :
    s!"container is not running: {status}" ≠ stillStarting := by
  intro same
  have first := congrArg String.toList same
  have running : (toString "container is not running: ").toList =
      'c' :: "ontainer is not running: ".toList := by decide
  have still : stillStarting.toList = 'D' :: "ocker health check is still starting".toList := by
    decide
  rw [String.toList_append, running, still, List.cons_append] at first
  exact absurd (List.cons.inj first).1 (by decide)

theorem unhealthy_ne_stillStarting : "Docker health status is unhealthy" ≠ stillStarting := by
  decide

/-- What the health check says of each kind of status. -/
theorem healthState_cases (status : Text) :
    (AwaitsHealth status ∧ healthState status = (false, some stillStarting)) ∨
      (¬AwaitsHealth status ∧ (healthState status).2 ≠ some stillStarting) := by
  unfold healthState AwaitsHealth
  dsimp only
  split
  · rename_i unhealthy
    right
    constructor
    · intro awaits
      exact Bool.noConfusion (unhealthy.symm.trans awaits.2)
    · intro same
      exact unhealthy_ne_stillStarting (Option.some.inj same)
  · rename_i healthy
    split
    · rename_i awaits
      left
      exact ⟨⟨awaits, Bool.eq_false_iff.mpr healthy⟩, rfl⟩
    · rename_i settled
      right
      constructor
      · exact fun awaits => settled awaits.1
      · split
        · intro same
          cases same
        · intro same
          exact notRunning_ne_stillStarting _ (Option.some.inj same)

theorem isStarting_iff (workload : RuntimeWorkload) :
    (snapshotOf workload).isStarting = true ↔ AwaitsHealth workload.status := by
  unfold RuntimeHealthSnapshot.isStarting snapshotOf
  rcases healthState_cases workload.status with ⟨awaits, state⟩ | ⟨settled, reason⟩
  · simp [awaits, state]
  · simp [settled, reason]

/-- A workload that is starting is not ready. -/
theorem ready_of_awaits {workload : RuntimeWorkload} (awaits : AwaitsHealth workload.status) :
    (snapshotOf workload).ready = false := by
  rcases healthState_cases workload.status with ⟨_, state⟩ | ⟨settled, _⟩
  · exact congrArg Prod.fst state
  · exact absurd awaits settled

/-! ### Counting -/

/-- A count that has fewer reasons is the same only if each reason of the other is one of its. -/
theorem countP_eq_iff {α : Type} {few many : α → Bool} {items : List α}
    (weaker : ∀ item ∈ items, few item = true → many item = true) :
    items.countP many = items.countP few ↔
      ∀ item ∈ items, many item = true → few item = true := by
  induction items with
  | nil => simp
  | cons item items ih =>
      have rest : ∀ other ∈ items, few other = true → many other = true :=
        fun other member => weaker other (List.mem_cons_of_mem _ member)
      have most : items.countP few ≤ items.countP many := List.countP_mono_left rest
      have first := weaker item List.mem_cons_self
      rw [List.forall_mem_cons, ← ih rest, List.countP_cons, List.countP_cons]
      cases isFew : few item with
      | true => simp [first isFew]
      | false =>
          cases isMany : many item with
          | true =>
              simp
              omega
          | false => simp

/-- Every snapshot is starting, ready, or neither. -/
theorem countP_partition {snapshots : List RuntimeHealthSnapshot}
    {starting : RuntimeHealthSnapshot → Bool}
    (waits : ∀ snapshot ∈ snapshots, starting snapshot = true → snapshot.ready = false) :
    snapshots.countP starting +
        (snapshots.filter fun snapshot => !snapshot.ready && !starting snapshot).length +
      snapshots.countP (fun snapshot => snapshot.ready) = snapshots.length := by
  induction snapshots with
  | nil => rfl
  | cons snapshot snapshots ih =>
      have rest := ih fun other member => waits other (List.mem_cons_of_mem _ member)
      have first := waits snapshot List.mem_cons_self
      rw [List.countP_cons, List.countP_cons, List.filter_cons, List.length_cons]
      cases isStarting : starting snapshot with
      | true =>
          simp only [first isStarting]
          simp
          omega
      | false =>
          cases isReady : snapshot.ready with
          | true =>
              simp
              omega
          | false =>
              simp
              omega

/-! ### Agreement -/

/-- The heartbeat and the health check sort a list of workloads alike exactly when every status that
says `starting` is that of a health check without a result. -/
theorem heartbeat_agrees_exact (capacity : Option RuntimeCapacity)
    (workloads : List RuntimeWorkload) :
    (workloadStatistics capacity (some (workloads.map snapshotOf))).Agrees
        (workloads.map snapshotOf) ↔
      ∀ workload ∈ workloads, SaysStarting workload.status → AwaitsHealth workload.status := by
  have weaker : ∀ snapshot ∈ workloads.map snapshotOf, snapshot.isStarting = true →
      mentionsStarting snapshot = true := by
    intro snapshot member starting
    obtain ⟨workload, _, rfl⟩ := List.mem_map.mp member
    exact ((isStarting_iff workload).mp starting).saysStarting
  have same := countP_eq_iff weaker
  have statuses : (∀ snapshot ∈ workloads.map snapshotOf, mentionsStarting snapshot = true →
      snapshot.isStarting = true) ↔
      ∀ workload ∈ workloads, SaysStarting workload.status → AwaitsHealth workload.status := by
    rw [List.forall_mem_map]
    exact forall₂_congr fun workload _ =>
      imp_congr (mentionsStarting_iff workload) (isStarting_iff workload)
  rw [← statuses]
  constructor
  · intro agrees
    exact same.mp (Option.some.inj agrees.starting)
  · intro known
    have alike : ∀ snapshot ∈ workloads.map snapshotOf,
        mentionsStarting snapshot = snapshot.isStarting := by
      intro snapshot member
      apply Bool.eq_iff_iff.mpr
      exact ⟨known snapshot member, weaker snapshot member⟩
    have details : ((workloads.map snapshotOf).filter fun snapshot =>
        !snapshot.ready && !mentionsStarting snapshot) =
          (workloads.map snapshotOf).filter fun snapshot =>
            !snapshot.ready && !snapshot.isStarting := by
      apply List.filter_congr
      intro snapshot member
      rw [alike snapshot member]
    constructor
    · exact congrArg some (same.mpr known)
    · exact details
    · rfl
    · apply congrArg some
      apply countP_partition
      intro snapshot member mentions
      obtain ⟨workload, _, rfl⟩ := List.mem_map.mp member
      exact ready_of_awaits ((isStarting_iff workload).mp (known _ member mentions))

/-- A container in a restart loop. -/
def restartingWorkload : RuntimeWorkload where
  containerId := "4c01db0b339c".toList
  projectId := Uuid.ofNat 1
  deploymentId := Uuid.ofNat 2
  status := "Restarting (1) 3 seconds ago".toList

/-- The heartbeat counts it as starting, and the health check says that it does not run. -/
theorem restarting_counts_as_starting :
    ¬(workloadStatistics none (some [snapshotOf restartingWorkload])).Agrees
      [snapshotOf restartingWorkload] := by
  intro agrees
  have counted : (workloadStatistics none (some [snapshotOf restartingWorkload])).starting ≠
      some ([snapshotOf restartingWorkload].countP fun snapshot => snapshot.isStarting) := by
    decide +kernel
  exact counted agrees.starting

end SakalaAgent
