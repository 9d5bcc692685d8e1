/-
Module: SakalaAgent.Proofs.LogFollowers
Layer: Proofs
Purpose: The log followers of a container: when an executor keeps one follower for each container,
  and how it comes to two.
Trusted boundary: none
Main exports: Followers.one_follower, Followers.two_followers
-/
import SakalaAgent.Runtime.Followers
import SakalaAgent.Transition.Runs

namespace SakalaAgent

open Transition

/-! ### Names of containers -/

theorem names_of_resolve {docker : DockerState} {reference : Text} {container : Container}
    (found : docker.resolve reference = some container) :
    container ∈ docker.containers ∧ Names reference container := by
  simp only [DockerState.resolve, Option.orElse_eq_orElse, Option.orElse_eq_or,
    Option.or_eq_some_iff] at found
  rcases found with byName | ⟨_, byId | ⟨_, byPrefix⟩⟩
  · exact ⟨List.mem_of_find?_eq_some byName, .inl (by simpa using List.find?_some byName)⟩
  · exact ⟨List.mem_of_find?_eq_some byId, .inr (.inl (by simpa using List.find?_some byId))⟩
  · exact ⟨List.mem_of_find?_eq_some byPrefix,
      .inr (.inr (by simpa using List.find?_some byPrefix))⟩

/-- A change of its state leaves a container its id and its name. -/
theorem DockerState.mem_setStatus {docker : DockerState} {id status : Text} {plain : Plain status}
    {container : Container} (member : container ∈ (docker.setStatus id status plain).containers) :
    ∃ old ∈ docker.containers, container.id = old.id ∧ container.name = old.name := by
  obtain ⟨old, present, rfl⟩ := List.mem_map.mp member
  exact ⟨old, present, by split <;> rfl, by split <;> rfl⟩

theorem names_congr {reference : Text} {container old : Container} (id : container.id = old.id)
    (name : container.name = old.name) : Names reference container ↔ Names reference old := by
  simp only [Names, id, name]

namespace Followers

/-! ### Conditions -/

/-- Every unfinished follower of a container that `reference` names was started with the same
text. -/
def SoleReference (s : Followers) (reference : Text) : Prop :=
  ∀ follower ∈ s.tasks, follower.progress ≠ .finished → ∀ container ∈ s.docker.containers,
    Names follower.reference container → Names reference container →
      follower.reference = reference

instance (s : Followers) (reference : Text) : Decidable (s.SoleReference reference) :=
  inferInstanceAs (Decidable (∀ _ ∈ _, _))

/-- The condition on the calls of `start_log_follower`; other steps are free. -/
def CallsMeet (s : Followers) : FollowersAction → Prop
  | .finalize projectId deploymentId => s.SoleReference (containerName projectId deploymentId)
  | .recover workload => s.SoleReference workload.containerId
  | .restartLogFollower workload => s.SoleReference workload.containerId
  | _ => True

instance (s : Followers) (action : FollowersAction) : Decidable (s.CallsMeet action) := by
  cases action <;> unfold CallsMeet <;> infer_instance

/-! ### The invariant -/

structure Invariant (s : Followers) : Prop where
  /-- Unfinished followers that are not the same were started with different texts, and no container
  has both as names. -/
  apart : ∀ f ∈ s.tasks, ∀ g ∈ s.tasks, f.progress ≠ .finished → g.progress ≠ .finished → f ≠ g →
    f.reference ≠ g.reference ∧
      ∀ container ∈ s.docker.containers, Names f.reference container → ¬Names g.reference container
  /-- A follower was started with a name of the container it is on. -/
  named : ∀ f ∈ s.tasks, ∀ container ∈ s.docker.containers, f.progress = .following container.id →
    Names f.reference container
  sole : ∀ f ∈ s.tasks, ∀ g ∈ s.tasks, ∀ id, f.progress = .following id →
    g.progress = .following id → f = g
  registered : s.isShutDown = false → ∀ f ∈ s.tasks, f.progress ≠ .finished →
    (f.reference, f.task) ∈ s.register
  fresh : ∀ f ∈ s.tasks, f.task < s.nextTask
  distinct : ∀ f ∈ s.tasks, ∀ g ∈ s.tasks, f.task = g.task → f = g

theorem invariant_new (docker : DockerState) : Invariant (new docker) := by
  constructor <;> simp [new]

section Preservation

variable {s : Followers}

/-- Docker changes that bring no container. -/
theorem Invariant.withDocker (holds : Invariant s) {docker : DockerState}
    (old : ∀ container ∈ docker.containers, ∃ old ∈ s.docker.containers,
      container.id = old.id ∧ container.name = old.name) :
    Invariant { s with docker } where
  apart f hf g hg unfinished unfinished' different := by
    obtain ⟨texts, names⟩ := holds.apart f hf g hg unfinished unfinished' different
    refine ⟨texts, fun container member => ?_⟩
    obtain ⟨before, present, id, name⟩ := old container member
    rw [names_congr id name, names_congr id name]
    exact names before present
  named f hf container member follows := by
    obtain ⟨before, present, id, name⟩ := old container member
    rw [names_congr id name]
    exact holds.named f hf before present (id ▸ follows)
  sole := holds.sole
  registered := holds.registered
  fresh := holds.fresh
  distinct := holds.distinct

/-- A new container is on nobody's lips: only its name can be one a follower was started with. -/
theorem name_of_fresh {container : Container} (fresh : s.isFreshId container.id = true)
    {f : Follower} (hf : f ∈ s.tasks) :
    f.progress ≠ .following container.id ∧
      (Names f.reference container → f.reference = container.name) := by
  have met := List.all_eq_true.mp fresh f hf
  simp only [Bool.and_eq_true, Bool.or_eq_true, decide_eq_true_eq, Bool.not_eq_true',
    List.isEmpty_iff] at met
  obtain ⟨⟨notId, notOn⟩, notPrefix⟩ := met
  refine ⟨notOn, ?_⟩
  rintro (byName | byId | ⟨nonempty, byPrefix⟩)
  · exact byName.symm
  · exact absurd byId.symm notId
  · rcases notPrefix with empty | notPrefix
    · exact absurd empty nonempty
    · rw [byPrefix] at notPrefix
      contradiction

theorem Invariant.create (holds : Invariant s) {container : Container}
    (freshId : container.id ∉ s.docker.containers.map Container.id)
    (freshName : container.name ∉ s.docker.containers.map Container.name)
    (fresh : s.isFreshId container.id = true) :
    Invariant { s with docker := s.docker.add container freshId freshName } where
  apart f hf g hg unfinished unfinished' different := by
    obtain ⟨texts, names⟩ := holds.apart f hf g hg unfinished unfinished' different
    refine ⟨texts, fun other member => ?_⟩
    rcases List.mem_cons.mp member with rfl | present
    · intro first second
      apply texts
      rw [(name_of_fresh fresh hf).2 first, (name_of_fresh fresh hg).2 second]
    · exact names other present
  named f hf other member follows := by
    rcases List.mem_cons.mp member with rfl | present
    · exact absurd follows (name_of_fresh fresh hf).1
    · exact holds.named f hf other present follows
  sole := holds.sole
  registered := holds.registered
  fresh := holds.fresh
  distinct := holds.distinct

theorem isFinished_eq_false {f : Follower} (hf : f ∈ s.tasks)
    (unfinished : f.progress ≠ .finished) : s.isFinished f.task = false := by
  rw [isFinished, List.all_eq_false]
  exact ⟨f, hf, by simpa using unfinished⟩

/-- A call that finds its text in the register only drops finished followers from it. -/
theorem Invariant.retain (holds : Invariant s) :
    Invariant { s with register := s.register.filter fun entry => !s.isFinished entry.2 } where
  apart := holds.apart
  named := holds.named
  sole := holds.sole
  registered isOpen f hf unfinished := by
    have going : s.isFinished f.task = false := isFinished_eq_false hf unfinished
    exact List.mem_filter.mpr ⟨holds.registered isOpen f hf unfinished, by simp [going]⟩
  fresh := holds.fresh
  distinct := holds.distinct

theorem Invariant.startLogFollower (holds : Invariant s) {reference : Text}
    (isOpen : s.isShutDown = false) (sole : s.SoleReference reference) :
    Invariant (s.startLogFollower reference).2 := by
  have kept := holds.retain
  simp only [Followers.startLogFollower]
  split
  · exact kept
  · rename_i absent
    -- An unfinished follower with this text would still be registered under it.
    have unused : ∀ f ∈ s.tasks, f.progress ≠ .finished → f.reference ≠ reference := by
      intro f hf unfinished same
      apply absent
      rw [List.any_eq_true]
      exact ⟨(f.reference, f.task), kept.registered isOpen f hf unfinished, by simpa using same⟩
    have older : ∀ f ∈ s.tasks, f.task ≠ s.nextTask := fun f hf => (holds.fresh f hf).ne
    have nameless : ∀ f ∈ s.tasks, f.progress ≠ .finished → ∀ container ∈ s.docker.containers,
        Names f.reference container → ¬Names reference container :=
      fun f hf unfinished container present names names' =>
        unused f hf unfinished (sole f hf unfinished container present names names')
    constructor
    case apart =>
      intro f hf g hg unfinished unfinished' different
      rcases List.mem_cons.mp hf with rfl | hf <;> rcases List.mem_cons.mp hg with rfl | hg
      · exact absurd rfl different
      · exact ⟨(unused g hg unfinished').symm, fun container present names names' =>
          nameless g hg unfinished' container present names' names⟩
      · exact ⟨unused f hf unfinished, nameless f hf unfinished⟩
      · exact holds.apart f hf g hg unfinished unfinished' different
    case named =>
      intro f hf container present follows
      rcases List.mem_cons.mp hf with rfl | hf
      · cases follows
      · exact holds.named f hf container present follows
    case sole =>
      intro f hf g hg id follows follows'
      rcases List.mem_cons.mp hf with rfl | hf
      · cases follows
      · rcases List.mem_cons.mp hg with rfl | hg
        · cases follows'
        · exact holds.sole f hf g hg id follows follows'
    case registered =>
      intro isOpen f hf unfinished
      rcases List.mem_cons.mp hf with rfl | hf
      · exact List.mem_cons_self
      · exact List.mem_cons_of_mem _ (kept.registered isOpen f hf unfinished)
    case fresh =>
      intro f hf
      rcases List.mem_cons.mp hf with rfl | hf
      · exact Nat.lt_succ_self _
      · exact Nat.lt_succ_of_lt (holds.fresh f hf)
    case distinct =>
      intro f hf g hg same
      rcases List.mem_cons.mp hf with rfl | hf <;> rcases List.mem_cons.mp hg with rfl | hg
      · rfl
      · exact absurd same.symm (older g hg)
      · exact absurd same (older f hf)
      · exact holds.distinct f hf g hg same

/-! ### Progress of a task -/

theorem mem_setProgress {task : FollowerTask} {progress : FollowerProgress} {f' : Follower} :
    f' ∈ (s.setProgress task progress).tasks ↔ ∃ f ∈ s.tasks,
      (f.task = task ∧ f' = { f with progress }) ∨ (f.task ≠ task ∧ f' = f) := by
  simp only [setProgress, List.mem_map]
  refine exists_congr fun f => and_congr_right fun _ => ?_
  by_cases same : f.task = task <;> simp [same, eq_comm]

/-- A task goes on, to an end or to a container that no other follower is on. -/
theorem Invariant.setProgress (holds : Invariant s) {task : FollowerTask}
    {progress : FollowerProgress}
    (unfinished : progress ≠ .finished → ∀ f ∈ s.tasks, f.task = task → f.progress ≠ .finished)
    (named : ∀ f ∈ s.tasks, f.task = task → ∀ container ∈ s.docker.containers,
      progress = .following container.id → Names f.reference container)
    (alone : ∀ f ∈ s.tasks, ∀ id, progress = .following id → f.progress = .following id →
      f.task = task) :
    Invariant (s.setProgress task progress) where
  apart f' hf' g' hg' open' openG different := by
    rw [mem_setProgress] at hf' hg'
    obtain ⟨f, hf, ⟨isTask, rfl⟩ | ⟨notTask, rfl⟩⟩ := hf' <;>
      obtain ⟨g, hg, ⟨isTask', rfl⟩ | ⟨notTask', rfl⟩⟩ := hg'
    · exact absurd (by rw [holds.distinct f hf g hg (isTask.trans isTask'.symm)]) different
    · exact holds.apart f hf g' hg (unfinished open' f hf isTask) openG
        fun same => notTask' (same ▸ isTask)
    · exact holds.apart f' hf g hg open' (unfinished openG g hg isTask')
        fun same => notTask (same ▸ isTask')
    · exact holds.apart f' hf g' hg open' openG different
  named f' hf' container present follows := by
    obtain ⟨f, hf, ⟨isTask, rfl⟩ | ⟨_, rfl⟩⟩ := mem_setProgress.mp hf'
    · exact named f hf isTask container present follows
    · exact holds.named f' hf container present follows
  sole f' hf' g' hg' id follows follows' := by
    rw [mem_setProgress] at hf' hg'
    obtain ⟨f, hf, ⟨isTask, rfl⟩ | ⟨notTask, rfl⟩⟩ := hf' <;>
      obtain ⟨g, hg, ⟨isTask', rfl⟩ | ⟨notTask', rfl⟩⟩ := hg'
    · rw [holds.distinct f hf g hg (isTask.trans isTask'.symm)]
    · exact absurd (alone g' hg id follows follows') notTask'
    · exact absurd (alone f' hf id follows' follows) notTask
    · exact holds.sole f' hf g' hg id follows follows'
  registered isOpen f' hf' open' := by
    obtain ⟨f, hf, ⟨isTask, rfl⟩ | ⟨_, rfl⟩⟩ := mem_setProgress.mp hf'
    · exact holds.registered isOpen f hf (unfinished open' f hf isTask)
    · exact holds.registered isOpen f' hf open'
  fresh f' hf' := by
    obtain ⟨f, hf, ⟨_, rfl⟩ | ⟨_, rfl⟩⟩ := mem_setProgress.mp hf'
    · exact holds.fresh f hf
    · exact holds.fresh f' hf
  distinct f' hf' g' hg' same := by
    rw [mem_setProgress] at hf' hg'
    obtain ⟨f, hf, ⟨isTask, rfl⟩ | ⟨notTask, rfl⟩⟩ := hf' <;>
      obtain ⟨g, hg, ⟨isTask', rfl⟩ | ⟨notTask', rfl⟩⟩ := hg'
    · rw [holds.distinct f hf g hg same]
    · exact absurd (same.symm.trans isTask) notTask'
    · exact absurd (same.trans isTask') notTask
    · exact holds.distinct f' hf g' hg same

theorem Invariant.finish (holds : Invariant s) (task : FollowerTask) :
    Invariant (s.setProgress task .finished) :=
  holds.setProgress (fun open' => absurd rfl open') (fun _ _ _ _ _ follows => by cases follows)
    (fun _ _ _ follows => by cases follows)

/-- The process of a follower finds the container its text names: another follower on it would have
been started with another of its names. -/
theorem Invariant.attach (holds : Invariant s) {f : Follower} {container : Container}
    (hf : f ∈ s.tasks) (spawned : f.progress = .spawned)
    (found : s.docker.resolve f.reference = some container) :
    Invariant (s.setProgress f.task (.following container.id)) := by
  obtain ⟨present, names⟩ := names_of_resolve found
  have only : ∀ g ∈ s.tasks, g.task = f.task → g = f :=
    fun g hg same => holds.distinct g hg f hf same
  apply holds.setProgress
  case unfinished =>
    intro _ g hg same
    rw [only g hg same, spawned]
    exact FollowerProgress.noConfusion
  case named =>
    intro g hg same other member follows
    injection follows with sameId
    rw [only g hg same, ← List.inj_on_of_nodup_map s.docker.distinctIds present member sameId]
    exact names
  case alone =>
    intro g hg id follows follows'
    injection follows with sameId
    subst sameId
    by_contra different
    have unfinished : g.progress ≠ .finished := by simp [follows']
    have unfinished' : f.progress ≠ .finished := by simp [spawned]
    exact (holds.apart g hg f hf unfinished unfinished' fun same => different (same ▸ rfl)).2
      container present (holds.named g hg container present follows') names

theorem Invariant.startForWorkload (holds : Invariant s) {workload : ManagedWorkload}
    {s' : Followers} (isOpen : s.isShutDown = false) (sole : s.SoleReference workload.containerId)
    (started : s.startForWorkload workload = some s') : Invariant s' := by
  simp only [Followers.startForWorkload] at started
  split at started
  · injection started with same
    exact same ▸ holds.startLogFollower isOpen sole
  · cases started

/-- Every step whose call of `start_log_follower`, if it makes one, meets the condition. -/
theorem Invariant.step (holds : Invariant s) {action : FollowersAction} {s' : Followers}
    (met : s.CallsMeet action) (stepped : s.step action = some s') : Invariant s' := by
  cases action with
  | create container =>
      simp only [Followers.step] at stepped
      split at stepped
      · rename_i fresh
        split at stepped
        · rename_i freshId
          injection stepped with same
          exact same ▸ holds.create fresh.1 fresh.2 freshId
        · cases stepped
      · cases stepped
  | remove containerId =>
      injection stepped with same
      exact same ▸ holds.withDocker fun container member =>
        ⟨container, (List.mem_filter.mp member).1, rfl, rfl⟩
  | setStatus containerId status =>
      simp only [Followers.step] at stepped
      split at stepped
      · injection stepped with same
        exact same ▸ holds.withDocker fun container member => DockerState.mem_setStatus member
      · cases stepped
  | lookUp projectId deploymentId =>
      simp only [Followers.step] at stepped
      split at stepped <;> injection stepped with same <;> subst same
      · exact ⟨holds.apart, holds.named, holds.sole, holds.registered, holds.fresh, holds.distinct⟩
      · exact holds
  | finalize projectId deploymentId =>
      simp only [Followers.step] at stepped
      split at stepped
      · cases stepped
      · rename_i isOpen
        injection stepped with same
        exact same ▸ holds.startLogFollower (by simpa using isOpen) met
  | recover workload =>
      simp only [Followers.step] at stepped
      split at stepped
      · cases stepped
      · rename_i isOpen
        exact holds.startForWorkload (by simpa using isOpen) met stepped
  | restartLogFollower workload =>
      simp only [Followers.step] at stepped
      split at stepped
      · cases stepped
      · rename_i isOpen
        exact holds.startForWorkload (by simpa using isOpen) met stepped
  | attach task =>
      simp only [Followers.step] at stepped
      split at stepped
      · rename_i task' reference seen
        have member := List.mem_of_find?_eq_some seen
        obtain rfl : task' = task := by simpa using List.find?_some seen
        split at stepped <;> injection stepped with same <;> subst same
        · rename_i container found
          exact holds.attach member rfl found
        · exact holds.finish task'
      · cases stepped
  | finish task =>
      injection stepped with same
      exact same ▸ holds.finish task
  | shutdown =>
      injection stepped with same
      subst same
      exact ⟨holds.apart, holds.named, holds.sole, (fun isOpen => nomatch isOpen),
        holds.fresh, holds.distinct⟩

end Preservation

/-! ### Runs -/

/-- One follower for a container, in every state of a run in which no follower is started for a
container that an unfinished follower was started for under another of its names. -/
theorem one_follower (docker : DockerState) (actions : List FollowersAction) (s : Followers)
    (met : Along step CallsMeet (new docker) actions)
    (run : exec step (new docker) actions = some s) :
    ∀ f ∈ s.tasks, ∀ g ∈ s.tasks, ∀ id, f.progress = .following id → g.progress = .following id →
      f = g :=
  (exec_invariant_along CallsMeet Invariant (fun _ _ _ holds met => holds.step met)
    (invariant_new docker) met run).sole

/-! ### Two names of one container -/

def aProject : Uuid := .ofNat 1

def aDeployment : Uuid := .ofNat 2

/-- The container of a deployment that is up. -/
def aContainer : Container where
  id := "0123456789abcdef".toList
  name := containerName aProject aDeployment
  status := "Up 2 minutes".toList
  labels :=
    [managedLabel, (projectIdLabel, aProject.toText), (deploymentIdLabel, aDeployment.toText),
      (domainLabel, "app.example.test".toList), (portLabel, "3000".toList),
      (commandIdLabel, aProject.toText)]
  plainId := by decide
  plainStatus := by decide

def aWorkload : ManagedWorkload where
  containerId := "0123456789ab".toList
  status := "Up 2 minutes".toList
  projectId := aProject
  deploymentId := aDeployment
  domain := "app.example.test".toList
  port := 3000
  commandId := some aProject
  logBounds := { maxLineLength := none, maxBatchLines := none, maxTotalBytes := none }

def noContainers : DockerState where
  containers := []
  tags := []
  distinctIds := by decide
  distinctNames := by decide

/-- A deployment starts its follower, and a reconciliation restarts it while it runs. -/
def restartedWhileFollowing : List FollowersAction :=
  [.create aContainer, .finalize aProject aDeployment, .attach 0, .lookUp aProject aDeployment,
    .restartLogFollower aWorkload, .attach 1]

/-- The same after the follower has ended. -/
def restartedAfterEnd : List FollowersAction :=
  [.create aContainer, .finalize aProject aDeployment, .attach 0, .finish 0,
    .lookUp aProject aDeployment, .restartLogFollower aWorkload, .attach 1]

/-- The condition holds along a run whose follower has ended before it is restarted. -/
theorem one_follower_restarted : ∃ s,
    exec step (new noContainers) restartedAfterEnd = some s ∧
      ∀ f ∈ s.tasks, ∀ g ∈ s.tasks, ∀ id, f.progress = .following id →
        g.progress = .following id → f = g := by
  have possible : (exec step (new noContainers) restartedAfterEnd).isSome := by decide +kernel
  have met : Along step CallsMeet (new noContainers) restartedAfterEnd := by decide +kernel
  obtain ⟨s, run⟩ := Option.isSome_iff_exists.mp possible
  exact ⟨s, run, one_follower noContainers restartedAfterEnd s met run⟩

/-- A deployment's follower is registered under the name of the container, the restarted one under
its id, and both follow it. -/
theorem two_followers : ¬∀ (docker : DockerState) (actions : List FollowersAction) (s : Followers),
    exec step (new docker) actions = some s →
      ∀ f ∈ s.tasks, ∀ g ∈ s.tasks, ∀ id, f.progress = .following id →
        g.progress = .following id → f = g := by
  intro always
  have reached : (exec step (new noContainers) restartedWhileFollowing).map (fun s => s.tasks) =
      some [⟨1, aWorkload.containerId, .following aContainer.id⟩,
        ⟨0, aContainer.name, .following aContainer.id⟩] := by decide +kernel
  obtain ⟨s, run, tasks⟩ := Option.map_eq_some_iff.mp reached
  have all := always noContainers restartedWhileFollowing s run
  rw [tasks] at all
  have same := all _ List.mem_cons_self _ (List.mem_cons_of_mem _ List.mem_cons_self)
    aContainer.id rfl rfl
  exact absurd (congrArg Follower.task same) (by decide)

end Followers

end SakalaAgent
