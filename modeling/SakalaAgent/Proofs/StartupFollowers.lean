/-
Module: SakalaAgent.Proofs.StartupFollowers
Layer: Proofs
Purpose: The followers that the start of an executor asks for, in the register that answers the calls.
  A recovery names every container by its id alone, so none of them is followed twice, however the
  follower tasks go on in between.
Trusted boundary: none
Main exports: FollowersAction.AtStartup, Serves, startup_follows_once
-/
import SakalaAgent.Proofs.LogFollowers
import SakalaAgent.Proofs.StartupRecovery

namespace SakalaAgent

open Async Transition

namespace FollowersAction

/-- The text that a recovery starts a follower with. -/
def recovered : FollowersAction → Option Text
  | .recover workload => some workload.containerId
  | _ => none

/-- What goes on while an executor starts: lookups, calls of the recovery, and tasks that go on. -/
def AtStartup : FollowersAction → Prop
  | .lookUp _ _ => True
  | .recover _ => True
  | .attach _ => True
  | .finish _ => True
  | _ => False

end FollowersAction

/-- The actions make the calls of a recovery, up to some point of it, in their order. -/
structure Serves (references : List Text) (actions : List FollowersAction) : Prop where
  atStartup : ∀ action ∈ actions, action.AtStartup
  calls : actions.filterMap FollowersAction.recovered <+: references

namespace Followers

variable {docker : DockerState} {s s' : Followers}

/-! ### Containers named by their ids -/

theorem answers_of_names {reference : Text} {container : Container}
    (names : Names reference container) : container.Answers reference := by
  rcases names with name | id | ⟨_, begins⟩
  · exact .inl name
  · exact .inr (.inl id)
  · exact .inr (.inr begins)

/-- The containers stay as they are, and every follower was started with the printed id of one. -/
structure ById (docker : DockerState) (s : Followers) : Prop where
  invariant : s.Invariant
  still : s.docker = docker
  references : ∀ follower ∈ s.tasks, ∃ container ∈ docker.containers,
    follower.reference = container.shortId

theorem ById.soleReference (legible : docker.Legible) (holds : s.ById docker)
    {container : Container} (present : container ∈ docker.containers) :
    s.SoleReference container.shortId := by
  intro follower running _ other otherPresent names names'
  rw [holds.still] at otherPresent
  obtain ⟨own, ownPresent, same⟩ := holds.references follower running
  have isOwn : other = own :=
    (legible own ownPresent).2.2.2 other otherPresent (answers_of_names (same ▸ names))
  have isThis : other = container :=
    (legible container present).2.2.2 other otherPresent (answers_of_names names')
  rw [same, ← isOwn, isThis]

theorem byId_new (docker : DockerState) : (new docker).ById docker where
  invariant := invariant_new docker
  still := rfl
  references _ member := by cases member

/-- A call of the register leaves the containers alone, and adds no task but one with its text. -/
theorem mem_startLogFollower {reference : Text} {follower : Follower}
    (member : follower ∈ (s.startLogFollower reference).2.tasks) :
    follower ∈ s.tasks ∨ follower.reference = reference := by
  simp only [startLogFollower] at member
  split at member
  · exact .inl member
  · rcases List.mem_cons.mp member with rfl | old
    · exact .inr rfl
    · exact .inl old

theorem startLogFollower_docker (s : Followers) (reference : Text) :
    (s.startLogFollower reference).2.docker = s.docker := by
  simp only [startLogFollower]
  split <;> rfl

theorem startLogFollower_isShutDown (s : Followers) (reference : Text) :
    (s.startLogFollower reference).2.isShutDown = s.isShutDown := by
  simp only [startLogFollower]
  split <;> rfl

theorem ById.setProgress_references (holds : s.ById docker) (task : FollowerTask)
    (progress : FollowerProgress) : ∀ follower ∈ (s.setProgress task progress).tasks,
      ∃ container ∈ docker.containers, follower.reference = container.shortId := by
  intro follower member
  obtain ⟨old, present, ⟨_, rfl⟩ | ⟨_, rfl⟩⟩ := mem_setProgress.mp member
  · exact holds.references old present
  · exact holds.references _ present

/-- One action while an executor starts. -/
theorem ById.step (legible : docker.Legible) (holds : s.ById docker) {action : FollowersAction}
    (atStartup : action.AtStartup)
    (called : ∀ reference, action.recovered = some reference →
      ∃ container ∈ docker.containers, reference = container.shortId)
    (stepped : s.step action = some s') : s'.ById docker := by
  have met : s.CallsMeet action := by
    cases action with
    | recover workload =>
        obtain ⟨container, present, same⟩ := called _ rfl
        have sole := holds.soleReference legible present
        rw [← same] at sole
        exact sole
    | lookUp | attach | finish => trivial
    | _ => exact atStartup.elim
  have kept := holds.invariant.step met stepped
  cases action with
  | lookUp projectId deploymentId =>
      simp only [Followers.step] at stepped
      split at stepped
      · injection stepped with same
        subst same
        exact ⟨kept, holds.still, holds.references⟩
      · injection stepped with same
        subst same
        exact holds
  | recover workload =>
      simp only [Followers.step, startForWorkload] at stepped
      split at stepped
      · cases stepped
      · split at stepped
        · injection stepped with same
          subst same
          refine ⟨kept, (startLogFollower_docker s _).trans holds.still, fun follower member => ?_⟩
          rcases mem_startLogFollower member with old | same
          · exact holds.references follower old
          · obtain ⟨container, present, named⟩ := called _ rfl
            exact ⟨container, present, same.trans named⟩
        · cases stepped
  | attach task =>
      simp only [Followers.step] at stepped
      split at stepped
      · split at stepped
        · injection stepped with same
          subst same
          exact ⟨kept, holds.still, holds.setProgress_references _ _⟩
        · injection stepped with same
          subst same
          exact ⟨kept, holds.still, holds.setProgress_references _ _⟩
      · cases stepped
  | finish task =>
      injection stepped with same
      subst same
      exact ⟨kept, holds.still, holds.setProgress_references _ _⟩
  | _ => exact atStartup.elim

/-- A run of actions while an executor starts. -/
theorem ById.exec (legible : docker.Legible) (holds : s.ById docker)
    {actions : List FollowersAction} {references : List Text} (serves : Serves references actions)
    (byId : ∀ reference ∈ references, ∃ container ∈ docker.containers,
      reference = container.shortId)
    (run : Transition.exec Followers.step s actions = some s') : s'.ById docker := by
  have conditions : ∀ action ∈ actions, action.AtStartup ∧
      ∀ reference, action.recovered = some reference →
        ∃ container ∈ docker.containers, reference = container.shortId := by
    intro action member
    refine ⟨serves.atStartup action member, fun reference calls => ?_⟩
    exact byId reference (serves.calls.subset (List.mem_filterMap.mpr ⟨action, member, calls⟩))
  exact exec_invariant_along _ (ById docker)
    (fun _ _ _ holds met stepped => holds.step legible met.1 met.2 stepped) holds
    (along_of_forall conditions) run

/-! ### The calls of a recovery -/

/-- A call of a recovery is one that the register takes, once its workload has been looked up. -/
theorem recover_of_mayFollow {reporterFactory : Bool} {workloads : List RuntimeWorkload}
    {reference : Text} (follows : MayFollow docker reporterFactory workloads reference)
    (still : s.docker = docker) (isOpen : s.isShutDown = false) :
    ∃ actions s', Transition.exec Followers.step s actions = some s' ∧
      (∀ action ∈ actions, action.AtStartup) ∧
      actions.filterMap FollowersAction.recovered = [reference] ∧ s'.docker = docker ∧
      s'.isShutDown = false := by
  obtain ⟨_, workload, _, own, container, found, rfl, up⟩ := follows
  let looked : Followers := { s with found := own :: s.found }
  have lookUp : s.step (.lookUp workload.projectId workload.deploymentId) = some looked := by
    have shown : Followers.workload s.docker workload.projectId workload.deploymentId =
        .ok (some own) := still ▸ found.looked
    simp only [step, shown]
    rfl
  have takes : own ∈ looked.found ∧ isUpStatus own.status ∧ own.commandId.isSome :=
    ⟨List.mem_cons_self, found.found.status ▸ up, found.recorded⟩
  have recover : looked.step (.recover own) = some (looked.startLogFollower own.containerId).2 := by
    have stays : looked.isShutDown = false := isOpen
    rw [step, stays]
    exact if_pos takes
  refine ⟨[.lookUp workload.projectId workload.deploymentId, .recover own],
    (looked.startLogFollower own.containerId).2, ?_, ?_, ?_, ?_, ?_⟩
  · exact exec_cons_eq_some.mpr ⟨_, lookUp, exec_cons_eq_some.mpr ⟨_, recover, rfl⟩⟩
  · intro action member
    rcases List.mem_cons.mp member with rfl | last
    · trivial
    · obtain rfl := List.mem_singleton.mp last
      trivial
  · exact congrArg (fun id => [id]) found.found.containerId
  · exact (startLogFollower_docker looked _).trans still
  · exact (startLogFollower_isShutDown looked _).trans isOpen

/-- So all of them, in their order. -/
theorem exec_of_mayFollow {reporterFactory : Bool} {workloads : List RuntimeWorkload}
    {references : List Text}
    (follows : ∀ reference ∈ references, MayFollow docker reporterFactory workloads reference)
    (still : s.docker = docker) (isOpen : s.isShutDown = false) :
    ∃ actions s', Transition.exec Followers.step s actions = some s' ∧
      (∀ action ∈ actions, action.AtStartup) ∧
      actions.filterMap FollowersAction.recovered = references := by
  induction references generalizing s with
  | nil => exact ⟨[], s, rfl, fun _ member => (by cases member), rfl⟩
  | cons reference references ih =>
      obtain ⟨first, mid, firstRun, firstAt, firstCalls, still', isOpen'⟩ :=
        recover_of_mayFollow (follows reference List.mem_cons_self) still isOpen
      obtain ⟨rest, last, restRun, restAt, restCalls⟩ :=
        ih (fun other member => follows other (List.mem_cons_of_mem _ member)) still' isOpen'
      refine ⟨first ++ rest, last, ?_, ?_, ?_⟩
      · rw [exec_append, firstRun]
        exact restRun
      · intro action member
        rcases List.mem_append.mp member with early | late
        · exact firstAt action early
        · exact restAt action late
      · rw [List.filterMap_append, firstCalls, restCalls]
        rfl

end Followers

/-- What a recovery asks for is taken by a fresh register, call by call; and at no time, however the
follower tasks go on in between, is there a container with two followers on it. -/
theorem startup_follows_once {docker : DockerState} {thread : ThreadId} {node node' : Node}
    {h : History Runtime} {executor : DockerRuntimeExecutor}
    {detectStaleImages : RuntimeM (List RuntimeStaleImage)} {reporterFactory : Bool}
    (scannable : docker.Scannable) (still : node.Still docker)
    (images : Fallible.AllOps (fun op : RuntimeOp => op.scans = true) detectStaleImages)
    {outcome : Except RuntimeError StartupReport}
    (run : Exec (runtimeSemantics thread)
      (executor.recover detectStaleImages reporterFactory).run node [] outcome node' h) :
    (∃ actions s, exec Followers.step (Followers.new docker) actions = some s ∧
      (∀ action ∈ actions, action.AtStartup) ∧
      actions.filterMap FollowersAction.recovered = (followersAsked h).map Prod.fst) ∧
    ∀ actions s, Serves ((followersAsked h).map Prod.fst) actions →
      exec Followers.step (Followers.new docker) actions = some s →
      ∀ f ∈ s.tasks, ∀ g ∈ s.tasks, ∀ id, f.progress = .following id →
        g.progress = .following id → f = g := by
  have started := Prog.wp_sound _ run (wp_recover scannable still images)
  have follows : ∃ workloads, ∀ reference ∈ (followersAsked h).map Prod.fst,
      MayFollow docker reporterFactory workloads reference := by
    cases outcome with
    | ok report =>
        refine ⟨report.workloads, fun reference member => ?_⟩
        obtain ⟨entry, asked, rfl⟩ := List.mem_map.mp member
        exact (started.recovered report rfl).followed entry asked
    | error error =>
        refine ⟨[], fun reference member => ?_⟩
        rw [started.failed error rfl] at member
        cases member
  obtain ⟨workloads, follows⟩ := follows
  constructor
  · exact Followers.exec_of_mayFollow follows rfl rfl
  · intro actions s serves reached
    refine (Followers.ById.exec scannable.scan.1 (Followers.byId_new docker) serves ?_
      reached).invariant.sole
    intro reference member
    obtain ⟨_, _, _, own, container, found, same, _⟩ := follows reference member
    exact ⟨container, found.found.present, same⟩

theorem startup_follows_once_leftBehind : ∃ outcome node' h,
    Exec (runtimeSemantics 0) (Sample.executor.recover (pure []) true).run LeftBehind.node []
      outcome node' h ∧
    LeftBehind.isSplit outcome = true ∧
    (∃ actions s, exec Followers.step (Followers.new LeftBehind.daemon) actions = some s ∧
      actions.filterMap FollowersAction.recovered = (followersAsked h).map Prod.fst) ∧
    ∀ actions s, Serves ((followersAsked h).map Prod.fst) actions →
      exec Followers.step (Followers.new LeftBehind.daemon) actions = some s →
      ∀ f ∈ s.tasks, ∀ g ∈ s.tasks, ∀ id, f.progress = .following id →
        g.progress = .following id → f = g := by
  obtain ⟨outcome, node', h, run, split⟩ := LeftBehind.recovers
  obtain ⟨⟨actions, s, reached, _, calls⟩, once⟩ := startup_follows_once LeftBehind.scannable
    LeftBehind.still (Fallible.allOps_pure _) run
  exact ⟨outcome, node', h, run, split, ⟨actions, s, reached, calls⟩, once⟩

end SakalaAgent
