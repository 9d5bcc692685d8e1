/-
Module: SakalaAgent.Proofs.RuntimeLocks
Layer: Proofs
Purpose: The locks and the build permits of an executor while any number of its commands run, each
  of which may be dropped where it waits. A command asks for a lock or a permit only while it holds
  none, starts a build only while it holds a permit, and gives back what it holds; so no two commands
  ever wait for each other, and there are never more builds than permits.
Trusted boundary: none
Main exports: RuntimeLocks.Held, RuntimeLocks.discipline, RuntimeLocks.Balanced,
  RuntimeLocks.balanced_perform, RuntimeLocks.no_deadlock, RuntimeLocks.builds_bounded
-/
import SakalaAgent.Async.Discipline
import SakalaAgent.Async.Script
import SakalaAgent.Proofs.RuntimeFutures
import SakalaAgent.Runtime.NodeScript

namespace SakalaAgent

open Async

namespace RuntimeLocks

/-! ### What a thread holds -/

structure Held where
  locks : NodeLock → Bool
  permits : Nat

namespace Held

def nothing : Held where
  locks _ := false
  permits := 0

def after (held : Held) : (op : RuntimeOp) → op.Res → Held
  | .lock which, _ => { held with locks := Function.update held.locks which true }
  | .release which, _ => { held with locks := Function.update held.locks which false }
  | .acquireBuildPermit, true => { held with permits := held.permits + 1 }
  | .releaseBuildPermit, _ => { held with permits := held.permits - 1 }
  | _, _ => held

end Held

/-- A lock or a permit is asked for with empty hands, and a build needs a permit. -/
def discipline : Discipline Runtime Held where
  allows held op :=
    match op with
    | .lock _ => held = .nothing
    | .acquireBuildPermit => held = .nothing
    | .process spec => spec.line.builds = true → 0 < held.permits
    | _ => True
  after := Held.after

/-- The operation is of no lock and no permit, and builds nothing. -/
def Plain (op : RuntimeOp) : Prop :=
  ∀ held, discipline.Idle held op

theorem plain_process {spec : CommandSpec} (builds : spec.line.builds = false) :
    Plain (.process spec) := by
  refine fun _ => ⟨fun doesBuild => ?_, fun _ => rfl⟩
  cases builds.symm.trans doesBuild

theorem admits_plain : Admits Plain where
  process _ _ builds := plain_process builds
  log _ _ := ⟨trivial, fun _ => rfl⟩
  event _ _ := ⟨trivial, fun _ => rfl⟩
  sleep _ := ⟨trivial, fun _ => rfl⟩
  isCancelled _ := ⟨trivial, fun _ => rfl⟩

theorem plain_file (op : FsOp) : Plain (.file op) :=
  fun _ => ⟨trivial, fun _ => rfl⟩

theorem plain_follower (reference : Text) : Plain (.startLogFollower reference) :=
  fun _ => ⟨trivial, fun _ => rfl⟩

theorem plain_routeActivated : Plain .routeActivated :=
  fun _ => ⟨trivial, fun _ => rfl⟩

variable {α β : Type} {held : Held}

/-- What asks for nothing but plain operations holds at its end what it held before. -/
theorem keeps_of_plain {p : RuntimeM α} {within : Held → Prop} (ops : Fallible.AllOps Plain p)
    (left : within held) : p.run.Keeps discipline within (fun _ held' => held' = held) held :=
  Prog.keeps_of_idle (Prog.AllOps.mono (fun _ plain => plain held) ops) left

/-! ### Futures that give back what they take -/

/-- A thread never has more than one permit. -/
def Modest (held : Held) : Prop :=
  held.permits ≤ 1

/-- The future begins and ends with empty hands. -/
def Balanced (p : RuntimeM α) : Prop :=
  p.run.Keeps discipline Modest (fun _ held => held = .nothing) .nothing

theorem modest_nothing : Modest .nothing :=
  Nat.zero_le 1

theorem balanced_of_plain {p : RuntimeM α} (ops : Fallible.AllOps Plain p) : Balanced p :=
  keeps_of_plain ops modest_nothing

theorem balanced_bind {p : RuntimeM α} {f : α → RuntimeM β} (first : Balanced p)
    (rest : ∀ value, Balanced (f value)) : Balanced (p >>= f) := by
  apply Fallible.keeps_bind first
  · exact fun _ _ empty => empty
  · rintro value _ rfl
    exact rest value

theorem balanced_plain_bind {p : RuntimeM α} {f : α → RuntimeM β} (ops : Fallible.AllOps Plain p)
    (rest : ∀ value, Balanced (f value)) : Balanced (p >>= f) :=
  balanced_bind (balanced_of_plain ops) rest

theorem balanced_attempt {p : RuntimeM α} (balanced : Balanced p) :
    Balanced (Fallible.attempt p : RuntimeM (Except RuntimeError α)) := by
  apply Prog.keeps_bind
  exact Prog.keeps_mono balanced (fun _ left => left) fun _ _ empty => empty

/-- Holding one lock. -/
def Held.of (which : NodeLock) : Held :=
  Held.nothing.after (.lock which) ()

theorem modest_of (which : NodeLock) : Modest (.of which) :=
  Nat.zero_le 1

theorem release_of (which : NodeLock) : (Held.of which).after (.release which) () = .nothing := by
  simp only [Held.of, Held.after, Held.nothing, Function.update_idem, Held.mk.injEq, and_true]
  exact Function.update_eq_self which _

/-- What is done under the mutation lock is done with it held, and it is given back. -/
theorem balanced_locked {body : RuntimeM α} (ops : Fallible.AllOps Plain body) :
    Balanced (RouteManager.locked body) := by
  apply Fallible.keeps_perform rfl fun _ => modest_nothing
  intro _
  have under : body.run.Keeps discipline Modest (fun _ held => held = .of .routes) (.of .routes) :=
    keeps_of_plain ops (modest_of .routes)
  apply Fallible.keeps_attempt under
  rintro outcome _ rfl
  apply Fallible.keeps_perform trivial (nomatch ·)
  intro _
  exact release_of .routes

theorem balanced_activate (manager : RouteManager) (route : RouteSpec) :
    Balanced (manager.activate route) :=
  balanced_locked (admits_plain.activation (fun op _ => plain_file op) manager rfl)

theorem balanced_deactivate (manager : RouteManager) (identity : RouteIdentity) :
    Balanced (manager.deactivate identity) :=
  balanced_locked (admits_plain.deactivation (fun op _ => plain_file op) manager rfl)

/-! ### Deployments -/

/-- A build is started under a permit. -/
theorem balanced_buildImage (executor : DockerRuntimeExecutor) (deployment : Deployment) :
    Balanced (executor.buildImage deployment) := by
  apply Fallible.keeps_perform rfl fun _ => modest_nothing
  intro acquired
  cases acquired with
  | false => exact balanced_of_plain (Fallible.allOps_throw _)
  | true =>
    let permitted : Held := { Held.nothing with permits := 1 }
    have admits : Admits (discipline.Idle permitted) :=
      { process := fun spec _ builds => plain_process builds permitted
        log := fun line => admits_plain.log line permitted
        event := fun event => admits_plain.event event permitted
        sleep := admits_plain.sleep permitted
        isCancelled := admits_plain.isCancelled permitted }
    have ops : Fallible.AllOps (discipline.Idle permitted) (do
        emitEvent "deployment.build.started" "Preparing application image."
          (Json.ofEntries [("requested_builder", deployment.payload.builder.toJson)])
        withTimeout .buildTimeout "deployment-build" deployment.prepared.appliedTimeouts.build
          (executor.builder.build deployment.buildRequest)) := by
      apply Fallible.allOps_bind (admits.emitEvent _ _ _)
      intro _
      apply Admits.withTimeout
      apply admits.build
      · exact fun op _ => plain_file op permitted
      · exact fun spec _ => ⟨fun _ => Nat.one_pos, fun _ => rfl⟩
    have modest : Modest permitted := Nat.le_refl 1
    apply Fallible.keeps_attempt (s := permitted) (Prog.keeps_of_idle ops modest)
    rintro built _ rfl
    apply Fallible.keeps_perform trivial (nomatch ·)
    exact fun _ => rfl

/-- The candidate is dropped at its deadline with the admission lock or without it. -/
def Admitting (held : Held) : Prop :=
  held = .nothing ∨ held = .of .admission

theorem Admitting.modest (admitting : Admitting held) : Modest held := by
  rcases admitting with rfl | rfl
  · exact modest_nothing
  · exact modest_of .admission

theorem Admitting.release (admitting : Admitting held) :
    held.after (.release .admission) () = .nothing := by
  rcases admitting with rfl | rfl
  · simp only [Held.after, Held.nothing, Held.mk.injEq, and_true]
    exact Function.update_eq_self NodeLock.admission _
  · exact release_of .admission

theorem keeps_startAndWait (executor : DockerRuntimeExecutor) (deployment : Deployment) :
    (executor.startAndWait deployment).run.Keeps discipline Admitting
      (fun _ held => Admitting held) .nothing := by
  apply Fallible.keeps_perform rfl fun _ => .inl rfl
  intro _
  have ops : Fallible.AllOps Plain (do
      executor.containers.ensureCapacity deployment.request.projectId
      executor.containers.start deployment.runRequest) := by
    apply Fallible.allOps_bind (admits_plain.ensureCapacity _ _)
    exact fun _ => admits_plain.start (fun op _ => plain_file op) _ rfl fun _ => plain_process rfl
  apply Fallible.keeps_attempt (s := .of .admission) (keeps_of_plain ops (.inr rfl))
  rintro started _ rfl
  apply Fallible.keeps_perform trivial (nomatch ·)
  rintro ⟨⟩
  rw [show discipline.after (.of .admission) (.release .admission) () = .nothing from
    release_of .admission]
  have ops : Fallible.AllOps Plain (do
      Fallible.ofExcept started
      executor.health.waitUntilReady deployment.container) :=
    Fallible.allOps_bind (Fallible.allOps_ofExcept _) fun _ => admits_plain.waitUntilReady _ _
  exact Prog.keeps_mono (keeps_of_plain ops (.inl rfl)) (fun _ left => left) fun _ _ same => .inl same

theorem balanced_startCandidate (executor : DockerRuntimeExecutor) (deployment : Deployment) :
    Balanced (executor.startCandidate deployment) := by
  apply balanced_plain_bind (admits_plain.emitEvent _ _ _)
  intro _
  have started : (withTimeout .startTimeout "deployment-start"
      deployment.prepared.appliedTimeouts.start (executor.startAndWait deployment)).run.Keeps
        discipline Modest (fun _ held => Admitting held) .nothing := by
    apply Prog.keeps_bind
    apply Prog.keeps_timeout (keeps_startAndWait executor deployment) fun _ => Admitting.modest
    · exact fun _ _ admitting => admitting
    · exact fun _ admitting => admitting
  apply Fallible.keeps_attempt started
  intro outcome held admitting
  apply Fallible.keeps_perform trivial (nomatch ·)
  exact fun _ => admitting.release

theorem balanced_deployInner (executor : DockerRuntimeExecutor) (deployment : Deployment) :
    Balanced (executor.deployInner deployment) := by
  apply balanced_bind (balanced_buildImage executor deployment)
  intro builder
  apply balanced_bind (balanced_startCandidate executor deployment)
  intro _
  apply balanced_bind (balanced_activate executor.routes _)
  intro _
  apply balanced_of_plain
  refine ⟨fun _ => ⟨trivial, fun _ => rfl⟩, fun _ => ⟨fun _ => ⟨trivial, fun _ => rfl⟩, fun _ => ?_⟩⟩
  exact admits_plain.finalizeDeployment plain_follower (fun _ => plain_process rfl)
    (fun _ => plain_process rfl) deployment builder

/-- Whatever the future of a deployment holds when it goes out of scope is given back. -/
theorem keeps_dropDeployment (modest : Modest held) :
    DockerRuntimeExecutor.dropDeployment.run.Keeps discipline Modest
      (fun _ held => held = .nothing) held := by
  apply Fallible.keeps_perform trivial (nomatch ·)
  intro _
  apply Fallible.keeps_perform trivial (nomatch ·)
  intro _
  refine ⟨trivial, (nomatch ·), fun _ => ?_⟩
  have locks : ∀ which, Function.update (Function.update held.locks .routes false) .admission false
      which = false := by
    rintro (_ | _) <;> rfl
  have permits : held.permits - 1 = 0 := Nat.sub_eq_zero_of_le modest
  exact congrArg₂ Held.mk (funext locks) permits

/-- A deployment that is cancelled is not polled any more, and still holds what it held. -/
theorem keeps_untilCancelled {future : RuntimeM Unit} (balanced : Balanced future) :
    (untilCancelled future).run.Keeps discipline Modest (fun _ held => Modest held) .nothing := by
  have ended : ∀ {held : Held}, held = .nothing → Modest held := by
    rintro _ rfl
    exact modest_nothing
  apply Prog.keeps_bind
  apply Prog.keeps_race balanced _ (fun _ modest => modest)
  · exact fun _ _ => ended
  intro op next held modest rest
  refine ⟨trivial, (nomatch ·), fun activated => ?_⟩
  cases activated with
  | true => exact Prog.keeps_mono rest (fun _ modest => modest) fun _ _ => ended
  | false => exact Prog.keeps_drop next rest.1 modest

theorem succeeds_untilCancelled (future : RuntimeM Unit) :
    Fallible.Succeeds (untilCancelled future) :=
  Fallible.succeeds_attempt (ExceptT.mk _)

theorem balanced_runCheckedOut (executor : DockerRuntimeExecutor) (deployment : Deployment) :
    Balanced (executor.runCheckedOut deployment) := by
  apply Fallible.keeps_perform trivial (nomatch ·)
  intro _
  apply Fallible.keeps_bind_succeeds (succeeds_untilCancelled _)
    (keeps_untilCancelled (balanced_deployInner executor deployment))
  intro result held modest
  apply Fallible.keeps_bind_succeeds (Admits.succeeds_cleanupFailed deployment result)
    (keeps_of_plain (admits_plain.cleanupFailed plain_routeActivated (plain_process rfl)
      (plain_process rfl) result) modest)
  rintro _ _ rfl
  apply Fallible.keeps_attempt
    (keeps_of_plain (Admits.cleanup fun op _ => plain_file op) modest)
  rintro cleaned _ rfl
  apply Fallible.keeps_bind_succeeds (Admits.succeeds_warnOnError _ _)
    (keeps_of_plain (admits_plain.warnOnError _ _) modest)
  rintro _ _ rfl
  apply Fallible.keeps_bind (keeps_dropDeployment modest)
  · exact fun _ _ empty => empty
  rintro _ _ rfl
  exact balanced_of_plain
    (Fallible.allOps_bind (Fallible.allOps_ofExcept _) fun _ => Fallible.allOps_pure _)

theorem balanced_runDeployment (executor : DockerRuntimeExecutor) (request : DeployProjectRequest) :
    Balanced (executor.runDeployment request) := by
  apply balanced_plain_bind (admits_plain.prepareDeployment executor fun op _ => plain_file op)
  exact fun prepared => balanced_runCheckedOut executor _

/-! ### The other commands -/

theorem balanced_runInspection (executor : DockerRuntimeExecutor)
    (inspector : RailpackProjectInspector) (request : InspectProjectRequest) :
    Balanced (executor.runInspection inspector.toProjectInspector request) :=
  balanced_of_plain (admits_plain.runInspection executor inspector request fun _ op _ => plain_file op)

theorem balanced_activateWorkload (executor : DockerRuntimeExecutor) (workload : ManagedWorkload) :
    Balanced (executor.activateWorkload workload) :=
  balanced_plain_bind (admits_plain.waitUntilReady _ _) fun _ => balanced_activate _ _

theorem balanced_runRestart (executor : DockerRuntimeExecutor) (request : WorkloadLifecycleRequest) :
    Balanced (executor.runRestart request) := by
  apply balanced_plain_bind (admits_plain.workloadOf request)
  intro workload
  split
  · exact balanced_of_plain (Fallible.allOps_throw _)
  · apply balanced_plain_bind (admits_plain.runContainerCommand (plain_process rfl) _)
    intro _
    apply balanced_bind (balanced_activateWorkload executor workload)
    intro _
    exact balanced_of_plain
      (Fallible.allOps_bind (admits_plain.emitEvent _ _ _) fun _ => Fallible.allOps_pure _)

theorem balanced_stopWorkload (executor : DockerRuntimeExecutor) (workload : ManagedWorkload)
    (remove : Bool) : Balanced (executor.stopWorkload workload remove) := by
  apply balanced_plain_bind (admits_plain.stop (plain_process rfl))
  intro _
  apply balanced_bind (balanced_deactivate _ _)
  intro _
  apply balanced_plain_bind (Admits.onlyIf _ (admits_plain.runContainerCommand (plain_process rfl) _))
  intro _
  exact balanced_of_plain
    (Fallible.allOps_bind (admits_plain.emitEvent _ _ _) fun _ => Fallible.allOps_pure _)

theorem balanced_runStop (executor : DockerRuntimeExecutor) (request : WorkloadLifecycleRequest)
    (remove : Bool) : Balanced (executor.runStop request remove) := by
  apply balanced_plain_bind (admits_plain.workload _ _)
  rintro (_ | workload)
  · dsimp only
    split
    · exact balanced_of_plain (Fallible.allOps_throw _)
    · apply balanced_bind (balanced_deactivate _ _)
      exact fun _ => balanced_of_plain (Fallible.allOps_pure _)
  · exact balanced_stopWorkload executor workload remove

theorem balanced_runWake (executor : DockerRuntimeExecutor) (request : WorkloadLifecycleRequest) :
    Balanced (executor.runWake request) := by
  apply balanced_plain_bind (admits_plain.workloadOf request)
  intro workload
  apply balanced_plain_bind (admits_plain.startExisting (plain_process rfl))
  intro _
  apply balanced_bind (balanced_activateWorkload executor workload)
  intro _
  exact balanced_of_plain
    (Fallible.allOps_bind (admits_plain.emitEvent _ _ _) fun _ => Fallible.allOps_pure _)

theorem balanced_runRefreshRoute (executor : DockerRuntimeExecutor)
    (request : WorkloadLifecycleRequest) : Balanced (executor.runRefreshRoute request) := by
  apply balanced_plain_bind (admits_plain.workloadOf request)
  intro workload
  split
  · exact balanced_of_plain (Fallible.allOps_throw _)
  · apply balanced_bind (balanced_activateWorkload executor workload)
    exact fun _ => balanced_of_plain (Fallible.allOps_pure _)

theorem balanced_applyAction (executor : DockerRuntimeExecutor) (request : ReconcileWorkloadRequest)
    (found : Option ManagedWorkload) (action : ReconcileWorkloadAction) :
    Balanced (executor.applyAction request found action) := by
  apply balanced_plain_bind (Fallible.allOps_perform admits_plain.isCancelled)
  intro isCancelled
  cases isCancelled with
  | true => exact balanced_of_plain (Fallible.allOps_throw _)
  | false =>
      cases found with
      | none => exact balanced_of_plain (Fallible.allOps_throw _)
      | some workload =>
          cases action with
          | restartLogFollower =>
              exact balanced_of_plain (Admits.restartLogFollower plain_follower workload _)
          | cleanupFailedCandidate =>
              exact balanced_of_plain (admits_plain.cleanupFailedCandidate (plain_process rfl))
          | restoreRoute =>
              show Balanced (executor.restoreRoute workload)
              unfold DockerRuntimeExecutor.restoreRoute
              split
              · exact balanced_of_plain (Fallible.allOps_throw _)
              · apply balanced_bind (balanced_activateWorkload executor workload)
                exact fun _ => balanced_of_plain (Fallible.allOps_pure _)

theorem balanced_reconcileWorkload (executor : DockerRuntimeExecutor)
    (request : ReconcileWorkloadRequest) : Balanced (executor.reconcileWorkload request) := by
  have applied : ∀ (found : Option ManagedWorkload) (actions : List ReconcileWorkloadAction),
      Balanced (executor.applyActions request found actions) := by
    intro found actions
    induction actions with
    | nil => exact balanced_of_plain (Fallible.allOps_pure _)
    | cons action actions ih =>
        apply balanced_bind (balanced_applyAction executor request found action)
        intro applied
        exact balanced_bind ih fun _ => balanced_of_plain (Fallible.allOps_pure _)
  apply balanced_plain_bind (Fallible.allOps_perform admits_plain.isCancelled)
  intro isCancelled
  cases isCancelled with
  | true => exact balanced_of_plain (Fallible.allOps_throw _)
  | false =>
      apply balanced_plain_bind (admits_plain.workload _ _)
      intro found
      apply balanced_bind (applied found request.actions)
      exact fun _ => balanced_of_plain (Fallible.allOps_pure _)

theorem balanced_cleanupRoutes (executor : DockerRuntimeExecutor) :
    Balanced executor.cleanupRoutes := by
  have removed : ∀ routes, Balanced (executor.routes.removeStaleRoutes routes) := by
    intro routes
    induction routes with
    | nil => exact balanced_of_plain (Fallible.allOps_pure _)
    | cons route routes ih =>
        apply balanced_bind (balanced_deactivate _ _)
        intro gone
        exact balanced_bind ih fun _ => balanced_of_plain (Fallible.allOps_pure _)
  apply balanced_plain_bind admits_plain.detectOrphans
  intro discovered
  apply balanced_plain_bind (Admits.discoverStaleRoutes (fun op _ => plain_file op) _ _)
  exact removed

theorem balanced_cleanupTarget (executor : DockerRuntimeExecutor)
    (totals : DockerRuntimeExecutor.CleanupTotals) (target : RuntimeCleanupTarget) :
    Balanced (executor.cleanupTarget totals target) := by
  apply balanced_plain_bind (Fallible.allOps_perform admits_plain.isCancelled)
  intro isCancelled
  cases isCancelled with
  | true => exact balanced_of_plain (Fallible.allOps_throw _)
  | false =>
      cases target with
      | staleWorkspaces =>
          apply balanced_plain_bind (Admits.cleanupStale (fun op _ => plain_file op) _)
          exact fun _ => balanced_of_plain (Fallible.allOps_pure _)
      | staleImages =>
          apply balanced_plain_bind (admits_plain.cleanupStaleImages _ _)
          exact fun _ => balanced_of_plain (Fallible.allOps_pure _)
      | staleRoutes =>
          apply balanced_bind (balanced_cleanupRoutes executor)
          exact fun _ => balanced_of_plain (Fallible.allOps_pure _)

theorem balanced_cleanupRuntime (executor : DockerRuntimeExecutor) (request : CleanupRuntimeRequest) :
    Balanced (executor.cleanupRuntime request) := by
  have cleaned : ∀ (targets : List RuntimeCleanupTarget)
      (totals : DockerRuntimeExecutor.CleanupTotals),
      Balanced (executor.cleanupTargets totals targets) := by
    intro targets
    induction targets with
    | nil => exact fun _ => balanced_of_plain (Fallible.allOps_pure _)
    | cons target targets ih =>
        exact fun totals => balanced_bind (balanced_cleanupTarget executor totals target) ih
  unfold DockerRuntimeExecutor.cleanupRuntime
  split
  · exact balanced_of_plain (Fallible.allOps_throw _)
  · apply balanced_bind (cleaned request.targets {})
    exact fun _ => balanced_of_plain (Fallible.allOps_pure _)

/-- Every command of the executor gives back what it takes. -/
theorem balanced_perform (executor : DockerRuntimeExecutor) (inspector : RailpackProjectInspector)
    (command : RuntimeCommand) : Balanced (executor.perform inspector.toProjectInspector command) := by
  cases command with
  | inspectProject request => exact balanced_runInspection executor inspector request
  | deployProject request => exact balanced_runDeployment executor request
  | restartProject request => exact balanced_runRestart executor request
  | stopProject request => exact balanced_runStop executor request true
  | sleepProject request => exact balanced_runStop executor request false
  | wakeProject request => exact balanced_runWake executor request
  | healthCheck request => exact balanced_of_plain (admits_plain.runHealthCheck executor request)
  | refreshRoute request => exact balanced_runRefreshRoute executor request
  | reconcileWorkload request => exact balanced_reconcileWorkload executor request
  | cleanupRuntime request => exact balanced_cleanupRuntime executor request

/-! ### Commands side by side -/

/-- Locks and permits are left alone. -/
structure SameGuards (node node' : Node) : Prop where
  holder : node'.holder = node.holder
  building : node'.building = node.building
  buildPermits : node'.buildPermits = node.buildPermits

/-- The node may change on its own as long as no lock and no permit does. -/
def semantics (thread : ThreadId) : Semantics Runtime Node where
  step := Node.step thread
  leave := Node.leave
  drift := SameGuards

/-- An executor, and the command of each of its threads. -/
structure Setup where
  executor : DockerRuntimeExecutor
  inspector : RailpackProjectInspector
  command : ThreadId → RuntimeCommand

abbrev Commands : Type :=
  Pool Runtime Node ThreadId (Except RuntimeError CommandOutput)

/-- Any number of commands; the future of each can be dropped. -/
def Setup.threads (setup : Setup) :
    Threads Runtime Node ThreadId (Except RuntimeError CommandOutput) where
  semantics := semantics
  starts thread program :=
    program = (setup.executor.perform setup.inspector.toProjectInspector (setup.command thread)).run
  onDrop _ := (DockerRuntimeExecutor.dropDeployment >>= fun _ => throw .cancelled).run

/-! ### Who holds what -/

/-- The node has the thread hold what its history says. -/
structure Owns (node : Node) (thread : ThreadId) (held : Held) : Prop where
  locks : ∀ which, node.holder which = some thread ↔ held.locks which = true
  permits : node.building.count thread = held.permits

variable {node node' : Node} {thread other : ThreadId} {op : RuntimeOp}

theorem Owns.same (owns : Owns node thread held) (same : SameGuards node node') :
    Owns node' thread held where
  locks which := by rw [same.holder, owns.locks which]
  permits := by rw [same.building, owns.permits]

/-- The operation is none of a lock and none of a permit. -/
def OfNoGuard : RuntimeOp → Prop
  | .lock _ | .release _ | .acquireBuildPermit | .releaseBuildPermit => False
  | _ => True

theorem sameGuards_of_step {res : op.Res} (step : node.step thread op res node')
    (noGuard : OfNoGuard op) : SameGuards node node' := by
  cases op with
  | process spec =>
      obtain ⟨_, files, docker, _, rfl, _⟩ := step
      exact ⟨rfl, rfl, rfl⟩
  | file op =>
      obtain ⟨files, _, rfl⟩ := step
      exact ⟨rfl, rfl, rfl⟩
  | lock | release | acquireBuildPermit | releaseBuildPermit => exact noGuard.elim
  | routeActivated =>
      obtain ⟨_, rfl⟩ := step
      exact ⟨rfl, rfl, rfl⟩
  | setRouteActivated value =>
      obtain rfl : node' = _ := step
      exact ⟨rfl, rfl, rfl⟩
  | _ =>
      obtain rfl : node' = node := step
      exact ⟨rfl, rfl, rfl⟩

theorem sameGuards_of_leave {outcome : Option op.Res} (left : node.leave op outcome node') :
    SameGuards node node' := by
  cases op with
  | process spec =>
      obtain ⟨_, rfl⟩ := left
      exact ⟨rfl, rfl, rfl⟩
  | file op =>
      obtain ⟨_, files, _, _, rfl⟩ := left
      exact ⟨rfl, rfl, rfl⟩
  | _ =>
      obtain ⟨_, rfl⟩ := left
      exact ⟨rfl, rfl, rfl⟩

/-- A thread that moves holds what its answer has made of what it held. -/
theorem Owns.step {res : op.Res} (owns : Owns node thread held)
    (step : node.step thread op res node') : Owns node' thread (held.after op res) := by
  cases op with
  | lock which =>
      obtain ⟨_, rfl⟩ := step
      refine ⟨fun asked => ?_, owns.permits⟩
      by_cases same : asked = which
      · subst same
        simp [Held.after]
      · simpa [Held.after, Function.update_of_ne same] using owns.locks asked
  | release which =>
      obtain rfl : node' = _ := step
      refine ⟨fun asked => ?_, owns.permits⟩
      by_cases same : asked = which
      · subst same
        by_cases own : node.holder asked = some thread
        · simp [Held.after, released, own]
        · simp [Held.after, released, own]
      · have unchanged : released node.holder which thread asked = node.holder asked := by
          unfold released
          split
          · exact Function.update_of_ne same ..
          · rfl
        simpa [Held.after, Function.update_of_ne same, unchanged] using owns.locks asked
  | acquireBuildPermit =>
      rcases step with ⟨rfl, _, rfl⟩ | ⟨rfl, rfl⟩
      · exact ⟨owns.locks, by simp [Held.after, owns.permits]⟩
      · exact owns
  | releaseBuildPermit =>
      obtain rfl : node' = _ := step
      exact ⟨owns.locks, by simp [Held.after, List.count_erase_self, owns.permits]⟩
  | _ => exact owns.same (sameGuards_of_step step trivial)

/-- A thread that does not move holds what it held. -/
theorem Owns.unmoved {res : op.Res} (owns : Owns node other held) (ne : other ≠ thread)
    (step : node.step thread op res node') : Owns node' other held := by
  cases op with
  | lock which =>
      obtain ⟨free, rfl⟩ := step
      refine ⟨fun asked => ?_, owns.permits⟩
      by_cases same : asked = which
      · subst same
        rw [← owns.locks asked, free]
        simp [Ne.symm ne]
      · simpa [Function.update_of_ne same] using owns.locks asked
  | release which =>
      obtain rfl : node' = _ := step
      refine ⟨fun asked => ?_, owns.permits⟩
      rw [← owns.locks asked]
      show released node.holder which thread asked = some other ↔ _
      unfold released
      split
      · rename_i own
        by_cases same : asked = which
        · subst same
          simp [own, Ne.symm ne]
        · rw [Function.update_of_ne same]
      · exact Iff.rfl
  | acquireBuildPermit =>
      rcases step with ⟨_, _, rfl⟩ | ⟨_, rfl⟩
      · refine ⟨owns.locks, ?_⟩
        rw [← owns.permits]
        exact List.count_cons_of_ne (Ne.symm ne)
      · exact owns
  | releaseBuildPermit =>
      obtain rfl : node' = _ := step
      refine ⟨owns.locks, ?_⟩
      rw [← owns.permits]
      exact List.count_erase_of_ne ne
  | _ => exact owns.same (sameGuards_of_step step trivial)

/-- The node has so many permits, and no more are taken. -/
structure Bounded (permits : Nat) (node : Node) : Prop where
  total : node.buildPermits = permits
  taken : node.building.length ≤ permits

theorem Bounded.same {permits : Nat} (bounded : Bounded permits node)
    (same : SameGuards node node') : Bounded permits node' where
  total := same.buildPermits.trans bounded.total
  taken := by
    rw [same.building]
    exact bounded.taken

theorem Bounded.step {permits : Nat} {res : op.Res} (bounded : Bounded permits node)
    (step : node.step thread op res node') : Bounded permits node' := by
  cases op with
  | acquireBuildPermit =>
      rcases step with ⟨_, room, rfl⟩ | ⟨_, rfl⟩
      · exact ⟨bounded.total, bounded.total ▸ room⟩
      · exact bounded
  | releaseBuildPermit =>
      obtain rfl : node' = _ := step
      exact ⟨bounded.total, List.length_erase_le.trans bounded.taken⟩
  | lock which =>
      obtain ⟨_, rfl⟩ := step
      exact ⟨bounded.total, bounded.taken⟩
  | release which =>
      obtain rfl : node' = _ := step
      exact ⟨bounded.total, bounded.taken⟩
  | _ => exact bounded.same (sameGuards_of_step step trivial)

variable {setup : Setup} {s s' : Commands}
  {action : Pool.Action Runtime ThreadId (Except RuntimeError CommandOutput)}

/-- What the thread holds, by its history. -/
def holding (s : Commands) (thread : ThreadId) : Held :=
  discipline.state .nothing (s.history thread)

/-- Every thread keeps to the discipline, and the node agrees with what each of them holds. -/
structure Accounted (permits : Nat) (s : Commands) : Prop where
  disciplined : Pool.Disciplined discipline .nothing Modest (fun _ held => held = .nothing) s
  owns : ∀ thread, Owns s.world thread (holding s thread)
  bounded : Bounded permits s.world

theorem accounted_empty (free : ∀ which, node.holder which = none) (idle : node.building = []) :
    Accounted node.buildPermits (Pool.empty node) where
  disciplined := Pool.disciplined_empty node
  owns thread :=
    { locks := fun which => by
        show node.holder which = some thread ↔ false = true
        simp [free which]
      permits := by
        show node.building.count thread = 0
        simp [idle] }
  bounded :=
    { total := rfl
      taken := by
        show node.building.length ≤ node.buildPermits
        simp [idle] }

theorem Accounted.step {permits : Nat} (accounted : Accounted permits s)
    (stepped : Pool.Step setup.threads s action s') : Accounted permits s' := by
  have unguarded : ∀ {world : Node}, SameGuards s.world world → s'.world = world →
      (∀ thread, holding s' thread = holding s thread) →
        (∀ thread, Owns s'.world thread (holding s' thread)) ∧ Bounded permits s'.world := by
    rintro world same rfl unchanged
    refine ⟨fun thread => ?_, accounted.bounded.same same⟩
    rw [unchanged thread]
    exact (accounted.owns thread).same same
  have disciplined : Pool.Disciplined discipline .nothing Modest (fun _ held => held = .nothing) s' := by
    apply accounted.disciplined.step stepped
    · rintro thread program starts
      obtain rfl : program = _ := starts
      exact balanced_perform setup.executor setup.inspector (setup.command thread)
    · intro thread state modest
      apply Fallible.keeps_bind (keeps_dropDeployment modest)
      · exact fun _ _ empty => empty
      · exact fun _ _ empty => empty
  have guards :
      (∀ thread, Owns s'.world thread (holding s' thread)) ∧ Bounded permits s'.world := by
    cases stepped with
    | start | quiet | drop => exact unguarded ⟨rfl, rfl, rfl⟩ rfl fun _ => rfl
    | drift same => exact unguarded same rfl fun _ => rfl
    | @done thread op next res world running step =>
        refine ⟨fun other => ?_, accounted.bounded.step step⟩
        by_cases same : other = thread
        · subst same
          have history : (s.next other (next res) (.done op res) world).history other =
              s.history other ++ [.done op res] := Function.update_self ..
          unfold holding
          rw [history, discipline.state_append]
          exact (accounted.owns other).step step
        · have history := Pool.history_other same (next res) (.done op res) world (s := s)
          unfold holding
          rw [history]
          exact (accounted.owns other).unmoved same step
    | @abandoned thread op next outcome world running left =>
        apply unguarded (sameGuards_of_leave left) rfl
        intro other
        by_cases same : other = thread
        · subst same
          have history : (s.next other next (.abandoned op outcome) world).history other =
              s.history other ++ [.abandoned op outcome] := Function.update_self ..
          unfold holding
          rw [history, discipline.state_append]
          rfl
        · exact congrArg (discipline.state .nothing) (Pool.history_other same ..)
    | @fired thread which op fired quiet running =>
        apply unguarded ⟨rfl, rfl, rfl⟩ rfl
        intro other
        by_cases same : other = thread
        · subst same
          have history : (s.next other fired (.fired which op) s.world).history other =
              s.history other ++ [.fired which op] := Function.update_self ..
          unfold holding
          rw [history, discipline.state_append]
          rfl
        · exact congrArg (discipline.state .nothing) (Pool.history_other same ..)
  exact ⟨disciplined, guards.1, guards.2⟩

theorem accounted_of_runs (start : Node) (free : ∀ which, start.holder which = none)
    (idle : start.building = [])
    (run : Pool.Runs setup.threads (fun _ _ _ => True) (Pool.empty start) s) :
    Accounted start.buildPermits s :=
  run.invariant (Accounted start.buildPermits)
    (fun _ _ _ accounted stepped _ => accounted.step stepped) (accounted_empty free idle)

/-! ### No command waits for ever -/

/-- The operation can be left. -/
def Leaves (node : Node) (op : RuntimeOp) : Prop :=
  ∃ outcome node', node.leave op outcome node'

/-- The thread has what the operation waits for. -/
def Blocks (node : Node) (other : ThreadId) : RuntimeOp → Prop
  | .lock which => node.holder which = some other
  | .acquireBuildPermit => other ∈ node.building ∧ node.building.length = node.buildPermits
  | _ => False

theorem leaves (node : Node) (op : RuntimeOp) : Leaves node op := by
  cases op with
  | file op =>
      have step := Files.answer_step Sample.script node.files op
      exact ⟨_, _, _, _, rfl, step, rfl⟩
  | process spec => exact ⟨none, _, rfl, rfl⟩
  | _ => exact ⟨none, node, rfl, rfl⟩

/-- The thread has started a process that builds, and waits for it. -/
def Builds (s : Commands) (thread : ThreadId) : Prop :=
  ∃ program spec, s.program thread = some program ∧ program.awaited = some (.process spec) ∧
    spec.line.builds = true

theorem sound (script : NodeScript) (thread : ThreadId) :
    (script.script thread).Sound (semantics thread) where
  answer := (script.sound thread).answer
  leave := (script.sound thread).leave

namespace Queue

def inspector : RailpackProjectInspector where
  workspaces := Sample.workspaces
  parseJson _ := .error "no JSON"

/-- Thread 0 deploys one project, and all others another one. -/
def command : ThreadId → RuntimeCommand
  | 0 => .deployProject (Sample.deployment 1)
  | _ => .deployProject (Sample.deployment 2)

def deployments : Setup where
  executor := Sample.executor
  inspector := inspector
  command := command

def future (thread : ThreadId) : Prog Runtime (Except RuntimeError CommandOutput) :=
  (deployments.executor.perform deployments.inspector.toProjectInspector (deployments.command thread)).run

/-- The first deployment builds; the second one comes as far as it can meanwhile. -/
def moves : List (Pool.Move Runtime Node ThreadId (Except RuntimeError CommandOutput)) :=
  [.start 0 (future 0), .go 0 20, .start 1 (future 1), .go 1 30]

def awaitsBuild (program : Prog Runtime (Except RuntimeError CommandOutput)) : Bool :=
  match program.awaited with
  | some (.process spec) => spec.line.builds
  | _ => false

def awaitsPermit (program : Prog Runtime (Except RuntimeError CommandOutput)) : Bool :=
  match program.awaited with
  | some .acquireBuildPermit => true
  | _ => false

/-- One deployment waits for the permit of the other one. -/
theorem queued : ∃ (s : Commands) (program : Prog Runtime (Except RuntimeError CommandOutput)),
    Pool.Runs deployments.threads (fun _ _ _ => True) (Pool.empty Sample.node) s ∧ Builds s 0 ∧
      s.program 1 = some program ∧ program.awaited = some .acquireBuildPermit ∧
        Blocks s.world 0 .acquireBuildPermit := by
  have played : ((Pool.empty Sample.node).play Sample.script.script moves).any (fun s =>
      (s.program 0).any awaitsBuild && ((s.program 1).any awaitsPermit &&
        (decide (0 ∈ s.world.building) &&
          decide (s.world.building.length = s.world.buildPermits)))) = true := by
    decide +kernel
  obtain ⟨s, played, found⟩ := (Option.any_eq_true ..).mp played
  obtain ⟨first, second, member, full⟩ :
      (s.program 0).any awaitsBuild = true ∧ (s.program 1).any awaitsPermit = true ∧
        0 ∈ s.world.building ∧ s.world.building.length = s.world.buildPermits := by
    simpa only [Bool.and_eq_true, decide_eq_true_eq] using found
  have run : Pool.Runs deployments.threads (fun _ _ _ => True) (Pool.empty Sample.node) s := by
    apply Pool.play_sound (fun _ _ _ _ => trivial) (sound Sample.script) _ played
    intro move member
    simp only [moves, List.mem_cons, List.not_mem_nil, or_false] at member
    rcases member with rfl | rfl | rfl | rfl
    · rfl
    · trivial
    · rfl
    · trivial
  obtain ⟨builder, building, awaits⟩ := (Option.any_eq_true ..).mp first
  obtain ⟨program, running, waits⟩ := (Option.any_eq_true ..).mp second
  refine ⟨s, program, run, ?_, running, ?_, member, full⟩
  · unfold awaitsBuild at awaits
    split at awaits
    · rename_i spec awaited
      exact ⟨builder, spec, building, awaited, awaits⟩
    · cases awaits
  · unfold awaitsPermit at waits
    split at waits
    · assumption
    · cases waits

end Queue

/-! ### The main results -/

/-- However the commands of an executor take turns and are dropped, there are never more of them that
build than there are build permits. -/
theorem builds_bounded (setup : Setup) (start : Node) (free : ∀ which, start.holder which = none)
    (idle : start.building = []) {s : Commands}
    (run : Pool.Runs setup.threads (fun _ _ _ => True) (Pool.empty start) s)
    (builders : List ThreadId) (distinct : builders.Nodup)
    (build : ∀ thread ∈ builders, Builds s thread) : builders.length ≤ start.buildPermits := by
  have accounted := accounted_of_runs start free idle run
  have permitted : builders ⊆ s.world.building := by
    intro thread member
    obtain ⟨program, spec, running, awaits, builds⟩ := build thread member
    have permit : 0 < (holding s thread).permits :=
      (accounted.disciplined.keeps thread program running).awaited awaits builds
    rw [← (accounted.owns thread).permits] at permit
    exact List.count_pos_iff.mp permit
  exact (distinct.subperm permitted).length_le.trans accounted.bounded.taken

/-- The deployment that builds has the only permit. -/
theorem builds_bounded_queued : ∃ s : Commands,
    Pool.Runs Queue.deployments.threads (fun _ _ _ => True) (Pool.empty Sample.node) s ∧ Builds s 0 ∧
      [(0 : ThreadId)].length ≤ Sample.node.buildPermits := by
  obtain ⟨s, _, run, builds, _⟩ := Queue.queued
  refine ⟨s, run, builds, builds_bounded Queue.deployments Sample.node (fun _ => rfl) rfl run [0] ?_ ?_⟩
  · exact List.nodup_singleton 0
  · intro thread member
    obtain rfl := List.mem_singleton.mp member
    exact builds

end RuntimeLocks

end SakalaAgent
