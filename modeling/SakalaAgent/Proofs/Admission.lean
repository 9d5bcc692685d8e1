/-
Module: SakalaAgent.Proofs.Admission
Layer: Proofs
Purpose: Deployments that run side by side on one executor. A container is started only under the
  admission lock, after a check that there is room; as long as no container that was given up comes
  up later, the projects that run never get more than the node admits.
Trusted boundary: containers stop and are removed at any time
Main exports: Admission.deployments, Admission.Undisturbed, Admission.safe_runDeployment,
  Admission.admission_bounded
-/
import SakalaAgent.Proofs.RunningProjects
import SakalaAgent.Proofs.RuntimeRules
import SakalaAgent.Runtime.NodeScript

namespace SakalaAgent

open Async

/-- A container stops, or is removed. -/
inductive DockerState.Declines (docker : DockerState) : DockerState → Prop where
  | stops (container : Container) (status : Text) (plain : Plain status)
      (present : container ∈ docker.containers) (ended : isListedStatus status = false) :
      Declines docker (docker.setStatus container.id status plain)
  | removed (container : Container) (present : container ∈ docker.containers) :
      Declines docker (docker.remove container.id)

theorem DockerState.Declines.runningProjects_subset {docker docker' : DockerState}
    (declines : docker.Declines docker') : docker'.runningProjects ⊆ docker.runningProjects := by
  cases declines with
  | stops container status plain present ended => exact runningProjects_setStatus ended
  | removed container present => exact runningProjects_keep _

namespace Admission

/-! ### Deployments side by side -/

def semantics (thread : ThreadId) : Semantics Runtime Node where
  step := Node.step thread
  leave := Node.leave
  drift node node' := node.Lands node' ∨
    ∃ docker, node.docker.Declines docker ∧ node' = { node with docker }

/-- Any number of deployments, of any projects; the future of each can be dropped. -/
def deployments (executor : DockerRuntimeExecutor) :
    Threads Runtime Node ThreadId (Except RuntimeError CommandOutput) where
  semantics := semantics
  starts _ program := ∃ request, program = (executor.runDeployment request).run
  onDrop _ := (DockerRuntimeExecutor.dropDeployment >>= fun _ => throw .cancelled).run

/-- The listing of a capacity check can be read, and what nobody waits for any more brings up no
project. -/
def Undisturbed {α : Type} (s : Pool Runtime Node ThreadId α) (action : Pool.Action Runtime ThreadId α)
    (s' : Pool Runtime Node ThreadId α) : Prop :=
  match action with
  | .act _ (.done (.process spec) _) => spec = capacityListing → s.world.docker.Readable
  | .drift => s'.world.docker.runningProjects ⊆ s.world.docker.runningProjects
  | _ => True

/-- The surroundings of a thread where nothing is disturbed. -/
def calm (thread : ThreadId) : Semantics Runtime Node where
  step node op res node' := node.step thread op res node' ∧
    (op = .process capacityListing → node.docker.Readable)
  leave := Node.leave
  drift node node' := (semantics thread).drift node node' ∧
    node'.docker.runningProjects ⊆ node.docker.runningProjects

/-! ### The contract of a deployment -/

/-- A process that can start a container is started under the admission lock, with room for it. -/
def MayStart (maximum : Nat) (thread : ThreadId) (node : Node) : RuntimeOp → Prop
  | .process spec => spec.line.isTame = true ∨ ∃ options projectId,
      spec.line = .docker (.run options) ∧ options.project = some projectId ∧
        node.holder .admission = some thread ∧ node.docker.Room maximum projectId
  | _ => True

/-- No more projects run than the node admits. -/
def Within (maximum : Nat) (node : Node) : Prop :=
  node.docker.runningProjects.card ≤ maximum

/-- While a thread holds the admission lock, no other brings up a project. -/
def contract (maximum : Nat) (thread : ThreadId) : Contract Runtime Node where
  rely _ node node' := (Within maximum node → Within maximum node') ∧
    (node.holder .admission = some thread → node'.holder .admission = some thread ∧
      node'.docker.runningProjects ⊆ node.docker.runningProjects)
  asserts node _ op := MayStart maximum thread node op
  left node _ := Within maximum node

variable {maximum : Nat} {thread other : ThreadId} {node node' : Node} {h : History Runtime}

theorem Within.subset (within : Within maximum node)
    (subset : node'.docker.runningProjects ⊆ node.docker.runningProjects) : Within maximum node' :=
  (Finset.card_le_card subset).trans within

/-- What one process makes of the projects that run. -/
theorem runningProjects_settled {line : CommandLine} {succeeded : Bool}
    (settled : node.Settled line succeeded node') (tame : line.isTame = true) :
    node'.docker.runningProjects ⊆ node.docker.runningProjects := by
  obtain ⟨files, docker, _, rfl, settles⟩ := settled
  cases line with
  | docker command =>
      rcases settles with effect | ⟨_, rfl⟩
      · exact Effect.runningProjects_subset effect tame
      · exact Finset.Subset.refl _
  | _ =>
      obtain rfl : docker = node.docker := settles
      exact Finset.Subset.refl _

/-- A `docker run` adds its project at most. -/
theorem runningProjects_settled_run {options : RunOptions} {projectId : Uuid} {succeeded : Bool}
    (settled : node.Settled (.docker (.run options)) succeeded node')
    (named : options.project = some projectId) :
    node'.docker.runningProjects ⊆ insert projectId node.docker.runningProjects := by
  obtain ⟨files, docker, _, rfl, effect | ⟨_, rfl⟩⟩ := settled
  · intro running member
    rcases Effect.runningProjects_run effect member with before | added
    · exact Finset.mem_insert_of_mem before
    · rw [named] at added
      exact Finset.mem_insert.mpr (.inl (Option.some.inj added).symm)
  · exact Finset.subset_insert ..

theorem within_of_step {op : RuntimeOp} {res : op.Res} (may : MayStart maximum thread node op)
    (step : node.step thread op res node') (within : Within maximum node) :
    Within maximum node' := by
  cases op with
  | process spec =>
      rcases may with tame | ⟨options, projectId, running, named, _, room⟩
      · exact within.subset (runningProjects_settled step.2 tame)
      · have settled := step.2
        rw [running] at settled
        exact (Finset.card_le_card (runningProjects_settled_run settled named)).trans room
  | _ => exact within.subset (by rw [Node.docker_of_step (fun _ => by simp) step])

theorem within_of_leave {op : RuntimeOp} {outcome : Option op.Res}
    (left : (calm thread).leave node op outcome node') (within : Within maximum node) :
    Within maximum node' := by
  have left : node.leave op outcome node' := left
  exact within.subset (by rw [Node.docker_of_leave left])

theorem rely_of_step {op : RuntimeOp} {res : op.Res} (ne : other ≠ thread)
    (may : MayStart maximum thread node op) (step : node.step thread op res node') :
    (contract maximum other).rely h node node' := by
  refine ⟨within_of_step may step, fun held => ⟨Node.holder_of_step_other ne held step, ?_⟩⟩
  cases op with
  | process spec =>
      rcases may with tame | ⟨options, projectId, _, _, own, _⟩
      · exact runningProjects_settled step.2 tame
      · rw [held] at own
        exact absurd (Option.some.inj own) ne
  | _ => rw [Node.docker_of_step (fun _ => by simp) step]

theorem rely_of_leave {op : RuntimeOp} {outcome : Option op.Res}
    (left : node.leave op outcome node') : (contract maximum other).rely h node node' := by
  have docker : node'.docker.runningProjects ⊆ node.docker.runningProjects := by
    rw [Node.docker_of_leave left]
  exact ⟨fun within => within.subset docker,
    fun held => ⟨by rw [Node.holder_of_leave left]; exact held, docker⟩⟩

theorem rely_of_drift (drift : (calm thread).drift node node') :
    (contract maximum other).rely h node node' := by
  obtain ⟨moved, subset⟩ := drift
  refine ⟨fun within => within.subset subset, fun held => ⟨?_, subset⟩⟩
  rcases moved with ⟨_, _, _, _, _, _, _, rfl, _⟩ | ⟨docker, _, rfl⟩
  · exact held
  · exact held

/-! ### Outside the lock -/

variable {α : Type}

/-- A future that starts no container keeps to the contract. -/
theorem outside_maintained (maximum : Nat) (thread : ThreadId) :
    Prog.Maintains (calm thread) (contract maximum thread)
      (Starts fun line => line.isTame = true) (fun node _ => Within maximum node) where
  asserts op starts node h _ := by
    cases op with
    | process spec => exact .inl starts
    | _ => trivial
  done op starts node h res node' within step := by
    have may : MayStart maximum thread node op := by
      cases op with
      | process spec => exact .inl starts
      | _ => trivial
    exact within_of_step may step.1 within
  abandoned op _ node h outcome node' within left :=
    within.subset (by rw [Node.docker_of_leave left])
  fired _ _ _ _ within := within
  rely node h node' within relied := relied.1 within

theorem safe_outside {p : RuntimeM α} {Q : Except RuntimeError α → Node → History Runtime → Prop}
    (starts : Fallible.AllOps (Starts fun line => line.isTame = true) p) (within : Within maximum node)
    (hQ : ∀ outcome node h, Within maximum node → Q outcome node h) :
    Prog.safe (calm thread) (contract maximum thread) Q p.run node h :=
  Prog.safe_of_allOps (outside_maintained maximum thread) starts within hQ fun _ _ within => within

/-- The contract lets a deployment uphold the bound. -/
theorem upholds (maximum : Nat) (thread : ThreadId) :
    Upholds (calm thread) (contract maximum thread) (Within maximum) where
  blind :=
    { rely := fun _ _ => rfl
      asserts := fun _ _ => Iff.rfl
      left := fun _ _ => Iff.rfl }
  rely within relied := relied.1 within
  left := Iff.rfl
  flag := trivial
  reads := by
    rintro node res node' ⟨⟨_, rfl⟩, _⟩
    rfl

/-! ### Inside the lock -/

/-- The operations of a future that takes and gives back no lock. -/
def Inner (allowed : CommandLine → Prop) : RuntimeOp → Prop
  | .process spec => allowed spec.line
  | .file _ => True
  | .log _ => True
  | _ => False

theorem Inner.noLock {allowed : CommandLine → Prop} {op : RuntimeOp} (inner : Inner allowed op)
    (which : NodeLock) : op ≠ .lock which ∧ op ≠ .release which := by
  constructor
  · rintro rfl
    exact inner
  · rintro rfl
    exact inner

/-- The container of a project, among processes that start no container. -/
def IsStart (projectId : Uuid) (line : CommandLine) : Prop :=
  line.isTame = true ∨ ∃ options, line = .docker (.run options) ∧ options.project = some projectId

/-- The thread holds the admission lock, and there is room for a project. -/
def Admitted (maximum : Nat) (thread : ThreadId) (projectId : Uuid) (node : Node) : Prop :=
  node.holder .admission = some thread ∧ node.docker.Room maximum projectId

variable {projectId : Uuid}

theorem Admitted.within (admitted : Admitted maximum thread projectId node) :
    Within maximum node :=
  (Finset.card_le_card (Finset.subset_insert ..)).trans admitted.2

theorem Admitted.mayStart {op : RuntimeOp} (admitted : Admitted maximum thread projectId node)
    (inner : Inner (IsStart projectId) op) : MayStart maximum thread node op := by
  cases op with
  | process spec =>
      rcases inner with tame | ⟨options, running, named⟩
      · exact .inl tame
      · exact .inr ⟨options, projectId, running, named, admitted⟩
  | _ => trivial

theorem Admitted.step {op : RuntimeOp} {res : op.Res}
    (admitted : Admitted maximum thread projectId node) (inner : Inner (IsStart projectId) op)
    (step : node.step thread op res node') : Admitted maximum thread projectId node' := by
  refine ⟨by rw [Node.holder_of_step inner.noLock step]; exact admitted.1, ?_⟩
  cases op with
  | process spec =>
      rcases inner with tame | ⟨options, running, named⟩
      · exact admitted.2.mono (runningProjects_settled step.2 tame)
      · have settled := step.2
        rw [running] at settled
        have subset := runningProjects_settled_run settled named
        exact (Finset.card_le_card (Finset.insert_subset (Finset.mem_insert_self ..) subset)).trans
          admitted.2
  | _ => rw [Node.docker_of_step (fun _ => by simp) step]; exact admitted.2

theorem Admitted.others (admitted : Admitted maximum thread projectId node)
    (relied : (contract maximum thread).rely h node node') :
    Admitted maximum thread projectId node' := by
  obtain ⟨held, subset⟩ := relied.2 admitted.1
  exact ⟨held, admitted.2.mono subset⟩

theorem inside_maintained (maximum : Nat) (thread : ThreadId) (projectId : Uuid) :
    Prog.Maintains (calm thread) (contract maximum thread) (Inner (IsStart projectId))
      (fun node _ => Admitted maximum thread projectId node) where
  asserts _ inner _ _ admitted := admitted.mayStart inner
  done _ inner _ _ _ _ admitted step := admitted.step inner step.1
  abandoned op _ node h outcome node' admitted left := by
    refine ⟨by rw [Node.holder_of_leave left]; exact admitted.1, ?_⟩
    rw [Node.docker_of_leave left]
    exact admitted.2
  fired _ _ _ _ admitted := admitted
  rely _ _ _ admitted relied := admitted.others relied

theorem inner_fileOp {allowed : CommandLine → Prop} (op : FsOp) :
    Fallible.AllOps (Inner allowed) (fileOp op) :=
  Fallible.allOps_bind (p := tryFileOp op) ⟨trivial, fun _ => trivial⟩ fun _ => trivial

/-- The start of a container, with its environment file. -/
theorem inner_start (engine : ContainerEngine) (request : RunContainerRequest) :
    Fallible.AllOps (Inner (IsStart request.projectId)) (engine.start request) := by
  apply Fallible.allOps_bind
  · simp only [ContainerEngine.writeEnvFile]
    split
    · trivial
    · apply Fallible.allOps_bind (inner_fileOp _)
      intro _
      apply Fallible.allOps_bind
      · exact Fallible.allOps_forM fun entry _ => inner_fileOp _
      · exact fun _ => trivial
  · intro hasEnvFile
    apply Fallible.allOps_bind
    · apply Fallible.allOps_attempt
      have starts : IsStart request.projectId (ContainerEngine.docker
          (.run (engine.runOptions request hasEnvFile))).line := by
        refine .inr ⟨_, rfl, ?_⟩
        exact Uuid.parseText_toText request.projectId
      apply (spawns_runChecked starts _).mono
      intro op spawns
      cases op with
      | process spec => exact spawns
      | log line => trivial
      | _ => exact absurd spawns not_false
    · intro result
      split
      · apply Fallible.allOps_bind (p := tryFileOp _) ⟨trivial, fun _ => trivial⟩
        intro removed
        cases result <;> trivial
      · trivial

/-- The check under the lock. -/
theorem safe_ensureCapacity (engine : ContainerEngine)
    {Q : Except RuntimeError Unit → Node → History Runtime → Prop}
    (within : Within engine.maxActiveContainers.toNat node)
    (held : node.holder .admission = some thread)
    (admitted : ∀ node h, Admitted engine.maxActiveContainers.toNat thread projectId node →
      Q (.ok ()) node h)
    (refused : ∀ error node h, Within engine.maxActiveContainers.toNat node →
      Q (.error error) node h) :
    Prog.safe (calm thread) (contract engine.maxActiveContainers.toNat thread) Q
      (engine.ensureCapacity projectId).run node h := by
  rw [ensureCapacity_eq]
  intro node₀ others
  have before : Within engine.maxActiveContainers.toNat node₀ ∧
      node₀.holder .admission = some thread := by
    apply others.keeps (fun node => Within engine.maxActiveContainers.toNat node ∧
      node.holder .admission = some thread) _ ⟨within, held⟩
    exact fun node node' holds relied => ⟨relied.1 holds.1, (relied.2 holds.2).1⟩
  refine ⟨.inl rfl, fun _ outcome node' left => within_of_leave left before.1,
    fun result node' step => ?_⟩
  have subset : node'.docker.runningProjects ⊆ node₀.docker.runningProjects :=
    runningProjects_settled step.1.2 rfl
  have still : node'.holder .admission = some thread := by
    rw [Node.holder_of_step (fun _ => by simp) step.1]
    exact before.2
  change Prog.safe _ _ Q (.ret (capacityOutcome engine projectId result)) node' _
  cases verdict : capacityOutcome engine projectId result with
  | error error =>
      exact (upholds _ thread).safe_ret (before.1.subset subset)
        fun node within => refused error node _ within
  | ok _ =>
      obtain ⟨succeeded, admits⟩ := admits_of_capacityOutcome verdict
      have truthful : result.stdout =
          node₀.docker.psLines false false [managedLabel] [.label projectIdLabel] :=
        step.1.1 succeeded
      rw [truthful] at admits
      have room := (step.2 rfl).room before.1 admits
      intro node others
      exact admitted node _
        ((inside_maintained _ thread projectId).others others ⟨still, room.mono subset⟩)

/-! ### A deployment -/

/-- A future that starts no container upholds the bound. -/
theorem safe_starts {p : RuntimeM α} (starts : Fallible.AllOps (Starts fun line => line.isTame = true) p)
    (within : Within maximum node) : (upholds maximum thread).Safe p.run node h :=
  safe_outside starts within fun _ _ _ within => within

theorem safe_startAndWait (executor : DockerRuntimeExecutor) (deployment : Deployment)
    (within : Within executor.containers.maxActiveContainers.toNat node) :
    (upholds executor.containers.maxActiveContainers.toNat thread).Safe
      (executor.startAndWait deployment).run node h := by
  have upholds := upholds executor.containers.maxActiveContainers.toNat thread
  intro node₀ others
  have before := upholds.others others within
  refine ⟨trivial, fun _ _ _ left => within_of_leave left before, ?_⟩
  rintro ⟨⟩ node' ⟨⟨_, taken⟩, _⟩
  have held : node'.holder .admission = some thread := by
    rw [taken]
    simp
  have before : Within executor.containers.maxActiveContainers.toNat node' := by
    rw [taken]
    exact before
  apply upholds.safe_attempt
  · apply Fallible.safe_bind
    apply safe_ensureCapacity executor.containers before held
    · intro node h admitted
      apply Prog.safe_of_allOps (inside_maintained _ thread deployment.request.projectId)
        (inner_start executor.containers deployment.runRequest) admitted
      · exact fun _ _ _ admitted => admitted.within
      · exact fun _ _ admitted => admitted.within
    · exact fun error node h within => upholds.safe_end within
  · intro started node h within
    apply safe_starts _ within
    refine Fallible.allOps_bind (starts_perform trivial) fun _ => ?_
    apply Fallible.allOps_bind (Fallible.allOps_ofExcept _)
    intro _
    apply (asks_waitUntilReady (fun _ => CommandLine.isTame_of_isQuiet) executor.health _).mono
    exact fun _ => Asks.starts

/-- The deployment up to its end: only the candidate is started. -/
theorem safe_deployInner (executor : DockerRuntimeExecutor) (deployment : Deployment)
    (within : Within executor.containers.maxActiveContainers.toNat node) :
    (upholds executor.containers.maxActiveContainers.toNat thread).Safe
      (executor.deployInner deployment).run node h := by
  have upholds := upholds executor.containers.maxActiveContainers.toNat thread
  have quiet : ∀ line : CommandLine, line.isQuiet = true → line.isTame = true :=
    fun _ => CommandLine.isTame_of_isQuiet
  apply upholds.safe_bind
  · exact safe_starts ((asks_buildImage quiet executor fun _ _ _ _ => rfl).mono
      fun _ => Asks.starts) within
  intro builder node h within
  apply upholds.safe_bind
  · apply upholds.safe_bind
    · exact safe_starts ((asks_emitEvent _ _ _).mono fun _ => Asks.starts) within
    intro _ node h within
    apply upholds.safe_attempt
    · exact upholds.safe_withTimeout (safe_startAndWait executor deployment within)
    · intro started node h within
      apply safe_starts _ within
      exact Fallible.allOps_bind (starts_perform trivial) fun _ => trivial
  intro _ node h within
  apply safe_starts _ within
  apply Fallible.allOps_bind (starts_activate quiet executor.routes _)
  intro _
  refine Fallible.allOps_bind (starts_perform trivial) fun _ => ?_
  refine Fallible.allOps_bind (starts_perform trivial) fun _ => ?_
  exact (asks_finalizeDeployment (fun _ tame => tame) deployment builder).mono fun _ => Asks.starts

theorem safe_runDeployment (executor : DockerRuntimeExecutor) (request : DeployProjectRequest)
    (within : Within executor.containers.maxActiveContainers.toNat node) :
    (upholds executor.containers.maxActiveContainers.toNat thread).Safe
      (executor.runDeployment request).run node h := by
  have upholds := upholds executor.containers.maxActiveContainers.toNat thread
  have quiet : ∀ line : CommandLine, line.isQuiet = true → line.isTame = true :=
    fun _ => CommandLine.isTame_of_isQuiet
  apply upholds.safe_bind
  · exact safe_starts ((asks_prepareDeployment quiet executor request).mono fun _ => Asks.starts)
      within
  intro prepared node h within
  apply upholds.safe_bind
  · exact safe_starts (starts_perform trivial) within
  intro _ node h within
  apply upholds.safe_bind
  · exact upholds.safe_untilCancelled (safe_deployInner executor _ within)
  intro result node h within
  apply safe_starts _ within
  apply (asks_afterDeployment executor _ _ result).mono fun _ => Asks.starts
  · rfl
  · rfl

/-! ### The bound -/

/-- The same deployments, where nothing is disturbed. -/
def calmDeployments (executor : DockerRuntimeExecutor) :
    Threads Runtime Node ThreadId (Except RuntimeError CommandOutput) :=
  { deployments executor with semantics := calm }

variable {executor : DockerRuntimeExecutor}
  {s s' : Pool Runtime Node ThreadId (Except RuntimeError CommandOutput)}
  {action : Pool.Action Runtime ThreadId (Except RuntimeError CommandOutput)}

/-- The deployments are safe, and the bound holds. -/
def Bounded (executor : DockerRuntimeExecutor)
    (s : Pool Runtime Node ThreadId (Except RuntimeError CommandOutput)) : Prop :=
  Pool.Safe (calmDeployments executor) (contract executor.containers.maxActiveContainers.toNat)
    (fun _ _ node _ => Within executor.containers.maxActiveContainers.toNat node) s ∧
  Within executor.containers.maxActiveContainers.toNat s.world

theorem bounded_step (bounded : Bounded executor s)
    (stepped : Pool.Step (calmDeployments executor) s action s') : Bounded executor s' := by
  obtain ⟨safe, within⟩ := bounded
  have change := Pool.Step.world safe stepped
  constructor
  · apply safe.step stepped
    case started =>
      rintro thread program _ ⟨request, rfl⟩
      exact safe_runDeployment executor request within
    case dropped =>
      intro thread _ node h left
      apply safe_starts _ left
      apply Fallible.allOps_bind (asks_dropDeployment.mono fun _ => Asks.starts)
      exact fun _ => trivial
    case relied =>
      intro other ne _
      cases change with
      | same unchanged => exact .inr unchanged
      | done asserted step =>
          exact .inl (rely_of_step (fun same => ne (same ▸ rfl)) asserted step.1)
      | abandoned asserted left => exact .inl (rely_of_leave left)
      | drift drift => exact .inl (rely_of_drift drift)
  · cases change with
    | same unchanged => exact unchanged ▸ within
    | done asserted step => exact within_of_step asserted step.1 within
    | abandoned asserted left => exact within_of_leave left within
    | drift drift => exact within.subset drift.2

/-- Concurrent admission. However deployments of any projects take turns with each other and with
containers that stop or are removed, never more projects run than the node admits. -/
theorem admission_bounded (executor : DockerRuntimeExecutor) (start : Node)
    (initially : start.docker.runningProjects.card ≤ executor.containers.maxActiveContainers.toNat)
    (s : Pool Runtime Node ThreadId (Except RuntimeError CommandOutput))
    (run : Pool.Runs (deployments executor) Undisturbed (Pool.empty start) s) :
    s.world.docker.runningProjects.card ≤ executor.containers.maxActiveContainers.toNat := by
  have calm : Pool.Runs (calmDeployments executor) Undisturbed (Pool.empty start) s := by
    apply run.restrict
    case starts => exact fun _ _ starts => starts
    case onDrop => rfl
    case leave => exact fun _ _ _ _ _ _ left => left
    case drift => exact fun _ _ _ undisturbed drift => ⟨drift, undisturbed⟩
    case step =>
      intro s s' thread op res undisturbed step
      refine ⟨step, ?_⟩
      rintro rfl
      exact undisturbed rfl
  have bounded : Bounded executor s := by
    apply calm.invariant (Bounded executor)
    · exact fun s action s' bounded stepped _ => bounded_step bounded stepped
    · exact ⟨fun thread program running => (nomatch running), initially⟩
  exact bounded.2

/-! ### Two deployments -/

/-- The listing of a capacity check cannot be read. -/
def isUnreadable (node : Node) : RuntimeOp → Bool
  | .process spec => decide (spec = capacityListing ∧ ¬node.docker.Readable)
  | _ => false

/-- A node that works, as long as its listings can be read. -/
def readableScript (thread : ThreadId) : Script Runtime Node :=
  { Sample.script.script thread with
    answer := fun h node op =>
      if isUnreadable node op then none else Sample.script.answer thread h node op }

theorem readableScript_sound (thread : ThreadId) :
    (readableScript thread).Sound (semantics thread) where
  answer := by
    intro h node op res node' answered
    unfold readableScript at answered
    dsimp only at answered
    split at answered
    · cases answered
    · exact (Sample.script.sound thread).answer (h := h) answered
  leave left := (Sample.script.sound thread).leave left

theorem undisturbed_scripted {α : Type} {s s' : Pool Runtime Node ThreadId α}
    {action : Pool.Action Runtime ThreadId α} (scripted : Pool.Scripted readableScript s s' action) :
    Undisturbed s action s' := by
  unfold Undisturbed
  split
  · rename_i thread spec res
    rintro rfl
    have answered : (readableScript thread).answer (s.history thread) s.world
        (.process capacityListing) = some (res, s'.world) := scripted
    unfold readableScript at answered
    dsimp only at answered
    split at answered
    · cases answered
    · rename_i readable
      simpa [isUnreadable] using readable
  · exact absurd scripted not_false
  · trivial

/-- Two first deployments on a node that admits one container. -/
def twoDeployments : List (Pool.Move Runtime Node ThreadId (Except RuntimeError CommandOutput)) :=
  [.start 0 (Sample.executor.runDeployment (Sample.deployment 1)).run,
    .start 1 (Sample.executor.runDeployment (Sample.deployment 2)).run, .go 0 100, .go 1 100]

theorem scheduled_twoDeployments
    {cond : Pool Runtime Node ThreadId (Except RuntimeError CommandOutput) →
      Pool.Action Runtime ThreadId (Except RuntimeError CommandOutput) →
      Pool Runtime Node ThreadId (Except RuntimeError CommandOutput) → Prop} :
    ∀ move ∈ twoDeployments, Pool.Scheduled (deployments Sample.executor) cond move := by
  intro move member
  simp only [twoDeployments, List.mem_cons, List.not_mem_nil, or_false] at member
  rcases member with rfl | rfl | rfl | rfl
  · exact ⟨_, rfl⟩
  · exact ⟨_, rfl⟩
  · trivial
  · trivial

theorem admission_bounded_two : ∃ s : Pool Runtime Node ThreadId (Except RuntimeError CommandOutput),
    s.world.docker.runningProjects = {Sample.uuid 1} ∧
    s.world.docker.runningProjects.card ≤ Sample.executor.containers.maxActiveContainers.toNat := by
  have finished : ∃ s, Pool.play readableScript twoDeployments (Pool.empty Sample.node) = some s ∧
      decide (s.world.docker.runningProjects = {Sample.uuid 1}) = true := by
    apply (Option.any_eq_true ..).mp
    decide +kernel
  obtain ⟨s, played, running⟩ := finished
  refine ⟨s, of_decide_eq_true running, ?_⟩
  apply admission_bounded Sample.executor Sample.node (Nat.zero_le _) s
  exact Pool.play_sound (fun _ _ _ => undisturbed_scripted) readableScript_sound
    scheduled_twoDeployments played

/-- The start of the first deployment times out while it waits for `docker run`. -/
def timedOutScript : NodeScript :=
  { Sample.script with
    fires := fun _ which op =>
      match which, op with
      | .startTimeout, .process spec =>
          match spec.line with
          | .docker (.run options) => decide (options.name = (Sample.deployment 1).container)
          | _ => false
      | _, _ => false }

/-- The container of a start that timed out comes up when another project has taken its place. -/
theorem admission_exceeded : ∃ s : Pool Runtime Node ThreadId (Except RuntimeError CommandOutput),
    Pool.Runs (deployments Sample.executor) (fun _ _ _ => True) (Pool.empty Sample.node) s ∧
    Sample.node.docker.runningProjects.card ≤
      Sample.executor.containers.maxActiveContainers.toNat ∧
    Sample.executor.containers.maxActiveContainers.toNat < s.world.docker.runningProjects.card := by
  have finished : ∃ s, Pool.play timedOutScript.script (twoDeployments ++ [.drift landed])
      (Pool.empty Sample.node) = some s ∧
      decide (Sample.executor.containers.maxActiveContainers.toNat <
        s.world.docker.runningProjects.card) = true := by
    apply (Option.any_eq_true ..).mp
    decide +kernel
  obtain ⟨s, played, exceeded⟩ := finished
  refine ⟨s, ?_, Nat.zero_le _, of_decide_eq_true exceeded⟩
  apply Pool.play_sound (fun _ _ _ _ => trivial) _ _ played
  · intro thread
    exact ⟨(timedOutScript.sound thread).answer, (timedOutScript.sound thread).leave⟩
  · intro move member
    rcases List.mem_append.mp member with first | last
    · exact scheduled_twoDeployments move first
    · obtain rfl := List.mem_singleton.mp last
      exact fun s world lands => ⟨⟨0, .inl (lands_of_landed lands)⟩, trivial⟩

end Admission

end SakalaAgent
