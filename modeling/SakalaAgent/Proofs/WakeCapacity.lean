/-
Module: SakalaAgent.Proofs.WakeCapacity
Layer: Proofs
Purpose: Sequences of lifecycle commands on a node that was empty. Only a deployment asks whether
  there is room for its project; a project that is woken takes the place it had before, whether or
  not another project has taken it since.
Trusted boundary: containers stop and are removed at any time
Main exports: LifecycleCommand, LifecycleCommand.Sequence, LifecycleCommand.wake_within
-/
import SakalaAgent.Proofs.Admission
import SakalaAgent.Proofs.Workloads

namespace SakalaAgent

open Async

/-- The commands of the life of a project. -/
inductive LifecycleCommand where
  | deploy (request : DeployProjectRequest)
  | sleep (request : WorkloadLifecycleRequest)
  | stop (request : WorkloadLifecycleRequest)
  | restart (request : WorkloadLifecycleRequest)
  | wake (request : WorkloadLifecycleRequest)

namespace LifecycleCommand

def run (executor : DockerRuntimeExecutor) : LifecycleCommand → RuntimeM CommandOutput
  | .deploy request => executor.runDeployment request
  | .sleep request => executor.runStop request false
  | .stop request => executor.runStop request true
  | .restart request => executor.runRestart request
  | .wake request => executor.runWake request

/-- The node of one command after the other. -/
def surroundings : Semantics Runtime Node where
  step := Node.step 0
  leave := Node.leave
  drift node node' := ∃ docker, node.docker.Declines docker ∧ node' = { node with docker }

/-- The operation is no listing that cannot be read. -/
def isPresentable (node : Node) : RuntimeOp → Bool
  | .process spec => decide (node.docker.Presentable spec.line)
  | _ => true

/-- The same node, where every listing can be read. -/
def legibly : Semantics Runtime Node :=
  { surroundings with
    step := fun node op res node' =>
      surroundings.step node op res node' ∧ isPresentable node op = true }

/-- The nodes that commands lead to from an empty one, each of them carried out to its end with
success where a condition is met. -/
inductive Sequence (S : Semantics Runtime Node) (executor : DockerRuntimeExecutor)
    (met : Node → LifecycleCommand → Prop) : Node → Prop where
  | empty {node : Node} (noContainers : node.docker.containers = []) :
      Sequence S executor met node
  | next {node node' : Node} {command : LifecycleCommand} {output : CommandOutput}
      {h : History Runtime} (before : Sequence S executor met node) (holds : met node command)
      (completed : Exec S (command.run executor).run node [] (.ok output) node' h) :
      Sequence S executor met node'

/-- A project is woken only if it runs, or if there is room for it. -/
def WakesWithRoom (maximum : Nat) (node : Node) : LifecycleCommand → Prop
  | .wake request => node.docker.Room maximum request.projectId
  | _ => True

instance (maximum : Nat) (node : Node) : (command : LifecycleCommand) →
    Decidable (WakesWithRoom maximum node command)
  | .wake request => inferInstanceAs (Decidable (node.docker.Room maximum request.projectId))
  | .deploy _ | .sleep _ | .stop _ | .restart _ => .isTrue trivial

/-! ### One workload -/

/-- The process may bring up what a reference names, and nothing else. -/
def Revives (reference : Text) (line : CommandLine) : Prop :=
  line.isTame = true ∨ line = .docker (.start reference) ∨
    ∃ graceSeconds, line = .docker (.restart graceSeconds reference)

/-- There is room for a project, and a reference names containers of this project only. -/
structure Revivable (maximum : Nat) (projectId : Uuid) (reference : Text) (docker : DockerState) :
    Prop where
  room : docker.Room maximum projectId
  names : ∀ container ∈ docker.containers, container.Answers reference →
    container.project = some projectId

variable {maximum : Nat} {projectId : Uuid} {reference : Text} {docker docker' : DockerState}
  {node node' : Node}

/-- Containers keep their names and labels, and no other project comes up. -/
theorem Revivable.change (revivable : Revivable maximum projectId reference docker)
    (known : ∀ container ∈ docker'.containers, ∃ before ∈ docker.containers,
      before.id = container.id ∧ before.name = container.name ∧ before.labels = container.labels)
    (subset : docker'.runningProjects ⊆ insert projectId docker.runningProjects) :
    Revivable maximum projectId reference docker' where
  room := by
    apply (Finset.card_le_card _).trans revivable.room
    exact Finset.insert_subset (Finset.mem_insert_self ..) subset
  names := by
    intro container member answers
    obtain ⟨before, present, id, name, labels⟩ := known container member
    have named := revivable.names before present (by
      rw [Container.Answers, id, name]
      exact answers)
    rw [← named, Container.project, Container.project, Container.label, Container.label, labels]

theorem known_setStatus (id status : Text) (plain : Plain status) :
    ∀ container ∈ (docker.setStatus id status plain).containers, ∃ before ∈ docker.containers,
      before.id = container.id ∧ before.name = container.name ∧
        before.labels = container.labels := by
  intro container member
  obtain ⟨before, present, rfl⟩ := List.mem_map.mp member
  refine ⟨before, present, ?_⟩
  split
  · exact ⟨rfl, rfl, rfl⟩
  · exact ⟨rfl, rfl, rfl⟩

theorem known_keep (kept : Container → Bool) :
    ∀ container ∈ (docker.keep kept).containers, ∃ before ∈ docker.containers,
      before.id = container.id ∧ before.name = container.name ∧
        before.labels = container.labels :=
  fun container member => ⟨container, List.mem_of_mem_filter member, rfl, rfl, rfl⟩

theorem Revivable.declines (revivable : Revivable maximum projectId reference docker)
    (declines : docker.Declines docker') : Revivable maximum projectId reference docker' := by
  apply revivable.change
  · cases declines with
    | stops container status plain present ended => exact known_setStatus _ _ _
    | removed container present => exact known_keep _
  · exact declines.runningProjects_subset.trans (Finset.subset_insert ..)

theorem Revivable.effect {command : DockerCommand}
    (revivable : Revivable maximum projectId reference docker)
    (revives : Revives reference (.docker command)) (effect : docker.Effect command docker') :
    Revivable maximum projectId reference docker' := by
  have revived : ∀ {container status plain}, docker.resolve reference = some container →
      Revivable maximum projectId reference (docker.setStatus container.id status plain) := by
    intro container status plain found
    obtain ⟨present, answers⟩ := DockerState.resolve_answers found
    have named := revivable.names container present answers
    exact revivable.change (known_setStatus _ _ _) (DockerState.runningProjects_revive present named)
  rcases revives with tame | starts | ⟨_, restarts⟩
  · apply revivable.change
    · cases effect with
      | run => cases tame
      | start => cases tame
      | restart => cases tame
      | stop graceSeconds reference container status plain found ended => exact known_setStatus _ _ _
      | rm isForced reference container found removable => exact known_keep _
      | _ => exact fun container member => ⟨container, member, rfl, rfl, rfl⟩
    · exact (Effect.runningProjects_subset effect tame).trans (Finset.subset_insert ..)
  · cases starts
    cases effect with
    | start _ container status plain found => exact revived found
  · cases restarts
    cases effect with
    | restart _ _ container status plain found => exact revived found

/-- An operation that revives nothing else keeps a project revivable. -/
theorem Revivable.step {op : RuntimeOp} {res : op.Res}
    (revivable : Revivable maximum projectId reference node.docker)
    (starts : Starts (Revives reference) op) (step : node.step 0 op res node') :
    Revivable maximum projectId reference node'.docker := by
  cases op with
  | process spec =>
      obtain ⟨files, docker, _, rfl, settles⟩ := step.2
      have starts : Revives reference spec.line := starts
      generalize spec.line = line at starts settles
      cases line with
      | docker command =>
          rcases settles with effect | ⟨_, rfl⟩
          · exact revivable.effect starts effect
          · exact revivable
      | _ =>
          obtain rfl : docker = node.docker := settles
          exact revivable
  | _ =>
      rw [Node.docker_of_step (fun _ => by simp) step]
      exact revivable

theorem revivable_preserved (maximum : Nat) (projectId : Uuid) (reference : Text) :
    Prog.Preserves legibly (Starts (Revives reference))
      (fun node _ => Revivable maximum projectId reference node.docker) where
  done _ starts _ _ _ _ revivable step := revivable.step starts step.1
  abandoned op _ node _ outcome node' revivable left := by
    have left : node.leave op outcome node' := left
    rw [Node.docker_of_leave left]
    exact revivable
  fired _ _ _ _ revivable := revivable
  drift _ _ _ revivable drift := by
    obtain ⟨docker, declines, rfl⟩ := drift
    exact revivable.declines declines

theorem within_preserved (maximum : Nat) :
    Prog.Preserves legibly (Starts fun line => line.isTame = true)
      (fun node _ => Admission.Within maximum node) where
  done op starts _ _ _ _ within step := by
    apply Admission.within_of_step _ step.1 within
    cases op with
    | process spec => exact .inl starts
    | _ => trivial
  abandoned op _ node _ outcome node' within left := by
    have left : node.leave op outcome node' := left
    exact within.subset (by rw [Node.docker_of_leave left])
  fired _ _ _ _ within := within
  drift _ _ _ within drift := by
    obtain ⟨docker, declines, rfl⟩ := drift
    exact within.subset declines.runningProjects_subset

/-- A container that was found can be revived where there is room for its project. -/
theorem Revivable.of_found {deploymentId : Uuid} {workload : ManagedWorkload}
    {container : Container} (legible : docker.Legible)
    (found : docker.Found projectId deploymentId workload container)
    (room : docker.Room maximum projectId) :
    Revivable maximum projectId workload.containerId docker where
  room := room
  names other member answers := by
    rw [found.containerId] at answers
    rw [(legible container found.present).2.2.2 other member answers]
    exact found.project

/-- The project of a container that is up runs. -/
theorem room_of_found {deploymentId : Uuid} {workload : ManagedWorkload} {container : Container}
    (found : docker.Found projectId deploymentId workload container)
    (isUp : isUpStatus workload.status = true)
    (within : docker.runningProjects.card ≤ maximum) : docker.Room maximum projectId := by
  have listed : container.isListed = true := by
    rw [found.status] at isUp
    simp [Container.isListed, isListedStatus, isUp]
  have runs := DockerState.mem_runningProjects.mpr
    ⟨container, DockerState.mem_running.mpr ⟨found.present, listed, found.managed⟩, found.project⟩
  rw [DockerState.Room, Finset.insert_eq_self.mpr runs]
  exact within

theorem Revivable.within (revivable : Revivable maximum projectId reference node.docker) :
    Admission.Within maximum node :=
  (Finset.card_le_card (Finset.subset_insert ..)).trans revivable.room

/-! ### The commands -/

variable {α : Type} {h : History Runtime}

/-- Every run keeps to the capacity. -/
abbrev Keeps (maximum : Nat) (p : RuntimeM α) (node : Node) (h : History Runtime) : Prop :=
  p.run.wp legibly (fun _ node _ => Admission.Within maximum node) (fun _ _ => True) node h

theorem keeps_tame {p : RuntimeM α}
    (starts : Fallible.AllOps (Starts fun line => line.isTame = true) p)
    (within : Admission.Within maximum node) : Keeps maximum p node h :=
  Prog.wp_preserved (within_preserved maximum) starts within (fun _ _ _ within => within)
    fun _ _ _ => trivial

theorem keeps_revivable {p : RuntimeM α} (starts : Fallible.AllOps (Starts (Revives reference)) p)
    (revivable : Revivable maximum projectId reference node.docker) : Keeps maximum p node h :=
  Prog.wp_preserved (revivable_preserved maximum projectId reference) starts revivable
    (fun _ _ _ revivable => revivable.within) fun _ _ _ => trivial

/-- A listing changes no container. -/
theorem docker_of_listing {all quiet succeeded : Bool} {filters : List LabelFilter}
    {columns : List PsColumn}
    (settled : node.Settled (.docker (.ps all quiet filters columns)) succeeded node') :
    node'.docker = node.docker := by
  obtain ⟨files, docker, _, rfl, effect | ⟨_, rfl⟩⟩ := settled
  · cases effect
    rfl
  · rfl

/-- A command that goes on with the workload it finds. -/
theorem keeps_workload (Good : DockerState → Prop) {request : WorkloadLifecycleRequest}
    {f : ManagedWorkload → RuntimeM α}
    (stable : ∀ docker docker', Good docker → docker.Declines docker' → Good docker')
    (within : ∀ node : Node, Good node.docker → Admission.Within maximum node)
    (good : Good node.docker)
    (rest : ∀ workload container node h, Good node.docker → node.docker.Legible →
      node.docker.Found request.projectId request.deploymentId workload container →
      Keeps maximum (f workload) node h) :
    Keeps maximum (DockerRuntimeExecutor.workload request >>= f) node h := by
  unfold Keeps DockerRuntimeExecutor.workload
  rw [workload_eq]
  simp only [bind_assoc]
  rw [Fallible.wp_perform]
  intro node₀ drifts
  refine ⟨fun _ _ _ _ => trivial, fun result node' step => ?_⟩
  obtain ⟨⟨truthful, settled⟩, presentable⟩ := step
  have presentable : node₀.docker.Presentable
      (workloadListing request.projectId request.deploymentId).line := of_decide_eq_true presentable
  have same : node'.docker = node₀.docker := docker_of_listing settled
  have still : Good node'.docker := by
    rw [same]
    apply drifts.keeps (fun node => Good node.docker) _ good
    rintro node node' good ⟨docker, declines, rfl⟩
    exact stable _ _ good declines
  rw [Fallible.wp_ofExcept]
  cases found : workloadOutcome request.projectId request.deploymentId result with
  | error error => exact within _ still
  | ok outcome =>
      cases outcome with
      | none => exact within _ still
      | some workload =>
          obtain ⟨container, found⟩ := found_of_workloadOutcome presentable truthful found
          rw [← same] at found
          exact rest workload container node' _ still (same ▸ presentable.1) found

theorem starts_activateWorkload {allowed : CommandLine → Prop}
    (quiet : ∀ line, line.isQuiet = true → allowed line) (executor : DockerRuntimeExecutor)
    (workload : ManagedWorkload) :
    Fallible.AllOps (Starts allowed) (executor.activateWorkload workload) :=
  Fallible.allOps_bind ((asks_waitUntilReady quiet _ _).mono fun _ => Asks.starts)
    fun _ => starts_activate quiet _ _

theorem starts_stopWorkload (executor : DockerRuntimeExecutor) (workload : ManagedWorkload)
    (remove : Bool) : Fallible.AllOps (Starts fun line => line.isTame = true)
      (executor.stopWorkload workload remove) := by
  apply Fallible.allOps_bind
  · simp only [ContainerEngine.stop]
    split
    · apply (asks_runContainerCommand _ _).mono fun _ => Asks.starts
      rfl
    · trivial
  intro _
  apply Fallible.allOps_bind (starts_deactivate (fun _ => CommandLine.isTame_of_isQuiet) _ _)
  intro _
  apply Fallible.allOps_bind
  · apply (asks_onlyIf remove (asks_runContainerCommand _ _)).mono fun _ => Asks.starts
    rfl
  intro _
  exact Fallible.allOps_bind ((asks_emitEvent _ _ _).mono fun _ => Asks.starts) fun _ => trivial

theorem starts_runStop (executor : DockerRuntimeExecutor) (request : WorkloadLifecycleRequest)
    (remove : Bool) : Fallible.AllOps (Starts fun line => line.isTame = true)
      (executor.runStop request remove) := by
  have quiet : ∀ line : CommandLine, line.isQuiet = true → line.isTame = true :=
    fun _ => CommandLine.isTame_of_isQuiet
  apply Fallible.allOps_bind ((asks_workload quiet _ _).mono fun _ => Asks.starts)
  rintro (_ | workload)
  · dsimp only
    split
    · trivial
    · exact Fallible.allOps_bind (starts_deactivate quiet _ _) fun _ => trivial
  · exact starts_stopWorkload executor workload remove

/-- Waking keeps to the capacity where there is room for the project. -/
theorem keeps_runWake (executor : DockerRuntimeExecutor) (request : WorkloadLifecycleRequest)
    (room : node.docker.Room maximum request.projectId) :
    Keeps maximum (executor.runWake request) node h := by
  apply keeps_workload fun docker => docker.Room maximum request.projectId
  · exact fun _ _ room declines => room.mono declines.runningProjects_subset
  · exact fun _ room => (Finset.card_le_card (Finset.subset_insert ..)).trans room
  · exact room
  intro workload container node h room legible found
  apply keeps_revivable _ (.of_found legible found room)
  have quiet : ∀ line : CommandLine, line.isQuiet = true → Revives workload.containerId line :=
    fun _ quiet => .inl (CommandLine.isTame_of_isQuiet quiet)
  apply Fallible.allOps_bind
  · simp only [ContainerEngine.startExisting]
    split
    · trivial
    · exact (asks_runContainerCommand (.inr (.inl rfl)) _).mono fun _ => Asks.starts
  intro _
  apply Fallible.allOps_bind (starts_activateWorkload quiet executor workload)
  intro _
  exact Fallible.allOps_bind ((asks_emitEvent _ _ _).mono fun _ => Asks.starts) fun _ => trivial

/-- A restart finds its project running. -/
theorem keeps_runRestart (executor : DockerRuntimeExecutor) (request : WorkloadLifecycleRequest)
    (within : Admission.Within maximum node) :
    Keeps maximum (executor.runRestart request) node h := by
  apply keeps_workload fun docker => docker.runningProjects.card ≤ maximum
  · exact fun _ _ within declines =>
      (Finset.card_le_card declines.runningProjects_subset).trans within
  · exact fun _ within => within
  · exact within
  intro workload container node h within legible found
  have quiet : ∀ line : CommandLine, line.isQuiet = true → Revives workload.containerId line :=
    fun _ quiet => .inl (CommandLine.isTame_of_isQuiet quiet)
  cases isUp : isUpStatus workload.status with
  | false =>
      simp only [Bool.not_false, if_true]
      exact within
  | true =>
      simp only [Bool.not_true, Bool.false_eq_true, if_false]
      have room := room_of_found found isUp within
      apply keeps_revivable _ (.of_found legible found room)
      apply Fallible.allOps_bind
      · exact (asks_runContainerCommand (.inr (.inr ⟨10, rfl⟩)) _).mono fun _ => Asks.starts
      intro _
      apply Fallible.allOps_bind (starts_activateWorkload quiet executor workload)
      intro _
      exact Fallible.allOps_bind ((asks_emitEvent _ _ _).mono fun _ => Asks.starts) fun _ => trivial

variable {executor : DockerRuntimeExecutor} {outcome : Except RuntimeError CommandOutput}
  {h' : History Runtime}

/-- A deployment is admitted only where there is room. -/
theorem within_deployed {request : DeployProjectRequest}
    (within : Admission.Within executor.containers.maxActiveContainers.toNat node)
    (completed : Exec legibly (executor.runDeployment request).run node h outcome node' h') :
    Admission.Within executor.containers.maxActiveContainers.toNat node' := by
  have safe : (Admission.upholds executor.containers.maxActiveContainers.toNat 0).Safe
      (executor.runDeployment request).run node h :=
    Admission.safe_runDeployment executor request within
  apply Prog.safe_sound _ _ _ completed safe
  · rintro node op res node' ⟨step, presentable⟩
    refine ⟨step, ?_⟩
    rintro rfl
    have presentable : node.docker.Presentable capacityListing.line := of_decide_eq_true presentable
    exact presentable.1.readable presentable.2
  · exact fun left => left
  · rintro h node node' ⟨docker, declines, rfl⟩
    have calm : (Admission.calm 0).drift node { node with docker } :=
      ⟨.inr ⟨docker, declines, rfl⟩, declines.runningProjects_subset⟩
    exact Admission.rely_of_drift calm

theorem within_completed {command : LifecycleCommand}
    (within : Admission.Within executor.containers.maxActiveContainers.toNat node)
    (room : WakesWithRoom executor.containers.maxActiveContainers.toNat node command)
    (completed : Exec legibly (command.run executor).run node h outcome node' h') :
    Admission.Within executor.containers.maxActiveContainers.toNat node' := by
  cases command with
  | deploy request => exact within_deployed within completed
  | sleep request =>
      exact Prog.wp_sound _ completed (keeps_tame (starts_runStop executor request false) within)
  | stop request =>
      exact Prog.wp_sound _ completed (keeps_tame (starts_runStop executor request true) within)
  | restart request => exact Prog.wp_sound _ completed (keeps_runRestart executor request within)
  | wake request => exact Prog.wp_sound _ completed (keeps_runWake executor request room)

/-- Waking within the limit. Whatever commands have succeeded since the node was empty, never more
projects run than it admits, as long as a project is woken only where there is room for it. -/
theorem wake_within (executor : DockerRuntimeExecutor) (node : Node)
    (sequence : Sequence legibly executor
      (WakesWithRoom executor.containers.maxActiveContainers.toNat) node) :
    node.docker.runningProjects.card ≤ executor.containers.maxActiveContainers.toNat := by
  induction sequence with
  | @empty node noContainers =>
      have none : node.docker.runningProjects = ∅ := by
        simp [DockerState.runningProjects, DockerState.running, DockerState.listed, noContainers]
      rw [none]
      exact Nat.zero_le _
  | next before room completed within => exact within_completed within room completed

/-! ### Two projects and one place -/

/-- The nodes that commands lead to under a script. -/
def plays (script : Script Runtime Node) (executor : DockerRuntimeExecutor)
    (allowed : Node → LifecycleCommand → Bool) : List LifecycleCommand → Node → Option Node
  | [], node => some node
  | command :: commands, node =>
      if allowed node command then
        match (command.run executor).run.play script node [] with
        | some (.ok _, node', _) => plays script executor allowed commands node'
        | _ => none
      else none

theorem sequence_of_plays {S : Semantics Runtime Node} {script : Script Runtime Node}
    {met : Node → LifecycleCommand → Prop} {allowed : Node → LifecycleCommand → Bool}
    (sound : script.Sound S) (holds : ∀ node command, allowed node command = true → met node command)
    {commands : List LifecycleCommand} (before : Sequence S executor met node)
    (played : plays script executor allowed commands node = some node') :
    Sequence S executor met node' := by
  induction commands generalizing node with
  | nil =>
      cases played
      exact before
  | cons command commands ih =>
      unfold plays at played
      split at played
      · rename_i may
        split at played
        · rename_i output next h first
          exact ih (before.next (holds node command may) (Prog.play_sound sound first)) played
        · cases played
      · cases played

/-- The lifecycle of the project of a digit. -/
def lifecycle (project : Fin 16) : WorkloadLifecycleRequest where
  commandId := Sample.uuid project
  projectId := Sample.uuid project
  deploymentId := Sample.uuid project

theorem sound_sample : (Sample.script.script 0).Sound surroundings where
  answer answered := (Sample.script.sound 0).answer answered
  leave left := (Sample.script.sound 0).leave left

theorem wake_within_alone : ∃ node : Node,
    node.docker.runningProjects = {Sample.uuid 1} ∧
    node.docker.runningProjects.card ≤ Sample.executor.containers.maxActiveContainers.toNat := by
  have finished : ∃ node, plays ((Sample.script.script 0).guarded isPresentable) Sample.executor
      (fun node command =>
        decide (WakesWithRoom Sample.executor.containers.maxActiveContainers.toNat node command))
      [.deploy (Sample.deployment 1), .sleep (lifecycle 1), .wake (lifecycle 1),
        .restart (lifecycle 1)] Sample.node = some node ∧
      decide (node.docker.runningProjects = {Sample.uuid 1}) = true := by
    apply (Option.any_eq_true ..).mp
    decide +kernel
  obtain ⟨node, played, running⟩ := finished
  refine ⟨node, of_decide_eq_true running, ?_⟩
  apply wake_within Sample.executor node
  exact sequence_of_plays (sound_sample.guarded isPresentable) (fun _ _ => of_decide_eq_true)
    (.empty rfl) played

/-- A project is put to sleep, another takes its place, and then it is woken. -/
theorem wake_exceeds : ∃ (before node : Node) (output : CommandOutput) (h : History Runtime),
    Sequence surroundings Sample.executor (fun _ _ => True) before ∧
    before.docker.runningProjects.card ≤
      Sample.executor.containers.maxActiveContainers.toNat ∧
    Exec surroundings (Sample.executor.runWake (lifecycle 1)).run before [] (.ok output) node h ∧
    Sample.executor.containers.maxActiveContainers.toNat < node.docker.runningProjects.card := by
  have finished : ∃ before, plays (Sample.script.script 0) Sample.executor (fun _ _ => true)
      [.deploy (Sample.deployment 1), .sleep (lifecycle 1), .deploy (Sample.deployment 2)]
      Sample.node = some before ∧
      (decide (before.docker.runningProjects.card ≤
          Sample.executor.containers.maxActiveContainers.toNat) &&
        ((Sample.executor.runWake (lifecycle 1)).run.play (Sample.script.script 0) before []).any
          fun (result, node, _) => result.isOk &&
            decide (Sample.executor.containers.maxActiveContainers.toNat <
              node.docker.runningProjects.card)) = true := by
    apply (Option.any_eq_true ..).mp
    decide +kernel
  obtain ⟨before, played, checked⟩ := finished
  obtain ⟨within, woken⟩ := Bool.and_eq_true_iff.mp checked
  obtain ⟨⟨result, node, h⟩, wakes, exceeds⟩ := (Option.any_eq_true ..).mp woken
  cases result with
  | error error => cases exceeds
  | ok output =>
      refine ⟨before, node, output, h, ?_, of_decide_eq_true within, Prog.play_sound sound_sample wakes,
        of_decide_eq_true exceeds⟩
      exact sequence_of_plays sound_sample (fun _ _ _ => trivial) (.empty rfl) played

end LifecycleCommand

end SakalaAgent
