/-
Module: SakalaAgent.Proofs.StopOrder
Layer: Proofs
Purpose: In which order a command that stops a workload takes away its route and stops its container:
  between the two, traffic is routed to a container that the command has stopped.
Trusted boundary: none
Main exports: RoutesTo, StoppedBy, traffic_to_stopped_exact, stopped_before_its_route
-/
import SakalaAgent.Proofs.Stopping

namespace SakalaAgent

open Async

/-- The route file of the project names the deployment. -/
def Node.RoutesTo (node : Node) (projectId deploymentId : Uuid) : Prop :=
  ∃ content, node.files (siteFile projectId) = some (.file content) ∧
    Text.startsWith content.text (deploymentPrefix projectId deploymentId) = true

/-- The command has asked Docker to stop the container, and the container runs no more. -/
def StoppedBy (container : Container) (h : History Runtime) (node : Node) : Prop :=
  (∃ graceSeconds result,
    .done (.process (ContainerEngine.docker (.stop graceSeconds container.shortId))) result ∈ h) ∧
  ∀ after ∈ node.docker.containers, after.id = container.id → after.isListed = false

section StopOrder

variable {executor : DockerRuntimeExecutor} {request : WorkloadLifecycleRequest} {remove : Bool}
  {thread : ThreadId} {node node' : Node} {container : Container} {h : History Runtime}

/-! ### A container that does not run -/

/-- The process stops no container. -/
def CommandLine.stopsNone : CommandLine → Bool
  | .docker (.stop _ _) => false
  | _ => true

/-- No container has been stopped. -/
def NoneStopped (_node : Node) (h : History Runtime) : Prop :=
  ∀ spec result, .done (.process spec) result ∈ h → spec.line.stopsNone = true

theorem noneStopped_preserved (thread : ThreadId) : Prog.Preserves (runtimeSemantics thread)
    (Starts fun line => line.stopsNone = true) NoneStopped where
  done op starts node h res node' none _ := by
    intro spec result member
    rcases List.mem_append.mp member with old | new
    · exact none spec result old
    · cases List.mem_singleton.mp new
      exact starts
  abandoned op _ node h outcome node' none _ := by
    intro spec result member
    rcases List.mem_append.mp member with old | new
    · exact none spec result old
    · cases List.mem_singleton.mp new
  fired which op node h none := by
    intro spec result member
    rcases List.mem_append.mp member with old | new
    · exact none spec result old
    · cases List.mem_singleton.mp new
  drift node h node' none _ := none

theorem stopsNone_of_isQuiet (line : CommandLine) (quiet : line.isQuiet = true) :
    line.stopsNone = true := by
  unfold CommandLine.isQuiet at quiet
  unfold CommandLine.stopsNone
  split
  · cases quiet
  · rfl

/-- What follows the lookup of a container that is not up stops none. -/
theorem starts_stopWorkload {workload : ManagedWorkload} (down : isUpStatus workload.status = false) :
    Fallible.AllOps (Starts fun line => line.stopsNone = true)
      (executor.stopWorkload workload remove) := by
  have stop : ContainerEngine.stop workload 10 = pure () :=
    if_neg (Bool.eq_false_iff.mp down)
  unfold DockerRuntimeExecutor.stopWorkload
  rw [stop]
  apply Fallible.allOps_bind (Fallible.allOps_pure _)
  intro _
  apply Fallible.allOps_bind (starts_deactivate stopsNone_of_isQuiet _ _)
  intro _
  have removes : Fallible.AllOps (Asks fun line => line.stopsNone = true)
      (ContainerEngine.remove workload) := by
    apply asks_runContainerCommand
    rfl
  apply Fallible.allOps_bind ((asks_onlyIf remove removes).mono fun _ => Asks.starts)
  · intro _
    exact Fallible.allOps_bind ((asks_emitEvent _ _ _).mono fun _ => Asks.starts) fun _ => trivial

/-- Of a container that is not up, nothing is stopped anywhere in a run. -/
theorem noneStopped_of_down
    (target : node.docker.Target request.projectId request.deploymentId container)
    (alone : node.inFlight = []) (down : container.isUp = false)
    {rest : Prog Runtime (Except RuntimeError CommandOutput)}
    (comes : Prog.Comes (runtimeSemantics thread) (executor.runStop request remove).run node [] rest
      node' h) : NoneStopped node' h := by
  unfold DockerRuntimeExecutor.runStop at comes
  rw [workload_eq, bind_assoc] at comes
  have kept := noneStopped_preserved thread
  rcases Fallible.comes_perform comes with ⟨rfl, _⟩ | ⟨node₀, result, node₁, drifts, step, later⟩
  · intro spec result member
    cases member
  obtain rfl := Node.eq_of_drifts rfl alone drifts
  have start : NoneStopped node₁
      ([] ++ [.done (.process (workloadListing request.projectId request.deploymentId)) result]) := by
    intro spec result member
    cases List.mem_singleton.mp member
    rfl
  cases read : workloadOutcome request.projectId request.deploymentId result with
  | error error =>
      rw [read] at later
      refine kept.comes ?_ start later
      trivial
  | ok found =>
      rw [read] at later
      obtain ⟨workload, known, parsed⟩ := target.parseWorkload
      obtain ⟨output, succeeded, printed, verdict⟩ := read_of_processOutcome read
      obtain rfl : found = some workload := by
        unfold workloadVerdict at verdict
        split at verdict
        · rename_i success
          have listing : result.stdout = _ := step.1 (succeeded ▸ success)
          rw [printed, listing, parsed] at verdict
          exact (Except.ok.inj verdict).symm
        · cases verdict
      have isDown : isUpStatus workload.status = false := by
        rw [known.status]
        exact down
      exact kept.comes (starts_stopWorkload isDown) start later

/-! ### A container that is up -/

/-- The listing of the containers of a deployment. -/
def workloadLines (docker : DockerState) (projectId deploymentId : Uuid) : ProcessResult where
  lines := (docker.psLines true false (workloadFilters projectId deploymentId) workloadColumns).map
    fun line => (.stdout, line)
  finish := .ok (some 0)

theorem exec_workload (thread : ThreadId) {projectId deploymentId : Uuid}
    (target : node.docker.Target projectId deploymentId container) :
    ∃ workload : ManagedWorkload, workload.Of projectId deploymentId container ∧
      Exec (runtimeSemantics thread) (ContainerEngine.workload projectId deploymentId).run node []
        (.ok (some workload)) node [.done (.process (workloadListing projectId deploymentId))
          (workloadLines node.docker projectId deploymentId)] := by
  obtain ⟨workload, known, parsed⟩ := target.parseWorkload
  have stdout : (workloadLines node.docker projectId deploymentId).stdout =
      node.docker.psLines true false (workloadFilters projectId deploymentId) workloadColumns := by
    simp [workloadLines, ProcessResult.stdout, List.filterMap_map]
  have succeeded : (workloadLines node.docker projectId deploymentId).success = true := rfl
  obtain ⟨output, read, success, printed⟩ :=
    @processOutcome_of_success (workloadListing projectId deploymentId) _ succeeded
  have outcome : workloadOutcome projectId deploymentId
      (workloadLines node.docker projectId deploymentId) = .ok (some workload) := by
    have verdict : workloadVerdict projectId deploymentId output = .ok (some workload) := by
      rw [workloadVerdict, if_pos success, printed, stdout, parsed]
    exact (congrArg (· >>= workloadVerdict projectId deploymentId) read).trans verdict
  have ended : Exec (runtimeSemantics thread) (Fallible.ofExcept (workloadOutcome projectId
      deploymentId (workloadLines node.docker projectId deploymentId)) :
        RuntimeM (Option ManagedWorkload)).run node
      ([] ++ [.done (.process (workloadListing projectId deploymentId))
        (workloadLines node.docker projectId deploymentId)]) (.ok (some workload)) node
      ([] ++ [.done (.process (workloadListing projectId deploymentId))
        (workloadLines node.docker projectId deploymentId)]) := by
    rw [outcome]
    exact .ret ..
  exists workload, known
  rw [workload_eq]
  exact .call (.refl node) (workloadLines node.docker projectId deploymentId)
    ⟨fun _ => stdout, node.settled_of_isQuiet _ true rfl⟩ ended

/-- Where Docker stops a container that is up, its route is as it was. -/
theorem comes_stopped (thread : ThreadId)
    (target : node.docker.Target request.projectId request.deploymentId container)
    (isUp : container.isUp = true) : ∃ rest node' h,
      Prog.Comes (runtimeSemantics thread) (executor.runStop request remove).run node [] rest node' h ∧
        node'.files = node.files ∧ StoppedBy container h node' := by
  obtain ⟨workload, known, found⟩ := exec_workload thread target
  let stopped : Node := { node with
    docker := node.docker.setStatus container.id DockerState.exitedStatus (by decide) }
  have stop : ContainerEngine.stop workload 10 =
      ContainerEngine.runContainerCommand (.stop 10 container.shortId) "docker-stop" := by
    unfold ContainerEngine.stop
    rw [known.status, known.containerId]
    exact if_pos isUp
  let result : ProcessResult := { lines := [], finish := .ok (some 0) }
  have step : (runtimeSemantics thread).step node
      (.process (ContainerEngine.docker (.stop 10 container.shortId))) result stopped :=
    ⟨trivial, node.files, stopped.docker, fun _ => rfl, rfl,
      .inl (.stop 10 container.shortId container DockerState.exitedStatus (by decide) target.named
        (by decide))⟩
  have stops : ∀ h, ∃ rest, Prog.Comes (runtimeSemantics thread)
      (executor.stopWorkload workload remove).run node h rest stopped (h ++
        [.done (.process (ContainerEngine.docker (.stop 10 container.shortId))) result]) := by
    intro h
    unfold DockerRuntimeExecutor.stopWorkload
    rw [stop]
    exact ⟨_, .call result step (.refl ..)⟩
  obtain ⟨rest, comes⟩ := stops [.done (.process
    (workloadListing request.projectId request.deploymentId))
      (workloadLines node.docker request.projectId request.deploymentId)]
  refine ⟨rest, stopped, _, Prog.comes_bind found comes, rfl, ⟨10, result, by simp⟩, ?_⟩
  intro after member same
  obtain ⟨before, _, rfl⟩ := List.mem_map.mp member
  by_cases sameId : before.id = container.id
  · rw [if_pos sameId]
    exact (by decide : isListedStatus DockerState.exitedStatus = false)
  · rw [if_neg sameId] at same
    exact absurd same sameId

/-- The route of a workload never leads to a container that the command has stopped exactly when the
container was not up when the command found it. -/
theorem traffic_to_stopped_exact (executor : DockerRuntimeExecutor)
    (request : WorkloadLifecycleRequest) (remove : Bool) (thread : ThreadId) (node : Node)
    (container : Container)
    (target : node.docker.Target request.projectId request.deploymentId container)
    (alone : node.inFlight = [])
    (active : node.RoutesTo request.projectId request.deploymentId) :
    (∀ rest node' h, Prog.Comes (runtimeSemantics thread) (executor.runStop request remove).run node []
      rest node' h → ¬(node'.RoutesTo request.projectId request.deploymentId ∧
        StoppedBy container h node')) ↔ container.isUp = false := by
  constructor
  · intro never
    apply Bool.eq_false_iff.mpr
    intro isUp
    obtain ⟨rest, node', h, comes, files, stopped⟩ := comes_stopped thread target isUp
    refine never rest node' h comes ⟨?_, stopped⟩
    rw [Node.RoutesTo, files]
    exact active
  · rintro down rest node' h comes ⟨_, ⟨graceSeconds, result, asked⟩, _⟩
    have none := noneStopped_of_down target alone down comes
    exact absurd (none _ result asked) Bool.false_ne_true

end StopOrder

/-- A node on which the route of the workload is active. -/
def Sample.routedNode (isRestarting : Bool) : Node :=
  { Sample.managedNode isRestarting with
    files := Function.update Sample.node.files (siteFile Sample.lifecycle.projectId)
      (some (.file ⟨deploymentPrefix Sample.lifecycle.projectId Sample.lifecycle.deploymentId, []⟩)) }

theorem Sample.routed (isRestarting : Bool) :
    (Sample.routedNode isRestarting).RoutesTo Sample.lifecycle.projectId
      Sample.lifecycle.deploymentId :=
  ⟨⟨deploymentPrefix Sample.lifecycle.projectId Sample.lifecycle.deploymentId, []⟩, rfl, by decide⟩

/-- The container is stopped before its route is taken away. -/
theorem stopped_before_its_route :
    ¬∀ rest node' h, Prog.Comes (runtimeSemantics 0) (Sample.executor.runStop Sample.lifecycle true).run
      (Sample.routedNode false) [] rest node' h →
        ¬(node'.RoutesTo Sample.lifecycle.projectId Sample.lifecycle.deploymentId ∧
          StoppedBy (Sample.managedContainer false) h node') := by
  intro never
  have reached : ∃ rest node' h, Prog.Comes (runtimeSemantics 0)
      (Sample.executor.runStop Sample.lifecycle true).run (Sample.routedNode false) [] rest node' h ∧
        node'.files = (Sample.routedNode false).files ∧
        StoppedBy (Sample.managedContainer false) h node' :=
    comes_stopped 0 (Sample.target false) (by decide)
  obtain ⟨rest, node', h, comes, files, stopped⟩ := reached
  refine never rest node' h comes ⟨?_, stopped⟩
  rw [Node.RoutesTo, files]
  exact Sample.routed false

theorem traffic_to_restarting : (Sample.managedContainer true).isUp = false ∧
    ∀ rest node' h, Prog.Comes (runtimeSemantics 0)
      (Sample.executor.runStop Sample.lifecycle true).run (Sample.routedNode true) [] rest node' h →
        ¬(node'.RoutesTo Sample.lifecycle.projectId Sample.lifecycle.deploymentId ∧
          StoppedBy (Sample.managedContainer true) h node') := by
  have down : (Sample.managedContainer true).isUp = false := by decide
  exact ⟨down, (traffic_to_stopped_exact Sample.executor Sample.lifecycle true 0
    (Sample.routedNode true) (Sample.managedContainer true) (Sample.target true) rfl
    (Sample.routed true)).mpr down⟩

end SakalaAgent
