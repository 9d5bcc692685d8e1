/-
Module: SakalaAgent.Proofs.ReportedDeployments
Layer: Proofs
Purpose: What the control plane is told of a deployment, and what became of it. A deployment over Docker
  yields its output only behind its cutover, and is marked with nothing but that output; from there the
  terminal report of the command is followed to its result, which is read as the one of a deployment.
Trusted boundary: none
Main exports: deferredOutput_deploymentOutput, warranted_runDeployment, warranted_dispatch,
  deployment_reported
-/
import SakalaAgent.App.Agent
import SakalaAgent.Proofs.Orders
import SakalaAgent.Proofs.RuntimeFutures
import SakalaAgent.Proofs.TerminalReport
import SakalaAgent.Runtime.NodeScript

namespace SakalaAgent

open Async

namespace ReportedDeployment

/-! ### Results -/

variable {requested : RuntimeResourceLimits} {applied : AppliedRuntimeResources}

theorem encode_runtimeResourceLimits :
    Wire.runtimeResourceLimits.encode requested = requested.toJson := by
  obtain ⟨memoryMb, cpuMillis, pidsLimit⟩ := requested
  cases memoryMb <;> cases cpuMillis <;> cases pidsLimit <;> rfl

/-- The output of a deployment is its result as the protocol writes it. -/
theorem deploymentOutput_result : (deploymentOutput requested applied).result =
    Wire.deployProjectResult.encode { requestedResources := requested, appliedResources := applied } := by
  rw [deploymentOutput, ← encode_runtimeResourceLimits]
  rfl

/-- So is the output whose finalization was left to the control plane. -/
theorem deferredOutput_result {reason : FinalizationDeferredReason} :
    (deferredOutput (deploymentOutput requested applied) reason).result =
      Wire.deployProjectResult.encode
        { requestedResources := requested
          appliedResources := applied
          finalizationDeferred := true
          finalizationDeferredReason := some reason } := by
  rw [deploymentOutput, ← encode_runtimeResourceLimits]
  cases reason <;> rfl

/-! ### The deployment over Docker -/

section Docker

variable {executor : DockerRuntimeExecutor} {request : DeployProjectRequest} {deployment : Deployment}
  {P : CommandOutput → Prop} {h : History Runtime}

/-- The output is that of a deployment of the payload. -/
def IsOutputOf (executor : DockerRuntimeExecutor) (payload : DeployProjectPayload)
    (output : CommandOutput) : Prop :=
  ∃ applied, executor.resourceSafety.resolve payload.resources = .ok applied ∧
    output = deploymentOutput payload.resources applied

/-- A mark is one with an output that is allowed. -/
def Marks (P : CommandOutput → Prop) : RuntimeOp → Prop
  | .markDeploymentCommitted output => P output
  | _ => True

/-- The deployment is marked as committed. -/
def Marked (h : History Runtime) : Prop :=
  ∃ output, Event.done (I := Runtime) (.markDeploymentCommitted output) () ∈ h

theorem Marked.grows {h h' : History Runtime} (longer : h.Sublist h') (marked : Marked h) : Marked h' :=
  marked.imp fun _ member => longer.subset member

theorem admits_marks : Admits (Marks P) where
  process _ _ _ := trivial
  log _ := trivial
  event _ := trivial
  sleep := trivial
  isCancelled := trivial

theorem admitsRoutes_marks : AdmitsRoutes (Marks P) where
  file _ := trivial
  spawns op spawns := by
    cases op with
    | process | log => trivial
    | _ => exact spawns.elim
  lock := trivial
  release := trivial

theorem marks_buildImage : Fallible.AllOps (Marks P) (executor.buildImage deployment) := by
  apply Fallible.allOps_bind (Fallible.allOps_perform trivial)
  intro acquired
  split
  · exact Fallible.allOps_throw _
  · apply Fallible.allOps_bind
    · apply Fallible.allOps_attempt
      apply Fallible.allOps_bind (admits_marks.emitEvent _ _ _)
      intro _
      exact Admits.withTimeout (admits_marks.build _ (fun _ _ => trivial) fun _ _ => trivial)
    · intro built
      exact Fallible.allOps_bind (Fallible.allOps_perform trivial) fun _ => Fallible.allOps_ofExcept _

theorem marks_startCandidate : Fallible.AllOps (Marks P) (executor.startCandidate deployment) := by
  apply Fallible.allOps_bind (admits_marks.emitEvent _ _ _)
  intro _
  apply Fallible.allOps_bind
  · apply Fallible.allOps_attempt
    apply Admits.withTimeout
    apply Fallible.allOps_bind (Fallible.allOps_perform trivial)
    intro _
    apply Fallible.allOps_bind
    · apply Fallible.allOps_attempt
      apply Fallible.allOps_bind (admits_marks.ensureCapacity _ _)
      exact fun _ => admits_marks.start (fun _ _ => trivial) _ rfl fun _ => trivial
    · intro started
      apply Fallible.allOps_bind (Fallible.allOps_perform trivial)
      intro _
      exact Fallible.allOps_bind (Fallible.allOps_ofExcept _) fun _ => admits_marks.waitUntilReady _ _
  · intro started
    exact Fallible.allOps_bind (Fallible.allOps_perform trivial) fun _ => Fallible.allOps_ofExcept _

/-- A part of a deployment of which nothing needs to be known, where only success is told of. -/
theorem warranted_marks_bind {α β : Type} {p : RuntimeM α} {f : α → RuntimeM β}
    {good : β → History Runtime → Prop} (ops : Fallible.AllOps (Marks P) p)
    (rest : ∀ value h, (f value).run.Warranted (fun _ op => Marks P op)
      (fun outcome h => ∀ own, outcome = .ok own → good own h) h) :
    (p >>= f).run.Warranted (fun _ op => Marks P op)
      (fun outcome h => ∀ own, outcome = .ok own → good own h) h :=
  Fallible.warranted_any_bind ops (fun _ _ marks => marks) rest fun _ _ _ same => by cases same

/-- A part of a deployment that comes behind its end, where the mark stays. -/
theorem warranted_marked_bind {α β : Type} {p : RuntimeM α} {f : α → RuntimeM β}
    {good : β → History Runtime → Prop} {result : Except RuntimeError Unit}
    (ops : Fallible.AllOps (Marks P) p) (marked : result = .ok () → Marked h)
    (rest : ∀ value h, (result = .ok () → Marked h) →
      (f value).run.Warranted (fun _ op => Marks P op)
        (fun outcome h => ∀ own, outcome = .ok own → good own h) h) :
    (p >>= f).run.Warranted (fun _ op => Marks P op)
      (fun outcome h => ∀ own, outcome = .ok own → good own h) h := by
  have grows : ∀ h h' : History Runtime, h.Sublist h' → (result = .ok () → Marked h) →
      (result = .ok () → Marked h') :=
    fun _ _ longer marked same => (marked same).grows longer
  exact Fallible.warranted_keeps_bind grows ops (fun _ _ marks => marks) marked rest
    fun _ _ _ _ same => by cases same

/-- The future of a deployment that succeeds has been marked. -/
theorem warranted_deployInner
    (output : P (deploymentOutput deployment.payload.resources deployment.prepared.appliedResources)) :
    (executor.deployInner deployment).run.Warranted (fun _ op => Marks P op)
      (fun outcome h => outcome = .ok () → Marked h) h := by
  have allowed : ∀ (h : History Runtime) op, Marks P op → Marks P op := fun _ _ marks => marks
  apply Fallible.warranted_any_bind marks_buildImage allowed ?_ (fun _ _ same => by cases same)
  intro builder h
  apply Fallible.warranted_any_bind marks_startCandidate allowed ?_ (fun _ _ same => by cases same)
  intro _ h
  apply Fallible.warranted_any_bind (admitsRoutes_marks.activate _ _) allowed ?_
    (fun _ _ same => by cases same)
  intro _ h
  refine ⟨trivial, fun _ => ⟨output, fun _ => ?_⟩⟩
  have finalized : Fallible.AllOps (Marks P)
      (DockerRuntimeExecutor.finalizeDeployment deployment builder) :=
    admits_marks.finalizeDeployment (fun _ => trivial) (fun _ => trivial) (fun _ => trivial) _ _
  apply Prog.warranted_mono (Prog.warranted_of_allOps finalized allowed)
  rintro outcome _ ⟨run, rfl, -⟩ -
  refine ⟨_, List.mem_append_left run (List.mem_append_right _ (List.mem_singleton_self _))⟩

/-- A deployment that is cancelled is not finished with success, unless it was marked before. -/
theorem warranted_untilCancelled {future : RuntimeM Unit}
    (deploys : future.run.Warranted (fun _ op => Marks P op)
      (fun outcome h => outcome = .ok () → Marked h) h) :
    (untilCancelled future).run.Warranted (fun _ op => Marks P op)
      (fun outcome h => ∀ result, outcome = .ok result → result = .ok () → Marked h) h := by
  have grows : ∀ op, Prog.Grows fun (_ : History Runtime) => Marks P op := fun _ _ _ _ marks => marks
  have growsQ : ∀ outcome : Except RuntimeError Unit,
      Prog.Grows fun h => outcome = .ok () → Marked h :=
    fun _ _ _ longer marked same => (marked same).grows longer
  apply Prog.warranted_bind
  apply Prog.warranted_race grows growsQ deploys
  · intro rest h waits
    refine ⟨trivial, fun activated => ?_⟩
    have later := waits.grow grows growsQ
      (List.sublist_append_left h [.done (I := Runtime) .routeActivated activated])
    cases activated with
    | true =>
        apply Prog.warranted_mono later
        rintro outcome h marked result ⟨⟩ same
        exact marked same
    | false =>
        apply Prog.warranted_drop grows ?_ later ?_
        · rintro outcome h h' longer marked result same isOk
          exact (marked result same isOk).grows longer
        · rintro result ⟨⟩ same
          cases same
  · rintro outcome h marked result ⟨⟩ same
    exact marked same

theorem warranted_runCheckedOut
    (output : P (deploymentOutput deployment.payload.resources deployment.prepared.appliedResources)) :
    (executor.runCheckedOut deployment).run.Warranted (fun _ op => Marks P op)
      (fun outcome h => ∀ own, outcome = .ok own → P own ∧ Marked h) h := by
  refine ⟨trivial, fun _ => ?_⟩
  apply Fallible.warranted_bind
  apply Prog.warranted_mono (warranted_untilCancelled (warranted_deployInner output))
  intro outcome h marked
  cases outcome with
  | error error =>
      intro own same
      cases same
  | ok result =>
      have cleaned : Fallible.AllOps (Marks P)
          (DockerRuntimeExecutor.cleanupFailed deployment result) :=
        admits_marks.cleanupFailed trivial trivial trivial result
      apply warranted_marked_bind cleaned (marked result rfl)
      intro _ h marked
      apply warranted_marked_bind
        (Fallible.allOps_attempt (Admits.cleanup fun _ _ => trivial)) marked
      intro cleaned h marked
      apply warranted_marked_bind (admits_marks.warnOnError cleaned _) marked
      intro _ h marked
      have dropped : Fallible.AllOps (Marks P) DockerRuntimeExecutor.dropDeployment :=
        ⟨trivial, fun _ => ⟨trivial, fun _ => ⟨trivial, fun _ => trivial⟩⟩⟩
      apply warranted_marked_bind dropped marked
      intro _ h marked
      cases result with
      | error error =>
          intro own same
          cases same
      | ok _ =>
          rintro own ⟨⟩
          exact ⟨output, marked rfl⟩

/-- What is prepared for a deployment holds the resources it is given. -/
theorem warranted_prepareDeployment :
    (executor.prepareDeployment request).run.Warranted (fun _ op => Marks P op)
      (fun outcome _ => ∀ prepared, outcome = .ok prepared →
        executor.resourceSafety.resolve request.payload.resources = .ok prepared.appliedResources) h := by
  apply Fallible.warranted_ofExcept_bind ?_ fun _ _ same => by cases same
  intro _ _
  apply Fallible.warranted_ofExcept_bind ?_ fun _ _ same => by cases same
  intro appliedTimeouts _
  apply Fallible.warranted_ofExcept_bind ?_ fun _ _ same => by cases same
  intro appliedResources resolved
  apply Fallible.warranted_ofExcept_bind ?_ fun _ _ same => by cases same
  intro source _
  have capacity : Fallible.AllOps (Marks P) executor.ensureWorkspaceCapacity := by
    apply Fallible.allOps_bind (admits_marks.availableDiskBytes _)
    intro available
    split <;> trivial
  apply warranted_marks_bind capacity
  intro _ h
  apply warranted_marks_bind (admits_marks.ensureCapacity _ _)
  intro _ h
  apply warranted_marks_bind (admits_marks.emitEvent _ _ _)
  intro _ h
  apply warranted_marks_bind (admits_marks.emitEvent _ _ _)
  intro _ h
  apply warranted_marks_bind (admits_marks.emitEvent _ _ _)
  intro _ h
  apply warranted_marks_bind (admits_marks.checkout _ (fun _ _ => trivial) _)
  rintro workspace h prepared ⟨⟩
  exact resolved

theorem warranted_runDeployment
    (outputs : ∀ output, IsOutputOf executor request.payload output → P output) :
    (executor.runDeployment request).run.Warranted (fun _ op => Marks P op)
      (fun outcome h => ∀ own, outcome = .ok own → P own ∧ Marked h) h := by
  apply Fallible.warranted_bind
  apply Prog.warranted_mono warranted_prepareDeployment
  intro outcome h resolved
  cases outcome with
  | error error =>
      intro own same
      cases same
  | ok prepared =>
      exact warranted_runCheckedOut (outputs _ ⟨_, resolved prepared rfl, rfl⟩)

end Docker

/-! ### The deployment behind the port -/

section Dispatch

variable {agent : Agent} {command : AgentCommand} {P : CommandOutput → Prop} {h : Trace Runtime}

/-- What the execution of a command may ask for, where every mark is one with an output that is
allowed. -/
def Executes (P : CommandOutput → Prop) (op : ProcessingOp Runtime) : Prop :=
  op.OfExecution ∧ ∀ output, op = .markDeploymentCommitted output → P output

theorem executes_processingOp {commandId : Uuid} {op : RuntimeOp} (marks : Marks P op) :
    Executes P (processingOp commandId op) := by
  refine ⟨(ofRuntime_processingOp commandId op).ofExecution, fun output same => ?_⟩
  cases op with
  | markDeploymentCommitted own =>
      cases same
      exact marks
  | _ => cases same

/-- A mark of the runtime is one of the command. -/
def SameMarks (h : History Runtime) (h' : Trace Runtime) : Prop :=
  Marked h → cutoverMarks h' ≠ []

theorem cutoverMarks_grows {h h' : Trace Runtime} (longer : h.Sublist h')
    (marked : cutoverMarks h ≠ []) : cutoverMarks h' ≠ [] := by
  intro none
  have kept : (cutoverMarks h).Sublist (cutoverMarks h') := longer.filterMap _
  rw [none] at kept
  exact marked (List.sublist_nil.mp kept)

theorem SameMarks.append {h : History Runtime} {h' : Trace Runtime} {event : Event Runtime}
    {event' : Event (Processing Runtime)} (same : SameMarks h h')
    (own : Marked [event] → cutoverMarks [event'] ≠ []) :
    SameMarks (h ++ [event]) (h' ++ [event']) := by
  rintro ⟨output, member⟩
  rcases List.mem_append.mp member with before | last
  · exact cutoverMarks_grows (List.sublist_append_left _ _) (same ⟨output, before⟩)
  · exact cutoverMarks_grows (List.sublist_append_right _ _) (own ⟨output, last⟩)

theorem relates_sameMarks (client : ApiClient) (commandId : Uuid) :
    Prog.Embedding.Relates (runtimePort client commandId) SameMarks where
  done h h' op res same := by
    apply same.append
    rintro ⟨output, member⟩
    have marks := List.mem_singleton.mp member
    cases op with
    | markDeploymentCommitted own => exact List.cons_ne_nil _ _
    | _ => cases marks
  abandoned h h' op outcome same := by
    apply same.append
    rintro ⟨output, member⟩
    cases List.mem_singleton.mp member
  fired h h' which op same := by
    apply same.append
    rintro ⟨output, member⟩
    cases List.mem_singleton.mp member

theorem warranted_portedFuture {client : ApiClient} {commandId : Uuid}
    {future : RuntimeM CommandOutput}
    (runs : future.run.Warranted (fun _ op => Marks P op)
      (fun outcome h => ∀ own, outcome = .ok own → P own ∧ Marked h) []) :
    (portedFuture client commandId future).run.run.Warranted (fun _ op => Executes P op)
      (fun outcome h => ∀ own, outcome = .ok own → P own ∧ cutoverMarks h ≠ []) h := by
  have related : SameMarks [] h := by
    rintro ⟨_, member⟩
    cases member
  apply Prog.warranted_bind
  apply Prog.warranted_mono (Prog.warranted_embed (relates_sameMarks client commandId)
    (fun _ _ _ _ => executes_processingOp) runs related)
  rintro outcome h' ⟨h, same, holds⟩ own isOk
  cases outcome with
  | error error => cases isOk
  | ok output =>
      cases isOk
      obtain ⟨isP, marked⟩ := holds own rfl
      exact ⟨isP, same marked⟩

/-- The output is that of the deployment that the command orders. -/
def IsDeploymentOf (agent : Agent) (command : AgentCommand) (output : CommandOutput) : Prop :=
  ∃ payload, Wire.deployProjectPayload.Represents payload command.payload ∧
    IsOutputOf agent.executor payload output

theorem warranted_dispatch (deploys : command.commandType = .deployProject) :
    ((agent.dispatcher command.id).dispatch command).run.Warranted
      (fun _ op => Executes (IsDeploymentOf agent command) op)
      (fun outcome h => ∀ own, outcome = .ok own →
        IsDeploymentOf agent command own ∧ cutoverMarks h ≠ []) h := by
  by_cases carries : ∃ order : Order, order.CarriedBy command
  · obtain ⟨order, carried⟩ := carries
    have same : (agent.dispatcher command.id).dispatch command =
        order.perform (agent.dispatcher command.id) command :=
      (agent.dispatcher command.id).dispatch_carried agent.renderError carried
    have type := carried.type
    rw [deploys] at type
    cases order with
    | deployProject projectId deploymentId payload =>
        have represents : Wire.deployProjectPayload.Represents payload command.payload :=
          carried.represents
        have credential : Fallible.AllOps (Executes (IsDeploymentOf agent command))
            ((agent.dispatcher command.id).credential command.id payload.repositoryAccess) :=
          (agent.dispatcher command.id).credential_allOps command
            (fun _ => ⟨trivial, fun _ same => by cases same⟩) _
        rw [same]
        apply Fallible.warranted_any_bind credential (fun _ _ executes => executes) ?_
          fun _ _ _ same => by cases same
        intro repositoryCredential h
        refine Prog.warranted_mono (warranted_portedFuture ?_) fun _ _ holds => holds
        exact warranted_runDeployment fun output isOutput => ⟨payload, represents, isOutput⟩
    | workload kind => cases kind <;> cases type
    | _ => cases type
  · obtain ⟨message, refused⟩ := (agent.dispatcher command.id).refused_of_none
      agent.renderError fun order carried => carries ⟨order, carried⟩
    have failed : (agent.dispatcher command.id).dispatch command =
        throw (.invalidCommand message) := refused
    rw [failed]
    intro own isOk
    cases isOk

end Dispatch

/-! ### The select -/

section Select

variable {P : CommandOutput → Prop} {h : Trace Runtime}

/-- What an execution yields with success is allowed, and stands behind a mark. -/
def Yielded (P : CommandOutput → Prop) (outcome : ExecutionOutcome) (h : Trace Runtime) : Prop :=
  ∀ own, outcome = .ok own → P own ∧ cutoverMarks h ≠ []

/-- What remains of an execution may be executed, up to what it yields. -/
abbrev Remains (P : CommandOutput → Prop) (rest : Prog (Processing Runtime) ExecutionOutcome)
    (h : Trace Runtime) : Prop :=
  rest.Warranted (fun _ op => Executes P op) (Yielded P) h

theorem grows_executes (op : ProcessingOp Runtime) :
    Prog.Grows fun (_ : Trace Runtime) => Executes P op :=
  fun _ _ _ executes => executes

theorem grows_yielded (outcome : ExecutionOutcome) : Prog.Grows (Yielded P outcome) :=
  fun _ _ longer yielded own same =>
    ⟨(yielded own same).1, cutoverMarks_grows longer (yielded own same).2⟩

/-- What is known of an execution that is not polled any more. -/
structure Sound (P : CommandOutput → Prop) (polled : Polled Runtime) (h : Trace Runtime) : Prop where
  yielded : ∀ outcome, polled = .inl outcome → Yielded P outcome h
  remains : ∀ rest, polled = .inr rest → Remains P rest h

theorem grows_sound (polled : Polled Runtime) : Prog.Grows (Sound P polled) :=
  fun _ _ longer sound =>
    { yielded := fun outcome same => grows_yielded outcome _ _ longer (sound.yielded outcome same)
      remains := fun rest same => (sound.remains rest same).grow grows_executes grows_yielded longer }

theorem sound_inl {outcome : ExecutionOutcome} (yielded : Yielded P outcome h) :
    Sound P (.inl outcome) h where
  yielded _ same := by
    cases same
    exact yielded
  remains _ same := by cases same

theorem sound_inr {rest : Prog (Processing Runtime) ExecutionOutcome} (remains : Remains P rest h) :
    Sound P (.inr rest) h where
  yielded _ same := by cases same
  remains _ same := by
    cases same
    exact remains

theorem warranted_pollUntil {which : ProcessingAlarm Runtime}
    {rest : Prog (Processing Runtime) ExecutionOutcome} (remains : Remains P rest h) :
    (rest.pollUntil which).Warranted (fun _ op => Executes P op) (Sound P) h :=
  Prog.warranted_race grows_executes grows_yielded remains (fun _ _ remains => sound_inr remains)
    fun _ _ yielded => sound_inl yielded

/-- An operation of the control of an execution. -/
theorem executes_control {op : ProcessingOp Runtime} (isControl : op.OfExecution)
    (unmarked : ∀ output, op ≠ .markDeploymentCommitted output) : Executes P op :=
  ⟨isControl, fun output same => absurd same (unmarked output)⟩

theorem warranted_deferredCommittedOutput {reason : FinalizationDeferredReason}
    {polled : Polled Runtime} (sound : Sound P polled h) :
    (CommandProcessor.deferredCommittedOutput (R := Runtime) reason).Warranted
      (fun _ op => Executes P op) (fun _ h => Sound P polled h) h :=
  ⟨executes_control trivial fun _ same => (by cases same), fun _ =>
    grows_sound polled _ _ (List.sublist_append_left _ _) sound⟩

theorem warranted_deadlineReached {executionTimeout : Duration}
    {rest : Prog (Processing Runtime) ExecutionOutcome} (remains : Remains P rest h) :
    (CommandProcessor.deadlineReached executionTimeout rest).Warranted (fun _ op => Executes P op)
      (fun chosen h => Sound P chosen.2 h) h := by
  have asks : Executes P .deploymentCommitted :=
    executes_control trivial fun _ same => by cases same
  have cancels : Executes P .cancel := executes_control trivial fun _ same => by cases same
  apply Prog.warranted_perform_bind asks
  intro deploymentCommitted
  have later := remains.grow grows_executes grows_yielded (List.sublist_append_left h
    [.done (I := Processing Runtime) .deploymentCommitted deploymentCommitted])
  cases deploymentCommitted with
  | true =>
      apply Prog.warranted_bind
      apply Prog.warranted_mono (warranted_pollUntil later)
      intro polled h sound
      cases polled with
      | inl outcome =>
          cases outcome with
          | ok output => exact sound
          | error error =>
              apply Prog.warranted_bind
              exact Prog.warranted_mono (warranted_deferredCommittedOutput sound) fun _ _ sound => sound
      | inr rest =>
          apply Prog.warranted_perform_bind cancels
          intro cancelled
          apply Prog.warranted_bind
          have sound := grows_sound _ _ _ (List.sublist_append_left h
            [.done (I := Processing Runtime) .cancel cancelled]) sound
          exact Prog.warranted_mono (warranted_deferredCommittedOutput sound) fun _ _ sound => sound
  | false =>
      apply Prog.warranted_perform_bind cancels
      intro cancelled
      have later := later.grow grows_executes grows_yielded (List.sublist_append_left _
        [.done (I := Processing Runtime) .cancel cancelled])
      apply Prog.warranted_bind
      exact Prog.warranted_mono (warranted_pollUntil later) fun _ _ sound => sound

theorem warranted_select {executionTimeout : Duration}
    {execution : Prog (Processing Runtime) ExecutionOutcome} (remains : Remains P execution h) :
    (CommandProcessor.select executionTimeout execution).Warranted (fun _ op => Executes P op)
      (fun chosen h => Sound P chosen.2 h) h :=
  Prog.warranted_race grows_executes grows_yielded remains
    (fun _ _ remains => warranted_deadlineReached remains) fun _ _ yielded => sound_inl yielded

end Select

/-! ### The runs of a command -/

section Process

variable {agent : Agent} {processor : CommandProcessor Runtime} {command : AgentCommand}
  {P : CommandOutput → Prop} {h : Trace Runtime}

/-- Every mark is one with an output that is allowed, and so is what an execution has yielded with
success where it is polled for the last time, behind a mark. -/
def Fine (P : CommandOutput → Prop) (h : Trace Runtime) : ProcessingOp Runtime → Prop
  | .markDeploymentCommitted output => P output
  | .stopped yielded => ∀ own, yielded = some (.ok own) → P own ∧ cutoverMarks h ≠ []
  | _ => True

/-- The operation neither marks the deployment nor stops the execution. -/
def Plain (op : ProcessingOp Runtime) : Prop :=
  match op with
  | .markDeploymentCommitted _ => False
  | .stopped _ => False
  | _ => True

theorem fine_of_plain {op : ProcessingOp Runtime} (plain : Plain op) : Fine P h op := by
  cases op with
  | markDeploymentCommitted | stopped => exact plain.elim
  | _ => trivial

theorem fine_of_executes {op : ProcessingOp Runtime} (executes : Executes P op) : Fine P h op := by
  cases op with
  | markDeploymentCommitted output => exact executes.2 output rfl
  | stopped yielded => exact executes.1.elim
  | _ => trivial

theorem plain_finish (outcome : ExecutionOutcome) :
    (processor.finish command outcome).AllOps Plain := by
  have reported : ∀ outcome, Fallible.AllOps Plain (processor.reportTerminal command outcome) := by
    intro outcome
    cases outcome with
    | ok output => exact ⟨trivial, fun _ => trivial⟩
    | error error =>
        apply Fallible.allOps_bind (p := processor.client.fail command.id error)
        · exact ⟨trivial, fun _ => trivial⟩
        · exact fun _ => Fallible.allOps_throw _
  have preserved : (CommandProcessor.preserveCommitted (R := Runtime) outcome).AllOps Plain := by
    cases outcome with
    | ok output => trivial
    | error error =>
        refine ⟨trivial, fun deploymentCommitted => ?_⟩
        cases deploymentCommitted with
        | true => exact ⟨trivial, fun _ => trivial⟩
        | false => trivial
  exact Prog.allOps_bind preserved fun outcome => ⟨trivial, fun _ => reported outcome⟩

theorem warranted_execute {executionTimeout : Duration}
    (remains : Remains P (processor.dispatcher.dispatch command).run h) :
    (processor.execute command executionTimeout).Warranted (Fine P) (fun _ _ => True) h := by
  apply Prog.warranted_bind
  apply Prog.warranted_mono ((warranted_select remains).allow fun _ _ => fine_of_executes)
  rintro ⟨outcome, polled⟩ h sound
  have plain : ∀ (h : Trace Runtime) op, Plain op → Fine P h op := fun _ _ => fine_of_plain
  refine Prog.warranted_perform_bind (fun own yielded => ?_) fun stopped => ?_
  · cases polled with
    | inl own =>
        cases yielded
        exact sound.yielded _ rfl _ rfl
    | inr rest => cases yielded
  · apply Prog.warranted_bind
    apply Prog.warranted_mono (Prog.warranted_of_allOps (plain_finish outcome) plain)
    rintro result _ ⟨run, rfl, -⟩
    cases polled with
    | inl own => trivial
    | inr rest =>
        have remains := sound.remains rest rfl
        cases rest with
        | call op next => exact ⟨fine_of_executes remains.1, fun _ => trivial⟩
        | ret | abandon | alarm => trivial

theorem warranted_process
    (remains : ∀ h, Remains P (processor.dispatcher.dispatch command).run h) :
    (processor.process command).run.Warranted (Fine P) (fun _ _ => True) [] := by
  have calls : ∀ (h : Trace Runtime) op, Plain op → Fine P h op := fun _ _ => fine_of_plain
  have claims : Fallible.AllOps Plain (ApiClient.claim (R := Runtime) command.id) :=
    ⟨trivial, fun _ => trivial⟩
  have reports : Fallible.AllOps Plain
      (processor.client.event (R := Runtime) command.id CommandProcessor.claimedEvent) :=
    ⟨trivial, fun _ => trivial⟩
  apply Fallible.warranted_any_bind (Fallible.allOps_attempt claims) calls ?_ fun _ _ => trivial
  intro claimed h
  cases claimed with
  | error error => cases error <;> trivial
  | ok _ =>
      apply Fallible.warranted_any_bind reports calls ?_ fun _ _ => trivial
      intro _ h
      split
      · rename_i error _
        have fails : Fallible.AllOps Plain (processor.client.fail (R := Runtime) command.id error) :=
          ⟨trivial, fun _ => trivial⟩
        exact Fallible.warranted_any_bind fails calls (fun _ _ => trivial) fun _ _ => trivial
      · exact warranted_execute (remains h)

/-- Nothing is marked behind the place at which the execution is polled for the last time. -/
def UnmarkedAfter (h : Trace Runtime) : Prop :=
  ∀ before yielded after, h = before ++ .done (.stopped yielded) () :: after → cutoverMarks after = []

theorem cutoverMarks_of_plain (asked : Prog.Asked Plain h) : cutoverMarks h = [] := by
  rw [cutoverMarks, List.filterMap_eq_nil_iff]
  intro event member
  have plain := asked event member
  split
  · exact (plain _ rfl).elim
  · rfl

theorem unmarkedAfter_of_plain (asked : Prog.Asked Plain h) : UnmarkedAfter h := by
  rintro before yielded after rfl
  have stopped : Plain (.stopped yielded) := asked (.done (.stopped yielded) ())
    (List.mem_append_right _ List.mem_cons_self) _ rfl
  exact stopped.elim

/-- Where the first part of a history stops nothing, only the second part counts. -/
theorem UnmarkedAfter.append {first rest : Trace Runtime}
    (unstopped : ∀ yielded, .done (.stopped yielded) () ∉ first) (unmarked : UnmarkedAfter rest) :
    UnmarkedAfter (first ++ rest) := by
  intro before yielded after split
  rcases List.append_eq_append_iff.mp split with ⟨gap, -, tail⟩ | ⟨gap, rfl, tail⟩
  · exact unmarked gap yielded after tail
  · cases gap with
    | nil => exact unmarked [] yielded after tail.symm
    | cons event gap =>
        obtain ⟨rfl, -⟩ := List.cons.inj tail
        exact absurd (List.mem_append_right _ List.mem_cons_self) (unstopped yielded)

theorem unstopped_of_plain (asked : Prog.Asked Plain h) (yielded : Option ExecutionOutcome) :
    .done (.stopped yielded) () ∉ h :=
  fun member => asked _ member _ rfl

/-- A future that is dropped is not answered any more. -/
theorem finishes_drop {rest : Prog (Processing Runtime) ExecutionOutcome}
    {result result' : Except CoreError Unit}
    (run : (rest.drop (.ret result)).Finishes h result') :
    h = [] ∨ ∃ op outcome, h = [.abandoned op outcome] := by
  cases rest with
  | call op next =>
      cases run with
      | abandon run =>
          cases run
          exact .inr ⟨op, _, rfl⟩
  | ret | abandon | alarm =>
      cases run
      exact .inl rfl

theorem unmarkedAfter_execute {executionTimeout : Duration} {result : Except CoreError Unit}
    (run : (processor.execute command executionTimeout).Finishes h result)
    (remains : Remains P (processor.dispatcher.dispatch command).run []) : UnmarkedAfter h := by
  obtain ⟨first, ⟨outcome, polled⟩, rest, rfl, selected, run⟩ := Prog.finishes_bind run
  have executes := (selected.warranted (warranted_select remains)).1
  apply UnmarkedAfter.append
  · intro yielded member
    obtain ⟨before, after, split⟩ := List.append_of_mem member
    exact (executes before (.stopped yielded) () after split).1
  obtain ⟨_, stopped, rest, rfl, stopping, ending⟩ := Prog.finishes_bind run
  cases stopping with
  | call stopping =>
      cases stopping
      obtain ⟨reporting, result', dropping, rfl, finished, drops⟩ := Prog.finishes_bind ending
      have reported := finished.asked (plain_finish outcome)
      have dropped : dropping = [] ∨ ∃ op outcome, dropping = [.abandoned op outcome] := by
        cases polled with
        | inl own =>
            cases drops
            exact .inl rfl
        | inr rest => exact finishes_drop drops
      have unmarked : cutoverMarks (reporting ++ dropping) = [] := by
        rw [cutoverMarks_append, cutoverMarks_of_plain reported]
        rcases dropped with rfl | ⟨op, outcome, rfl⟩ <;> rfl
      intro before yielded after split
      cases before with
      | nil =>
          obtain ⟨-, rfl⟩ := List.cons.inj split
          exact unmarked
      | cons event before =>
          have later : reporting ++ dropping = before ++ .done (.stopped yielded) () :: after :=
            (List.cons.inj split).2
          have member : Event.done (I := Processing Runtime) (.stopped yielded) () ∈
              reporting ++ dropping :=
            later ▸ List.mem_append_right before List.mem_cons_self
          rcases List.mem_append.mp member with inside | inside
          · exact absurd inside (unstopped_of_plain reported yielded)
          · rcases dropped with rfl | ⟨op, outcome, rfl⟩
            · cases inside
            · cases List.mem_singleton.mp inside

theorem unmarkedAfter_process {result : Except CoreError Unit}
    (run : (processor.process command).run.Finishes h result)
    (remains : Remains P (processor.dispatcher.dispatch command).run []) : UnmarkedAfter h := by
  have claims : Fallible.AllOps Plain (ApiClient.claim (R := Runtime) command.id) :=
    ⟨trivial, fun _ => trivial⟩
  have reports : Fallible.AllOps Plain
      (processor.client.event (R := Runtime) command.id CommandProcessor.claimedEvent) :=
    ⟨trivial, fun _ => trivial⟩
  rcases Fallible.finishes_bind run with ⟨_, run, _⟩ | ⟨first, claimed, rest, rfl, claiming, run⟩
  · exact unmarkedAfter_of_plain (run.asked (Fallible.allOps_attempt claims))
  apply UnmarkedAfter.append (unstopped_of_plain (claiming.asked (Fallible.allOps_attempt claims)))
  cases claimed with
  | error error =>
      apply unmarkedAfter_of_plain
      cases error <;>
        · cases run
          exact Prog.asked_nil
  | ok _ =>
      rcases Fallible.finishes_bind run with ⟨_, run, _⟩ | ⟨second, _, rest, rfl, reporting, run⟩
      · exact unmarkedAfter_of_plain (run.asked reports)
      apply UnmarkedAfter.append (unstopped_of_plain (reporting.asked reports))
      split at run
      · rename_i error _
        have fails : Fallible.AllOps Plain (do
            processor.client.fail (R := Runtime) command.id error
            throw (CoreError.runtime error) : Fallible (Processing Runtime) CoreError Unit) :=
          Fallible.allOps_bind (p := processor.client.fail command.id error)
            ⟨trivial, fun _ => trivial⟩ fun _ => Fallible.allOps_throw _
        exact unmarkedAfter_of_plain (run.asked fails)
      · exact unmarkedAfter_execute run remains

end Process

/-! ### The main result -/

section Reported

variable {agent : Agent} {command : AgentCommand} {h : Trace Runtime}

/-- What the control plane is told of a deployment is what became of it. A deployment that is completed
has been marked as committed, with the resources that its payload asks for; its result says so, and
that its finalization was left to the control plane unless the deployment has ended with success. One
that is failed has not been marked. -/
structure Truthful (agent : Agent) (command : AgentCommand) (h : Trace Runtime) : Prop where
  completed : ∀ result, .complete command.id result ∈ terminalCalls command.id h →
    ∃ payload applied reason, Wire.deployProjectPayload.Represents payload command.payload ∧
      agent.executor.resourceSafety.resolve payload.resources = .ok applied ∧
      cutoverMarks h ≠ [] ∧
      (∀ output ∈ cutoverMarks h, output = deploymentOutput payload.resources applied) ∧
      Wire.deployProjectResult.decode result = .ok
        { requestedResources := payload.resources
          appliedResources := applied
          finalizationDeferred := reason.isSome
          finalizationDeferredReason := reason } ∧
      (reason = none → ∃ own, some (.ok own) ∈ stops h)
  failed : ∀ payload, .fail command.id payload ∈ terminalCalls command.id h → cutoverMarks h = []

/-- Every mark of a run is one with the output of the deployment. -/
theorem isDeploymentOf_of_mark (fine : Prog.Meets (Fine (IsDeploymentOf agent command)) [] h)
    {output : CommandOutput} (marked : output ∈ cutoverMarks h) :
    IsDeploymentOf agent command output := by
  obtain ⟨event, member, isMark⟩ := List.mem_filterMap.mp marked
  split at isMark
  · rename_i own res
    obtain rfl := Option.some.inj isMark
    obtain ⟨before, after, split⟩ := List.append_of_mem member
    exact fine before _ res after split
  · cases isMark

theorem IsDeploymentOf.eq {output : CommandOutput} {payload : DeployProjectPayload}
    {applied : AppliedRuntimeResources} (isOutput : IsDeploymentOf agent command output)
    (represents : Wire.deployProjectPayload.Represents payload command.payload)
    (resolved : agent.executor.resourceSafety.resolve payload.resources = .ok applied) :
    output = deploymentOutput payload.resources applied := by
  obtain ⟨payload', represents', applied', resolved', rfl⟩ := isOutput
  obtain rfl := Codec.Represents.unique represents represents'
  rw [resolved] at resolved'
  cases resolved'
  rfl

theorem decode_result (result : DeployProjectResult) :
    Wire.deployProjectResult.decode (Wire.deployProjectResult.encode result) = .ok result :=
  Codec.decode_encode _ (Wire.deployProjectResult_valid result)

/-- In every run of the command of a deployment, whatever its node and the control plane answer. -/
theorem deployment_reported (deploys : command.commandType = .deployProject) {cancelled : Bool}
    {result : Except CoreError Unit} {state : CommandState}
    (run : Exec (processingSemantics Runtime) (agent.process command).run { cancelled := cancelled } []
      result state h) : Truthful agent command h := by
  obtain ⟨added, same, finishes⟩ := Prog.finishes_of_exec run
  rw [List.nil_append] at same
  subst same
  have remains : ∀ h, Remains (IsDeploymentOf agent command)
      ((agent.processor command.id).dispatcher.dispatch command).run h :=
    fun h => warranted_dispatch deploys
  have fine := (finishes.warranted (warranted_process remains)).1
  have unmarked := unmarkedAfter_process finishes (remains [])
  cases process_course run with
  | unclaimed | unreported =>
      exact ⟨fun _ member => (by cases member), fun _ member => (by cases member)⟩
  | rejected claim report responses payload =>
      refine ⟨fun value member => ?_, fun _ _ => rfl⟩
      rw [terminalCalls_append, terminalCalls_fail] at member
      cases List.mem_singleton.mp member
  | executed claim report acknowledgement before yielded after _ claimed reported concluded =>
      obtain ⟨call, terminal, settled⟩ := concluded.settled
      have marks : cutoverMarks h = cutoverMarks before := by
        have after := unmarked before yielded after concluded.split
        rw [concluded.split, cutoverMarks_append]
        exact (congrArg (cutoverMarks before ++ ·) after).trans (List.append_nil _)
      constructor
      · intro value member
        rw [terminal] at member
        obtain rfl := List.mem_singleton.mp member
        rcases settled.told value rfl with ⟨own, rfl, rfl⟩ | ⟨output, reason, cutover, rfl⟩
        · have atStop := fine before (.stopped (some (.ok own))) () after concluded.split own rfl
          obtain ⟨⟨payload, represents, applied, resolved, rfl⟩, marked⟩ := atStop
          refine ⟨payload, applied, none, represents, resolved, marks ▸ marked, ?_, ?_, ?_⟩
          · exact fun output member => (isDeploymentOf_of_mark fine member).eq represents resolved
          · rw [deploymentOutput_result]
            exact decode_result _
          · intro _
            refine ⟨deploymentOutput payload.resources applied, ?_⟩
            rw [concluded.split, stops_append]
            exact List.mem_append_right _ List.mem_cons_self
        · have member : output ∈ cutoverMarks h := marks ▸ List.mem_of_getLast? cutover
          obtain ⟨payload, represents, applied, resolved, rfl⟩ := isDeploymentOf_of_mark fine member
          refine ⟨payload, applied, some reason, represents, resolved, List.ne_nil_of_mem member,
            ?_, ?_, ?_⟩
          · exact fun output member => (isDeploymentOf_of_mark fine member).eq represents resolved
          · rw [deferredOutput_result]
            exact decode_result _
          · intro none
            cases none
      · intro payload member
        rw [terminal] at member
        obtain rfl := List.mem_singleton.mp member
        rw [marks]
        cases cutover : (cutoverMarks before).getLast? with
        | none => exact List.getLast?_eq_none_iff.mp cutover
        | some output =>
            obtain ⟨_, completed, -⟩ := settled.committed output cutover
            cases completed

end Reported

end ReportedDeployment

/-! A deployment of which nothing goes wrong, over a control plane that takes what it is told. -/

namespace Sample

def agent : Agent where
  executor := executor
  inspector := { inspect := fun _ _ => throw (.dependency "railpack") }
  preflight := throw (.dependency "docker")
  capacity := throw (.dependency "docker")
  client := CommittedThenFailed.client
  renderError _ := "invalid"
  commandTimeout := Duration.fromSecs 900
  reporterFactory := true

/-- The command that carries a deployment. -/
def deployCommand : AgentCommand where
  id := uuid 1
  commandType := .deployProject
  status := .pending
  projectId := some (uuid 1)
  deploymentId := some (uuid 1)
  payload := Wire.deployProjectPayload.encode payload

/-- The node behind what it has been asked for while a command was processed. -/
def nodeBehind (h : History (Processing Runtime)) : Node :=
  h.foldl (fun node event => match event with
    | .done (.runtime op) _ =>
        match script.answer 0 [] node op with
        | some (_, node) => node
        | none => node
    | _ => node) node

/-- A control plane that takes what it is told, over a node that works. -/
def processing : Script (Processing Runtime) CommandState where
  answer h state
    | .client _ => some (CommittedThenFailed.answered 200, state)
    | .log _ => some (.ok (), state)
    | .flush => some (.ok (), state)
    | .markDeploymentCommitted output => some ((), state.markDeploymentCommitted output)
    | .deploymentCommitted => some (state.deploymentCommitted, state)
    | .committedOutput => some (state.committedOutput, state)
    | .cancel => some ((), { state with cancelled := true })
    | .isCancelled => some (state.cancelled, state)
    | .setLifecycle _ => some ((), state)
    | .runtime op => (script.answer 0 [] (nodeBehind h) op).map fun answer => (answer.1, state)
    | .stopped _ => some ((), state)
  leave state _ := some (none, state)
  fires _ _ _ := false

theorem processing_sound : processing.Sound (processingSemantics Runtime) where
  answer := by
    intro h state op res state' answered
    cases op with
    | runtime op =>
        obtain ⟨_, _, same⟩ := Option.map_eq_some_iff.mp answered
        cases same
        rfl
    | deploymentCommitted | committedOutput | isCancelled =>
        cases answered
        exact ⟨rfl, rfl⟩
    | _ =>
        cases answered
        rfl
  leave := by
    intro state op outcome state' left
    cases left
    rfl

/-- The command is completed. -/
def isCompletion : Event (Processing Runtime) → Bool
  | .done (.client (.complete _ _)) _ => true
  | _ => false

end Sample

theorem ReportedDeployment.deployment_reported_sample : ∃ result state h,
    Exec (processingSemantics Runtime) (Sample.agent.process Sample.deployCommand).run {} [] result
      state h ∧
    h.any Sample.isCompletion = true ∧ Truthful Sample.agent Sample.deployCommand h := by
  have finished : ∃ ended,
      Prog.play Sample.processing (Sample.agent.process Sample.deployCommand).run {} [] =
        some ended ∧ ended.2.2.any Sample.isCompletion = true := by
    apply (Option.any_eq_true ..).mp
    decide +kernel
  obtain ⟨⟨result, state, h⟩, played, completed⟩ := finished
  have run := Prog.play_sound Sample.processing_sound played
  exact ⟨result, state, h, run, completed, deployment_reported rfl run⟩

end SakalaAgent
