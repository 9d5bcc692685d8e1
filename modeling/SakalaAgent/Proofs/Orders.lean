/-
Module: SakalaAgent.Proofs.Orders
Layer: Proofs
Purpose: What the control plane orders of a node, from the JSON it writes to the method of the runtime
  that is called. A command carries at most one order; it is executed as that order, or refused before
  anything is asked for.
Trusted boundary: the texts of decoding errors are a parameter.
Main exports: Order, Order.CarriedBy, Order.perform, CommandDispatcher.Refused,
  CommandDispatcher.orders_executed
-/
import SakalaAgent.Core.Commands.Payloads

namespace SakalaAgent

open Async

/-! ### Orders -/

/-- The commands that name a workload and have no payload. -/
inductive WorkloadOrder where
  | restart | stop | sleep | wake | healthCheck | refreshRoute
deriving DecidableEq, Repr

def WorkloadOrder.commandType : WorkloadOrder → CommandType
  | .restart => .restartProject
  | .stop => .stopProject
  | .sleep => .sleepProject
  | .wake => .wakeProject
  | .healthCheck => .healthCheck
  | .refreshRoute => .refreshRoute

def WorkloadOrder.method {R : Interface} (runtime : RuntimeExecutor R) :
    WorkloadOrder → WorkloadLifecycleRequest → RuntimeFuture R CommandOutput
  | .restart => runtime.restartProject
  | .stop => runtime.stopProject
  | .sleep => runtime.sleepProject
  | .wake => runtime.wakeProject
  | .healthCheck => runtime.healthCheck
  | .refreshRoute => runtime.refreshRoute

/-- What may be ordered of a node. A cleanup is approved and has a target. -/
inductive Order where
  | inspectProject (payload : InspectProjectPayload)
  | deployProject (projectId deploymentId : Uuid) (payload : DeployProjectPayload)
  | workload (order : WorkloadOrder) (projectId deploymentId : Uuid)
  | reconcileWorkload (projectId deploymentId : Uuid) (payload : ReconcileWorkloadPayload)
  | cleanupRuntime (targets : List RuntimeCleanupTarget) (some : targets ≠ [])
  | drainNode
  | resumeNode

namespace Order

def commandType : Order → CommandType
  | .inspectProject _ => .inspectProject
  | .deployProject .. => .deployProject
  | .workload order .. => order.commandType
  | .reconcileWorkload .. => .reconcileWorkload
  | .cleanupRuntime .. => .cleanupRuntime
  | .drainNode => .drainNode
  | .resumeNode => .resumeNode

def projectId : Order → Option Uuid
  | .deployProject projectId .. => some projectId
  | .workload _ projectId _ => some projectId
  | .reconcileWorkload projectId .. => some projectId
  | _ => none

def deploymentId : Order → Option Uuid
  | .deployProject _ deploymentId _ => some deploymentId
  | .workload _ _ deploymentId => some deploymentId
  | .reconcileWorkload _ deploymentId _ => some deploymentId
  | _ => none

/-- What the payload of the command has to be. -/
def Represents : Order → Json → Prop
  | .inspectProject payload => Wire.inspectProjectPayload.Represents payload
  | .deployProject _ _ payload => Wire.deployProjectPayload.Represents payload
  | .reconcileWorkload _ _ payload => Wire.reconcileWorkloadPayload.Represents payload
  | .cleanupRuntime targets _ => Wire.cleanupRuntimePayload.Represents ⟨true, targets⟩
  | .workload .. | .drainNode | .resumeNode => fun _ => True

/-- A command carries an order: its type and its ids are those of the order, and its payload represents
that of the order. -/
structure CarriedBy (command : AgentCommand) (order : Order) : Prop where
  type : command.commandType = order.commandType
  project : ∀ projectId, order.projectId = some projectId → command.projectId = some projectId
  deployment : ∀ deploymentId, order.deploymentId = some deploymentId →
    command.deploymentId = some deploymentId
  represents : order.Represents command.payload

variable {R : Interface}

/-- The execution of an order: what the runtime is asked to do, with the credential that the access to
the repository needs. -/
def perform (dispatcher : CommandDispatcher R) (command : AgentCommand) :
    Order → Execution R CommandOutput
  | .inspectProject payload => do
      let repositoryCredential ← dispatcher.credential command.id payload.repositoryAccess
      (dispatcher.runtime.inspectProject
        { commandId := command.id, payload, repositoryCredential }).run
  | .deployProject projectId deploymentId payload => do
      let repositoryCredential ← dispatcher.credential command.id payload.repositoryAccess
      (dispatcher.runtime.deployProject
        { commandId := command.id, projectId, deploymentId, payload, repositoryCredential }).run
  | .workload order projectId deploymentId =>
      (order.method dispatcher.runtime { commandId := command.id, projectId, deploymentId }).run
  | .reconcileWorkload projectId deploymentId payload =>
      (dispatcher.runtime.reconcileWorkload
        { projectId
          deploymentId
          desiredState := payload.desiredState
          actions := payload.actions
          reporterFactory := dispatcher.reporterFactory }).run
  | .cleanupRuntime targets _ =>
      (dispatcher.runtime.cleanupRuntime
        { commandId := command.id, approved := true, targets }).run
  | .drainNode => dispatcher.drainNode command
  | .resumeNode => dispatcher.resumeNode command

/-! ### How orders are sent -/

def payload : Order → Json
  | .inspectProject payload => Wire.inspectProjectPayload.encode payload
  | .deployProject _ _ payload => Wire.deployProjectPayload.encode payload
  | .reconcileWorkload _ _ payload => Wire.reconcileWorkloadPayload.encode payload
  | .cleanupRuntime targets _ => Wire.cleanupRuntimePayload.encode ⟨true, targets⟩
  | _ => .null

/-- The command that an order is sent as. -/
def toCommand (id : Uuid) (status : CommandStatus) (order : Order) : AgentCommand where
  id := id
  commandType := order.commandType
  status := status
  projectId := order.projectId
  deploymentId := order.deploymentId
  payload := order.payload

/-- The environment of a deployment is a map. -/
def IsValid : Order → Prop
  | .deployProject _ _ payload => Entries.Sorted payload.environment
  | _ => True

theorem represents_payload {order : Order} (valid : order.IsValid) :
    order.Represents order.payload := by
  cases order with
  | inspectProject payload =>
      exact Wire.inspectProjectPayload.represents_encode _ (Wire.inspectProjectPayload_valid payload)
  | deployProject projectId deploymentId payload =>
      exact Wire.deployProjectPayload.represents_encode _ (Wire.deployProjectPayload_valid valid)
  | reconcileWorkload projectId deploymentId payload =>
      exact Wire.reconcileWorkloadPayload.represents_encode _
        (Wire.reconcileWorkloadPayload_valid payload)
  | cleanupRuntime targets some =>
      exact Wire.cleanupRuntimePayload.represents_encode _ (Wire.cleanupRuntimePayload_valid _)
  | workload | drainNode | resumeNode => trivial

theorem carriedBy_toCommand {order : Order} (valid : order.IsValid) (id : Uuid)
    (status : CommandStatus) : CarriedBy (order.toCommand id status) order where
  type := rfl
  project _ same := same
  deployment _ same := same
  represents := represents_payload valid

/-! ### What a command is executed as -/

variable {command : AgentCommand}

theorem commandType_injective {order other : WorkloadOrder}
    (same : order.commandType = other.commandType) : order = other := by
  cases order <;> cases other <;> first | rfl | cases same

theorem CarriedBy.projectId_eq {order : Order} (carried : CarriedBy command order) {id id' : Uuid}
    (own : order.projectId = some id) (known : command.projectId = some id') : id' = id :=
  Option.some.inj (known.symm.trans (carried.project id own))

theorem CarriedBy.deploymentId_eq {order : Order} (carried : CarriedBy command order) {id id' : Uuid}
    (own : order.deploymentId = some id) (known : command.deploymentId = some id') : id' = id :=
  Option.some.inj (known.symm.trans (carried.deployment id own))

/-- A command carries one order at most. -/
theorem CarriedBy.unique {order other : Order} (carried : CarriedBy command order)
    (carried' : CarriedBy command other) : other = order := by
  have type : other.commandType = order.commandType := carried'.type.symm.trans carried.type
  cases order with
  | inspectProject payload =>
      cases other with
      | inspectProject payload' =>
          rw [Codec.Represents.unique carried'.represents carried.represents]
      | workload kind => cases kind <;> cases type
      | _ => cases type
  | deployProject projectId deploymentId payload =>
      cases other with
      | deployProject projectId' deploymentId' payload' =>
          rw [Codec.Represents.unique carried'.represents carried.represents,
            carried.projectId_eq rfl (carried'.project _ rfl),
            carried.deploymentId_eq rfl (carried'.deployment _ rfl)]
      | workload kind => cases kind <;> cases type
      | _ => cases type
  | workload kind projectId deploymentId =>
      cases other with
      | workload kind' projectId' deploymentId' =>
          rw [commandType_injective type, carried.projectId_eq rfl (carried'.project _ rfl),
            carried.deploymentId_eq rfl (carried'.deployment _ rfl)]
      | _ => cases kind <;> cases type
  | reconcileWorkload projectId deploymentId payload =>
      cases other with
      | reconcileWorkload projectId' deploymentId' payload' =>
          rw [Codec.Represents.unique carried'.represents carried.represents,
            carried.projectId_eq rfl (carried'.project _ rfl),
            carried.deploymentId_eq rfl (carried'.deployment _ rfl)]
      | workload kind => cases kind <;> cases type
      | _ => cases type
  | cleanupRuntime targets some =>
      cases other with
      | cleanupRuntime targets' some' =>
          cases Codec.Represents.unique carried'.represents carried.represents
          rfl
      | workload kind => cases kind <;> cases type
      | _ => cases type
  | drainNode =>
      cases other with
      | drainNode => rfl
      | workload kind => cases kind <;> cases type
      | _ => cases type
  | resumeNode =>
      cases other with
      | resumeNode => rfl
      | workload kind => cases kind <;> cases type
      | _ => cases type

end Order

/-! ### Dispatch -/

namespace CommandDispatcher

variable {R : Interface} (dispatcher : CommandDispatcher R) {render : DecodeError → String}
  {command : AgentCommand}

/-- The dispatcher that decodes payloads as the protocol says. -/
def wired (dispatcher : CommandDispatcher R) (render : DecodeError → String) : CommandDispatcher R :=
  { dispatcher with payloads := .wire render }

theorem lifecycleRequest_eq {projectId deploymentId : Uuid}
    (project : command.projectId = some projectId)
    (deployment : command.deploymentId = some deploymentId) :
    lifecycleRequest command = .ok { commandId := command.id, projectId, deploymentId } := by
  simp only [lifecycleRequest, project, deployment]

theorem decoded_of_represents {α : Type} {codec : Codec α} {value : α} {json : Json}
    (render : DecodeError → String) (label : String) (represents : codec.Represents value json) :
    decoded label ((codec.decode json).mapError render) = .ok value := by
  rw [(codec.decode_iff _ _).mpr represents]
  rfl

/-- A command that carries an order is executed as that order. -/
theorem dispatch_carried (render : DecodeError → String) {order : Order}
    (carried : order.CarriedBy command) :
    (dispatcher.wired render).dispatch command = order.perform (dispatcher.wired render) command := by
  have type := carried.type
  cases order with
  | inspectProject payload =>
      have read := decoded_of_represents render "InspectProject" carried.represents
      simp only [dispatch, type, Order.commandType, inspectProject, wired, PayloadDecoder.wire, read]
      rfl
  | deployProject projectId deploymentId payload =>
      have read := decoded_of_represents render "DeployProject" carried.represents
      simp only [dispatch, type, Order.commandType, deployProject, carried.project _ rfl,
        carried.deployment _ rfl, wired, PayloadDecoder.wire, read]
      rfl
  | workload kind projectId deploymentId =>
      have request := lifecycleRequest_eq (carried.project _ rfl) (carried.deployment _ rfl)
      cases kind with
      | restart | stop | sleep | wake | healthCheck | refreshRoute =>
          simp only [dispatch, type, Order.commandType, WorkloadOrder.commandType, lifecycle, request]
          rfl
  | reconcileWorkload projectId deploymentId payload =>
      have request := lifecycleRequest_eq (carried.project _ rfl) (carried.deployment _ rfl)
      have read := decoded_of_represents render "ReconcileWorkload" carried.represents
      simp only [dispatch, type, Order.commandType, reconcileWorkload, request, wired,
        PayloadDecoder.wire, read]
      rfl
  | cleanupRuntime targets some =>
      have read := decoded_of_represents render "CleanupRuntime" carried.represents
      simp only [dispatch, type, Order.commandType, cleanupRuntime, wired, PayloadDecoder.wire, read]
      cases targets with
      | nil => exact absurd rfl some
      | cons target rest => rfl
  | drainNode => simp only [dispatch, type, Order.commandType, Order.perform]
  | resumeNode => simp only [dispatch, type, Order.commandType, Order.perform]

/-- The command is refused before anything is asked for. -/
def Refused (dispatcher : CommandDispatcher R) (command : AgentCommand) : Prop :=
  ∃ message, dispatcher.dispatch command = throw (.invalidCommand message)

theorem decoded_cases {α : Type} (render : DecodeError → String) (codec : Codec α) (json : Json)
    (label : String) :
    (∃ value, codec.Represents value json ∧
      decoded label ((codec.decode json).mapError render) = .ok value) ∨
    ∃ message, decoded label ((codec.decode json).mapError render) =
      .error (.invalidCommand message) := by
  cases read : codec.decode json with
  | ok value => exact .inl ⟨value, (codec.decode_iff _ _).mp read, rfl⟩
  | error error => exact .inr ⟨_, rfl⟩

theorem lifecycleRequest_cases (command : AgentCommand) :
    (∃ projectId deploymentId, command.projectId = some projectId ∧
      command.deploymentId = some deploymentId ∧
      lifecycleRequest command = .ok { commandId := command.id, projectId, deploymentId }) ∨
    ∃ message, lifecycleRequest command = .error (.invalidCommand message) := by
  cases project : command.projectId with
  | none =>
      exact .inr ⟨"lifecycle command requires project_id", by simp only [lifecycleRequest, project]⟩
  | some projectId =>
      cases deployment : command.deploymentId with
      | none =>
          exact .inr ⟨"lifecycle command requires deployment_id",
            by simp only [lifecycleRequest, project, deployment]⟩
      | some deploymentId =>
          exact .inl ⟨projectId, deploymentId, rfl, rfl, lifecycleRequest_eq project deployment⟩

/-- An order of a workload is carried by a command with its ids. -/
theorem carriedBy_of_ids {order : Order} (type : command.commandType = order.commandType)
    (project : command.projectId = order.projectId)
    (deployment : command.deploymentId = order.deploymentId)
    (represents : order.Represents command.payload) : order.CarriedBy command :=
  ⟨type, fun _ => project.trans, fun _ => deployment.trans, represents⟩

/-- An order of the node, or of a repository, needs no ids. -/
theorem carriedBy_of_idless {order : Order} (type : command.commandType = order.commandType)
    (project : order.projectId = none) (deployment : order.deploymentId = none)
    (represents : order.Represents command.payload) : order.CarriedBy command := by
  refine ⟨type, fun _ same => ?_, fun _ same => ?_, represents⟩
  · rw [project] at same
    cases same
  · rw [deployment] at same
    cases same

/-- A command that names a workload carries its order, or is refused. -/
theorem workload_refused (kind : WorkloadOrder) (type : command.commandType = kind.commandType)
    (carriesNone : ∀ order : Order, ¬order.CarriedBy command) :
    (dispatcher.wired render).Refused command := by
  rcases lifecycleRequest_cases command with ⟨projectId, deploymentId, project, deployment, -⟩ |
    ⟨message, failed⟩
  · refine absurd ?_ (carriesNone (.workload kind projectId deploymentId))
    exact carriedBy_of_ids type project deployment trivial
  · refine ⟨message, ?_⟩
    cases kind with
    | restart | stop | sleep | wake | healthCheck | refreshRoute =>
        simp only [dispatch, type, WorkloadOrder.commandType, lifecycle, failed]
        rfl

theorem inspectProject_refused (type : command.commandType = .inspectProject)
    (carriesNone : ∀ order : Order, ¬order.CarriedBy command) :
    (dispatcher.wired render).Refused command := by
  rcases decoded_cases render Wire.inspectProjectPayload command.payload
    "InspectProject" with ⟨payload, represents, -⟩ | ⟨message, failed⟩
  · refine absurd ?_ (carriesNone (.inspectProject payload))
    exact carriedBy_of_idless type rfl rfl represents
  · refine ⟨message, ?_⟩
    simp only [dispatch, type, inspectProject, wired, PayloadDecoder.wire, failed]
    rfl

theorem deployProject_refused (type : command.commandType = .deployProject)
    (carriesNone : ∀ order : Order, ¬order.CarriedBy command) :
    (dispatcher.wired render).Refused command := by
  cases project : command.projectId with
  | none =>
      refine ⟨"DeployProject requires project_id", ?_⟩
      simp only [dispatch, type, deployProject, project]
  | some projectId =>
      cases deployment : command.deploymentId with
      | none =>
          refine ⟨"DeployProject requires deployment_id", ?_⟩
          simp only [dispatch, type, deployProject, project, deployment]
      | some deploymentId =>
          rcases decoded_cases render Wire.deployProjectPayload command.payload
            "DeployProject" with ⟨payload, represents, -⟩ | ⟨message, failed⟩
          · refine absurd ?_ (carriesNone (.deployProject projectId deploymentId payload))
            exact carriedBy_of_ids type project deployment represents
          · refine ⟨message, ?_⟩
            simp only [dispatch, type, deployProject, project, deployment, wired,
              PayloadDecoder.wire, failed]
            rfl

theorem reconcileWorkload_refused (type : command.commandType = .reconcileWorkload)
    (carriesNone : ∀ order : Order, ¬order.CarriedBy command) :
    (dispatcher.wired render).Refused command := by
  rcases lifecycleRequest_cases command with ⟨projectId, deploymentId, project, deployment, request⟩ |
    ⟨message, failed⟩
  · rcases decoded_cases render Wire.reconcileWorkloadPayload command.payload
      "ReconcileWorkload" with ⟨payload, represents, -⟩ | ⟨message, failed⟩
    · refine absurd ?_ (carriesNone (.reconcileWorkload projectId deploymentId payload))
      exact carriedBy_of_ids type project deployment represents
    · refine ⟨message, ?_⟩
      simp only [dispatch, type, reconcileWorkload, request, wired, PayloadDecoder.wire, failed]
      rfl
  · refine ⟨message, ?_⟩
    simp only [dispatch, type, reconcileWorkload, failed]
    rfl

/-- A cleanup that is not approved, or has no target, is no order. -/
theorem cleanupRuntime_refused (type : command.commandType = .cleanupRuntime)
    (carriesNone : ∀ order : Order, ¬order.CarriedBy command) :
    (dispatcher.wired render).Refused command := by
  rcases decoded_cases render Wire.cleanupRuntimePayload command.payload
    "CleanupRuntime" with ⟨⟨approved, targets⟩, represents, read⟩ | ⟨message, failed⟩
  · cases approved with
    | false =>
        refine ⟨"CleanupRuntime requires approved=true", ?_⟩
        simp only [dispatch, type, cleanupRuntime, wired, PayloadDecoder.wire, read]
        rfl
    | true =>
        cases targets with
        | nil =>
            refine ⟨"CleanupRuntime requires at least one target", ?_⟩
            simp only [dispatch, type, cleanupRuntime, wired, PayloadDecoder.wire, read]
            rfl
        | cons target rest =>
            refine absurd ?_ (carriesNone (.cleanupRuntime (target :: rest) (List.cons_ne_nil _ _)))
            exact carriedBy_of_idless type rfl rfl represents
  · refine ⟨message, ?_⟩
    simp only [dispatch, type, cleanupRuntime, wired, PayloadDecoder.wire, failed]
    rfl

/-- A command that carries no order is refused. -/
theorem refused_of_none (render : DecodeError → String)
    (carriesNone : ∀ order : Order, ¬order.CarriedBy command) :
    (dispatcher.wired render).Refused command := by
  cases type : command.commandType with
  | inspectProject => exact dispatcher.inspectProject_refused type carriesNone
  | deployProject => exact dispatcher.deployProject_refused type carriesNone
  | restartProject => exact dispatcher.workload_refused .restart type carriesNone
  | stopProject => exact dispatcher.workload_refused .stop type carriesNone
  | sleepProject => exact dispatcher.workload_refused .sleep type carriesNone
  | wakeProject => exact dispatcher.workload_refused .wake type carriesNone
  | healthCheck => exact dispatcher.workload_refused .healthCheck type carriesNone
  | refreshRoute => exact dispatcher.workload_refused .refreshRoute type carriesNone
  | reconcileWorkload => exact dispatcher.reconcileWorkload_refused type carriesNone
  | cleanupRuntime => exact dispatcher.cleanupRuntime_refused type carriesNone
  | drainNode =>
      refine absurd ?_ (carriesNone .drainNode)
      exact carriedBy_of_idless type rfl rfl trivial
  | resumeNode =>
      refine absurd ?_ (carriesNone .resumeNode)
      exact carriedBy_of_idless type rfl rfl trivial

/-! ### The main result -/

/-- However a command is written that carries an order, it is read as that command and executed as that
order, which is the only one it carries; what carries none is refused. What is written for an order
carries it. -/
theorem orders_executed (render : DecodeError → String) :
    (∀ wire command (order : Order), Wire.agentCommand.Represents command wire →
      order.CarriedBy command → Wire.agentCommand.decode wire = .ok command ∧
        (dispatcher.wired render).dispatch command =
          order.perform (dispatcher.wired render) command ∧
        ∀ other : Order, other.CarriedBy command → other = order) ∧
    (∀ wire command, Wire.agentCommand.decode wire = .ok command →
      (∀ order : Order, ¬order.CarriedBy command) → (dispatcher.wired render).Refused command) ∧
    ∀ (order : Order) (id : Uuid) (status : CommandStatus), order.IsValid →
      Wire.agentCommand.Represents (order.toCommand id status)
          (Wire.agentCommand.encode (order.toCommand id status)) ∧
        order.CarriedBy (order.toCommand id status) := by
  refine ⟨fun wire command order represents carried => ⟨?_, ?_, ?_⟩, ?_, ?_⟩
  · exact (Wire.agentCommand.decode_iff _ _).mpr represents
  · exact dispatcher.dispatch_carried render carried
  · exact fun other carried' => carried.unique carried'
  · exact fun _ command _ carriesNone => dispatcher.refused_of_none render carriesNone
  · intro order id status valid
    exact ⟨Wire.agentCommand.represents_encode _ (Wire.agentCommand_valid _),
      Order.carriedBy_toCommand valid id status⟩

end CommandDispatcher

end SakalaAgent
