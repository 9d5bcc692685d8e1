/-
Module: SakalaAgent.Protocol.Wire
Layer: Protocol
Purpose: The records of the protocol as JSON: the names of their fields and variants, and the fields
  that may be left out.
Trusted boundary: JSON is read from and written to text elsewhere.
Main exports: Wire.agentCommand, Wire.deployProjectPayload, Wire.inspectProjectPayload,
  Wire.reconcileWorkloadPayload, Wire.cleanupRuntimePayload, Wire.deployProjectResult
-/
import SakalaAgent.Protocol.Commands
import SakalaAgent.Protocol.Record

namespace SakalaAgent

namespace Wire

/-! ### Identifiers and enumerations -/

/-- A UUID is written in its hyphenated form, and read in every form it can be parsed from. -/
def uuid : Codec Uuid where
  encode uuid := .string uuid.toString
  decode json := do
    let text ← Codec.readString json
    match Uuid.parseText text.toList with
    | some uuid => .ok uuid
    | none => .error (.custom "UUID parsing failed")
  Valid _ := True
  Represents uuid json := ∃ text, json = .string text ∧ Uuid.parseText text.toList = some uuid
  decode_iff uuid json := by
    simp only [Except.bind_eq_ok]
    constructor
    · rintro ⟨text, read, parsed⟩
      refine ⟨text, (Codec.string.decode_iff text json).mp read, ?_⟩
      split at parsed
      · cases parsed
        assumption
      · cases parsed
    · rintro ⟨text, rfl, parsed⟩
      exact ⟨text, rfl, by rw [parsed]⟩
  represents_encode uuid _ :=
    ⟨uuid.toString, rfl, by rw [Uuid.toString, String.toList_ofList, Uuid.parseText_toText]⟩
  valid_of_represents _ _ _ := trivial

theorem uuid_solid : uuid.Solid := by
  rintro uuid ⟨text, same, -⟩
  cases same

def commandStatusName : CommandStatus → String
  | .pending => "Pending"
  | .claimed => "Claimed"
  | .running => "Running"
  | .succeeded => "Succeeded"
  | .failed => "Failed"
  | .cancelled => "Cancelled"
  | .expired => "Expired"

def commandStatus : Codec CommandStatus :=
  .variants
    { all := [.pending, .claimed, .running, .succeeded, .failed, .cancelled, .expired]
      name := commandStatusName
      complete := fun value => by cases value <;> decide
      distinct := by decide }

def commandTypeName : CommandType → String
  | .inspectProject => "InspectProject"
  | .deployProject => "DeployProject"
  | .restartProject => "RestartProject"
  | .stopProject => "StopProject"
  | .sleepProject => "SleepProject"
  | .wakeProject => "WakeProject"
  | .healthCheck => "HealthCheck"
  | .refreshRoute => "RefreshRoute"
  | .reconcileWorkload => "ReconcileWorkload"
  | .cleanupRuntime => "CleanupRuntime"
  | .drainNode => "DrainNode"
  | .resumeNode => "ResumeNode"

def commandType : Codec CommandType :=
  .variants
    { all := [.inspectProject, .deployProject, .restartProject, .stopProject, .sleepProject,
        .wakeProject, .healthCheck, .refreshRoute, .reconcileWorkload, .cleanupRuntime, .drainNode,
        .resumeNode]
      name := commandTypeName
      complete := fun value => by cases value <;> decide
      distinct := by decide }

def desiredWorkloadStateName : DesiredWorkloadState → String
  | .running => "running"
  | .stopped => "stopped"
  | .missing => "missing"

def desiredWorkloadState : Codec DesiredWorkloadState :=
  .variants
    { all := [.running, .stopped, .missing]
      name := desiredWorkloadStateName
      complete := fun value => by cases value <;> decide
      distinct := by decide }

def reconcileWorkloadActionName : ReconcileWorkloadAction → String
  | .restartLogFollower => "restart_log_follower"
  | .cleanupFailedCandidate => "cleanup_failed_candidate"
  | .restoreRoute => "restore_route"

def reconcileWorkloadAction : Codec ReconcileWorkloadAction :=
  .variants
    { all := [.restartLogFollower, .cleanupFailedCandidate, .restoreRoute]
      name := reconcileWorkloadActionName
      complete := fun value => by cases value <;> decide
      distinct := by decide }

def runtimeCleanupTargetName : RuntimeCleanupTarget → String
  | .staleWorkspaces => "stale_workspaces"
  | .staleImages => "stale_images"
  | .staleRoutes => "stale_routes"

def runtimeCleanupTarget : Codec RuntimeCleanupTarget :=
  .variants
    { all := [.staleWorkspaces, .staleImages, .staleRoutes]
      name := runtimeCleanupTargetName
      complete := fun value => by cases value <;> decide
      distinct := by decide }

def repositoryAccessName : RepositoryAccess → String
  | .publicAccess => "public"
  | .temporaryCredential => "temporary_credential"

def repositoryAccess : Codec RepositoryAccess :=
  .variants
    { all := [.publicAccess, .temporaryCredential]
      name := repositoryAccessName
      complete := fun value => by cases value <;> decide
      distinct := by decide }

def deploymentBuilderName : DeploymentBuilder → String
  | .auto => "auto"
  | .dockerfile => "dockerfile"
  | .railpack => "railpack"

def deploymentBuilder : Codec DeploymentBuilder :=
  .variants
    { all := [.auto, .dockerfile, .railpack]
      name := deploymentBuilderName
      complete := fun value => by cases value <;> decide
      distinct := by decide }

def finalizationDeferredReasonName : FinalizationDeferredReason → String
  | .graceElapsed => "grace_elapsed"
  | .runtimeError => "runtime_error"

def finalizationDeferredReason : Codec FinalizationDeferredReason :=
  .variants
    { all := [.graceElapsed, .runtimeError]
      name := finalizationDeferredReasonName
      complete := fun value => by cases value <;> decide
      distinct := by decide }

/-! ### Resources and limits -/

/-- An optional number, by its width. -/
def optionalU32 (name : String) : Field (Option UInt32) :=
  .optional name .u32 Codec.solid_u32

def optionalU64 (name : String) : Field (Option UInt64) :=
  .optional name .u64 Codec.solid_u64

def runtimeResourceLimitsFields : Layout (Option UInt64 × Option UInt32 × Option UInt32 × Unit) :=
  .field (optionalU64 "memory_mb") <|
  .field (optionalU32 "cpu_millis") <|
  .field (optionalU32 "pids_limit") .nil

def runtimeResourceLimits : Codec RuntimeResourceLimits :=
  (runtimeResourceLimitsFields.codec (by decide)).ofEquiv
    { toFun := fun limits => (limits.memoryMb, limits.cpuMillis, limits.pidsLimit, ())
      invFun := fun (memoryMb, cpuMillis, pidsLimit, ()) => { memoryMb, cpuMillis, pidsLimit }
      left_inv := fun _ => rfl
      right_inv := fun _ => rfl }

theorem runtimeResourceLimits_valid (limits : RuntimeResourceLimits) :
    runtimeResourceLimits.Valid limits :=
  ⟨fun _ _ => trivial, fun _ _ => trivial, fun _ _ => trivial, trivial⟩

def runtimeTimeoutLimitsFields : Layout (Option UInt64 × Option UInt64 × Option UInt64 × Unit) :=
  .field (optionalU64 "build_timeout_seconds") <|
  .field (optionalU64 "start_timeout_seconds") <|
  .field (optionalU64 "command_timeout_seconds") .nil

def runtimeTimeoutLimits : Codec RuntimeTimeoutLimits :=
  (runtimeTimeoutLimitsFields.codec (by decide)).ofEquiv
    { toFun := fun limits =>
        (limits.buildTimeoutSeconds, limits.startTimeoutSeconds, limits.commandTimeoutSeconds, ())
      invFun := fun (buildTimeoutSeconds, startTimeoutSeconds, commandTimeoutSeconds, ()) =>
        { buildTimeoutSeconds, startTimeoutSeconds, commandTimeoutSeconds }
      left_inv := fun _ => rfl
      right_inv := fun _ => rfl }

theorem runtimeTimeoutLimits_valid (limits : RuntimeTimeoutLimits) :
    runtimeTimeoutLimits.Valid limits :=
  ⟨fun _ _ => trivial, fun _ _ => trivial, fun _ _ => trivial, trivial⟩

def logBoundsFields : Layout (Option UInt64 × Option UInt64 × Option UInt64 × Unit) :=
  .field (optionalU64 "max_line_length") <|
  .field (optionalU64 "max_batch_lines") <|
  .field (optionalU64 "max_total_bytes") .nil

def logBounds : Codec LogBounds :=
  (logBoundsFields.codec (by decide)).ofEquiv
    { toFun := fun bounds => (bounds.maxLineLength, bounds.maxBatchLines, bounds.maxTotalBytes, ())
      invFun := fun (maxLineLength, maxBatchLines, maxTotalBytes, ()) =>
        { maxLineLength, maxBatchLines, maxTotalBytes }
      left_inv := fun _ => rfl
      right_inv := fun _ => rfl }

theorem logBounds_valid (bounds : LogBounds) : logBounds.Valid bounds :=
  ⟨fun _ _ => trivial, fun _ _ => trivial, fun _ _ => trivial, trivial⟩

def appliedRuntimeResourcesFields : Layout (UInt64 × UInt32 × UInt32 × Unit) :=
  .field (.required "memory_mb" .u64) <|
  .field (.required "cpu_millis" .u32) <|
  .field (.required "pids_limit" .u32) .nil

def appliedRuntimeResources : Codec AppliedRuntimeResources :=
  (appliedRuntimeResourcesFields.codec (by decide)).ofEquiv
    { toFun := fun resources => (resources.memoryMb, resources.cpuMillis, resources.pidsLimit, ())
      invFun := fun (memoryMb, cpuMillis, pidsLimit, ()) => { memoryMb, cpuMillis, pidsLimit }
      left_inv := fun _ => rfl
      right_inv := fun _ => rfl }

/-! ### Payloads -/

def defaultContainerPort : UInt16 :=
  3000

def deployProjectPayloadFields : Layout (String × String × RepositoryAccess × String × UInt16 ×
    DeploymentBuilder × List (String × String) × RuntimeResourceLimits × RuntimeTimeoutLimits ×
    LogBounds × Unit) :=
  .field (.required "repository_url" .string) <|
  .field (.required "commit_sha" .string) <|
  .field (.defaulted "repository_access" repositoryAccess .publicAccess trivial) <|
  .field (.required "domain" .string) <|
  .field (.defaulted "container_port" .u16 defaultContainerPort trivial) <|
  .field (.defaulted "builder" deploymentBuilder .auto trivial) <|
  .field (.defaulted "environment" (.map .string) [] ⟨.nil, by simp⟩) <|
  .field (.defaulted "resources" runtimeResourceLimits {} (runtimeResourceLimits_valid _)) <|
  .field (.defaulted "timeouts" runtimeTimeoutLimits {} (runtimeTimeoutLimits_valid _)) <|
  .field (.defaulted "log_bounds" logBounds {} (logBounds_valid _)) .nil

def deployProjectPayload : Codec DeployProjectPayload :=
  (deployProjectPayloadFields.codec (by decide)).ofEquiv
    { toFun := fun payload => (payload.repositoryUrl, payload.commitSha, payload.repositoryAccess,
        payload.domain, payload.containerPort, payload.builder, payload.environment,
        payload.resources, payload.timeouts, payload.logBounds, ())
      invFun := fun (repositoryUrl, commitSha, repositoryAccess, domain, containerPort, builder,
          environment, resources, timeouts, logBounds, ()) =>
        { repositoryUrl, commitSha, repositoryAccess, domain, containerPort, builder, environment,
          resources, timeouts, logBounds }
      left_inv := fun _ => rfl
      right_inv := fun _ => rfl }

/-- Every payload of a deployment is read back whose environment is a map. -/
theorem deployProjectPayload_valid {payload : DeployProjectPayload}
    (isMap : Entries.Sorted payload.environment) : deployProjectPayload.Valid payload :=
  ⟨trivial, trivial, trivial, trivial, trivial, trivial, ⟨isMap, fun _ _ => trivial⟩,
    runtimeResourceLimits_valid _, runtimeTimeoutLimits_valid _, logBounds_valid _, trivial⟩

def inspectProjectPayloadFields : Layout (String × String × RepositoryAccess × Unit) :=
  .field (.required "repository_url" .string) <|
  .field (.required "commit_sha" .string) <|
  .field (.defaulted "repository_access" repositoryAccess .publicAccess trivial) .nil

def inspectProjectPayload : Codec InspectProjectPayload :=
  (inspectProjectPayloadFields.codec (by decide)).ofEquiv
    { toFun := fun payload =>
        (payload.repositoryUrl, payload.commitSha, payload.repositoryAccess, ())
      invFun := fun (repositoryUrl, commitSha, repositoryAccess, ()) =>
        { repositoryUrl, commitSha, repositoryAccess }
      left_inv := fun _ => rfl
      right_inv := fun _ => rfl }

theorem inspectProjectPayload_valid (payload : InspectProjectPayload) :
    inspectProjectPayload.Valid payload :=
  ⟨trivial, trivial, trivial, trivial⟩

def reconcileWorkloadPayloadFields :
    Layout (DesiredWorkloadState × List ReconcileWorkloadAction × Unit) :=
  .field (.required "desired_state" desiredWorkloadState) <|
  .field (.defaulted "actions" (.list reconcileWorkloadAction) [] (by simp [Codec.list])) .nil

def reconcileWorkloadPayload : Codec ReconcileWorkloadPayload :=
  (reconcileWorkloadPayloadFields.codec (by decide)).ofEquiv
    { toFun := fun payload => (payload.desiredState, payload.actions, ())
      invFun := fun (desiredState, actions, ()) => { desiredState, actions }
      left_inv := fun _ => rfl
      right_inv := fun _ => rfl }

theorem reconcileWorkloadPayload_valid (payload : ReconcileWorkloadPayload) :
    reconcileWorkloadPayload.Valid payload :=
  ⟨trivial, fun _ _ => trivial, trivial⟩

def cleanupRuntimePayloadFields : Layout (Bool × List RuntimeCleanupTarget × Unit) :=
  .field (.required "approved" .bool) <|
  .field (.required "targets" (.list runtimeCleanupTarget)) .nil

def cleanupRuntimePayload : Codec CleanupRuntimePayload :=
  (cleanupRuntimePayloadFields.codec (by decide)).ofEquiv
    { toFun := fun payload => (payload.approved, payload.targets, ())
      invFun := fun (approved, targets, ()) => { approved, targets }
      left_inv := fun _ => rfl
      right_inv := fun _ => rfl }

theorem cleanupRuntimePayload_valid (payload : CleanupRuntimePayload) :
    cleanupRuntimePayload.Valid payload :=
  ⟨trivial, fun _ _ => trivial, trivial⟩

/-! ### Commands and their results -/

def agentCommandFields : Layout (Uuid × CommandType × CommandStatus × Option Uuid × Option Uuid ×
    Json × Unit) :=
  .field (.required "id" uuid) <|
  .field (.required "type" commandType) <|
  .field (.required "status" commandStatus) <|
  .field (.optional "project_id" uuid uuid_solid) <|
  .field (.optional "deployment_id" uuid uuid_solid) <|
  .field (.defaulted "payload" .value .null trivial) .nil

def agentCommand : Codec AgentCommand :=
  (agentCommandFields.codec (by decide)).ofEquiv
    { toFun := fun command => (command.id, command.commandType, command.status, command.projectId,
        command.deploymentId, command.payload, ())
      invFun := fun (id, commandType, status, projectId, deploymentId, payload, ()) =>
        { id, commandType, status, projectId, deploymentId, payload }
      left_inv := fun _ => rfl
      right_inv := fun _ => rfl }

theorem agentCommand_valid (command : AgentCommand) : agentCommand.Valid command :=
  ⟨trivial, trivial, trivial, fun _ _ => trivial, fun _ _ => trivial, trivial, trivial⟩

/-- `is_false`. -/
def isFalse (value : Bool) : Bool :=
  !value

theorem eq_of_isFalse (value : Bool) (skipped : isFalse value = true) : false = value := by
  cases value with
  | false => rfl
  | true => cases skipped

def deployProjectResultFields : Layout (RuntimeResourceLimits × AppliedRuntimeResources × Bool ×
    Option FinalizationDeferredReason × Unit) :=
  .field (.required "requested_resources" runtimeResourceLimits) <|
  .field (.required "applied_resources" appliedRuntimeResources) <|
  .field (.omitted "finalization_deferred" .bool false trivial isFalse eq_of_isFalse) <|
  .field (.omitted "finalization_deferred_reason"
    (finalizationDeferredReason.option Codec.solid_variants) none (fun _ same => by cases same)
    Option.isNone fun value skipped => (Option.isNone_iff_eq_none.mp skipped).symm) .nil

def deployProjectResult : Codec DeployProjectResult :=
  (deployProjectResultFields.codec (by decide)).ofEquiv
    { toFun := fun result => (result.requestedResources, result.appliedResources,
        result.finalizationDeferred, result.finalizationDeferredReason, ())
      invFun := fun (requestedResources, appliedResources, finalizationDeferred,
          finalizationDeferredReason, ()) =>
        { requestedResources, appliedResources, finalizationDeferred, finalizationDeferredReason }
      left_inv := fun _ => rfl
      right_inv := fun _ => rfl }

theorem deployProjectResult_valid (result : DeployProjectResult) :
    deployProjectResult.Valid result :=
  ⟨runtimeResourceLimits_valid _, ⟨trivial, trivial, trivial, trivial⟩, trivial,
    fun _ _ => trivial, trivial⟩

end Wire

end SakalaAgent
