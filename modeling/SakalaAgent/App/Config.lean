/-
Module: SakalaAgent.App.Config
Layer: App
Purpose: The settings of the application: those of the agent and of the runtime, read from one
  environment and checked against each other.
Trusted boundary: none
Main exports: AppConfig, AppConfig.fromValues, AppConfig.Sound, AppConfig.fromValues_ok
-/
import SakalaAgent.Core.Config
import SakalaAgent.Runtime.Config

namespace SakalaAgent

inductive RuntimeDriver where
  | noop | docker
deriving DecidableEq, Repr

def RuntimeDriver.fromStr (value : String) : Except CoreError RuntimeDriver :=
  if Text.lowerAscii value.toList = "noop".toList then .ok .noop
  else if Text.lowerAscii value.toList = "docker".toList then .ok .docker
  else
    .error (.invalidConfiguration
      s!"SAKALA_RUNTIME_DRIVER must be noop or docker, received {value}")

def capabilities : RuntimeDriver → List String
  | .noop => ["noop-runtime"]
  | .docker =>
      ["docker-runtime", "project-inspection", "dockerfile-build", "railpack-info",
        "railpack-build", "caddy-file-routing"]

structure AppConfig where
  agent : AgentConfig
  runtimeDriver : RuntimeDriver
  dockerRuntime : DockerRuntimeConfig
  runtimeHealthInterval : Duration
  logLevel : String

/-! ### Resources -/

/-- One entry of the table of defaults and maxima. -/
def validateDefault (name : String) (default maximum : Nat) : Except CoreError Unit :=
  if maximum < default then
    .error (.invalidConfiguration
      s!"default {name} limit ({default}) cannot exceed node maximum ({maximum})")
  else .ok ()

def resourceSafety (values : Values) : Except CoreError ResourceSafetyConfig := do
  let defaultMemoryMb ← values.positiveU64 "SAKALA_DEFAULT_CONTAINER_MEMORY_MB" 256
  let maxMemoryMb ← values.positiveU64 "SAKALA_MAX_CONTAINER_MEMORY_MB" 512
  let defaultCpuMillis ← values.positiveU32 "SAKALA_DEFAULT_CONTAINER_CPU_MILLIS" 500
  let maxCpuMillis ← values.positiveU32 "SAKALA_MAX_CONTAINER_CPU_MILLIS" 1000
  let defaultPidsLimit ← values.positiveU32 "SAKALA_DEFAULT_CONTAINER_PIDS_LIMIT" 128
  let maxPidsLimit ← values.positiveU32 "SAKALA_MAX_CONTAINER_PIDS_LIMIT" 256
  validateDefault "container memory" defaultMemoryMb.toNat maxMemoryMb.toNat
  validateDefault "container CPU" defaultCpuMillis.toNat maxCpuMillis.toNat
  validateDefault "container process" defaultPidsLimit.toNat maxPidsLimit.toNat
  return {
    defaultMemoryMb := defaultMemoryMb
    maxMemoryMb
    defaultCpuMillis
    maxCpuMillis
    defaultPidsLimit
    maxPidsLimit }

/-! ### The application -/

/-- The disk floor is set in mebibytes. -/
def minWorkspaceFreeBytes (values : Values) : Except CoreError UInt64 := do
  let mebibytes ← values.positiveU64 "SAKALA_MIN_WORKSPACE_FREE_MB" 1024
  if mebibytes.toNat * (1024 * 1024) < 2 ^ 64 then return mebibytes * (1024 * 1024)
  else
    throw (.invalidConfiguration "SAKALA_MIN_WORKSPACE_FREE_MB is too large to represent")

/-- The phases of a deployment have to end before its command does. -/
def validateTimeouts (buildTimeoutSeconds startTimeoutSeconds commandTimeoutSeconds : UInt64) :
    Except CoreError Unit :=
  if commandTimeoutSeconds ≤ buildTimeoutSeconds ∨ commandTimeoutSeconds ≤ startTimeoutSeconds then
    .error (.invalidConfiguration
      s!"SAKALA_BUILD_TIMEOUT_SECONDS ({buildTimeoutSeconds}) and SAKALA_START_TIMEOUT_SECONDS ({startTimeoutSeconds}) must be shorter than SAKALA_COMMAND_TIMEOUT_SECONDS ({commandTimeoutSeconds})")
  else .ok ()

def AppConfig.fromValues (values : Values) : Except CoreError AppConfig := do
  let runtimeDriver ← RuntimeDriver.fromStr (values.get "SAKALA_RUNTIME_DRIVER" "noop")
  let parsed ← AgentConfig.fromValues values
  let agent := { parsed with capabilities := capabilities runtimeDriver }
  let resourceSafety ← resourceSafety values
  let minWorkspaceFreeBytes ← minWorkspaceFreeBytes values
  let buildTimeoutSeconds ← values.positiveU64 "SAKALA_BUILD_TIMEOUT_SECONDS" 600
  let startTimeoutSeconds ← values.positiveU64 "SAKALA_START_TIMEOUT_SECONDS" 120
  validateTimeouts buildTimeoutSeconds startTimeoutSeconds agent.commandTimeoutSeconds
  let workspaceGcMaxAge ← values.positiveU64 "SAKALA_WORKSPACE_GC_MAX_AGE_SECONDS" 86400
  let imageGcMaxAge ← values.positiveU64 "SAKALA_IMAGE_GC_MAX_AGE_SECONDS" 604800
  let maxConcurrentBuilds ← values.positiveUsize "SAKALA_MAX_CONCURRENT_BUILDS" 1
  let maxActiveContainers ← values.positiveU32 "SAKALA_MAX_ACTIVE_CONTAINERS" 20
  let runtimeHealthInterval ← values.positiveU64 "SAKALA_RUNTIME_HEALTH_INTERVAL_SECONDS" 30
  return {
    agent
    runtimeDriver
    dockerRuntime :=
      { agentId := agent.agentId
        workspaceRoot := values.get "SAKALA_RUNTIME_WORKSPACE" "/var/lib/sakala/builds"
        workspaceGcMaxAge := workspaceGcMaxAge.toNat
        imageGcMaxAge := imageGcMaxAge.toNat
        minWorkspaceFreeBytes
        runtimeNetwork := agent.runtimeNetwork
        caddySitesDir := values.get "SAKALA_CADDY_SITES_DIR" "/var/lib/sakala/caddy/sites"
        caddyContainer := values.get "SAKALA_CADDY_CONTAINER" "sakala-caddy"
        railpackFrontend :=
          values.get "SAKALA_RAILPACK_FRONTEND" "ghcr.io/railwayapp/railpack-frontend:v0.23.0"
        resourceSafety
        timeoutSafety :=
          { maxBuildTimeout := buildTimeoutSeconds.toNat
            maxStartTimeout := startTimeoutSeconds.toNat
            maxCommandTimeout := Duration.asSecs agent.commandTimeout }
        maxConcurrentBuilds
        maxActiveContainers }
    runtimeHealthInterval := Duration.fromSecs runtimeHealthInterval.toNat
    logLevel := values.get "SAKALA_LOG_LEVEL" "info" }

/-! ### What is known of settings that are accepted -/

/-- A default that can be used: it is above zero and not above its maximum. -/
def UsableDefault (default maximum : Nat) : Prop :=
  0 < default ∧ default ≤ maximum

structure ResourceSafetyConfig.Sound (config : ResourceSafetyConfig) : Prop where
  memory : UsableDefault config.defaultMemoryMb.toNat config.maxMemoryMb.toNat
  cpu : UsableDefault config.defaultCpuMillis.toNat config.maxCpuMillis.toNat
  pids : UsableDefault config.defaultPidsLimit.toNat config.maxPidsLimit.toNat

/-- Every phase can last for as long as the node allows and still end before its command. -/
structure TimeoutSafetyConfig.Sound (config : TimeoutSafetyConfig) : Prop where
  build : 0 < config.maxBuildTimeout ∧ config.maxBuildTimeout < config.maxCommandTimeout
  start : 0 < config.maxStartTimeout ∧ config.maxStartTimeout < config.maxCommandTimeout

/-- The agent and the runtime agree on the longest command. -/
structure AppConfig.Sound (config : AppConfig) : Prop where
  resources : config.dockerRuntime.resourceSafety.Sound
  timeouts : config.dockerRuntime.timeoutSafety.Sound
  command : config.dockerRuntime.timeoutSafety.maxCommandTimeout =
    Duration.asSecs config.agent.commandTimeout

theorem Duration.asSecs_fromSecs (seconds : Nat) :
    Duration.asSecs (Duration.fromSecs seconds) = seconds :=
  Nat.mul_div_cancel seconds (Nat.zero_lt_succ _)

theorem validateDefault_ok {name : String} {default maximum : Nat} {verdict : Unit}
    (accepted : validateDefault name default maximum = .ok verdict) : default ≤ maximum := by
  unfold validateDefault at accepted
  split at accepted
  · cases accepted
  · rename_i notAbove
    exact Nat.le_of_not_lt notAbove

theorem validateTimeouts_ok {build start command : UInt64} {verdict : Unit}
    (accepted : validateTimeouts build start command = .ok verdict) :
    build.toNat < command.toNat ∧ start.toNat < command.toNat := by
  unfold validateTimeouts at accepted
  split at accepted
  · cases accepted
  · rename_i shorter
    obtain ⟨buildEnds, startEnds⟩ := not_or.mp shorter
    exact ⟨UInt64.lt_iff_toNat_lt.mp (UInt64.not_le.mp buildEnds),
      UInt64.lt_iff_toNat_lt.mp (UInt64.not_le.mp startEnds)⟩

theorem resourceSafety_ok {values : Values} {config : ResourceSafetyConfig}
    (accepted : resourceSafety values = .ok config) : config.Sound := by
  obtain ⟨defaultMemory, readMemory, accepted⟩ := exists_of_bind_ok accepted
  obtain ⟨maxMemory, _, accepted⟩ := exists_of_bind_ok accepted
  obtain ⟨defaultCpu, readCpu, accepted⟩ := exists_of_bind_ok accepted
  obtain ⟨maxCpu, _, accepted⟩ := exists_of_bind_ok accepted
  obtain ⟨defaultPids, readPids, accepted⟩ := exists_of_bind_ok accepted
  obtain ⟨maxPids, _, accepted⟩ := exists_of_bind_ok accepted
  obtain ⟨_, memory, accepted⟩ := exists_of_bind_ok accepted
  obtain ⟨_, cpu, accepted⟩ := exists_of_bind_ok accepted
  obtain ⟨_, pids, accepted⟩ := exists_of_bind_ok accepted
  cases accepted
  exact
    { memory := ⟨Values.positiveU64_ok readMemory, validateDefault_ok memory⟩
      cpu := ⟨Values.positiveU32_ok readCpu, validateDefault_ok cpu⟩
      pids := ⟨Values.positiveU32_ok readPids, validateDefault_ok pids⟩ }

theorem AppConfig.fromValues_ok {values : Values} {config : AppConfig}
    (accepted : AppConfig.fromValues values = .ok config) : config.Sound := by
  obtain ⟨driver, _, accepted⟩ := exists_of_bind_ok accepted
  obtain ⟨agent, _, accepted⟩ := exists_of_bind_ok accepted
  obtain ⟨resources, readResources, accepted⟩ := exists_of_bind_ok accepted
  obtain ⟨free, _, accepted⟩ := exists_of_bind_ok accepted
  obtain ⟨build, readBuild, accepted⟩ := exists_of_bind_ok accepted
  obtain ⟨start, readStart, accepted⟩ := exists_of_bind_ok accepted
  obtain ⟨_, shorter, accepted⟩ := exists_of_bind_ok accepted
  obtain ⟨workspaceAge, _, accepted⟩ := exists_of_bind_ok accepted
  obtain ⟨imageAge, _, accepted⟩ := exists_of_bind_ok accepted
  obtain ⟨builds, _, accepted⟩ := exists_of_bind_ok accepted
  obtain ⟨active, _, accepted⟩ := exists_of_bind_ok accepted
  obtain ⟨interval, _, accepted⟩ := exists_of_bind_ok accepted
  cases accepted
  obtain ⟨buildEnds, startEnds⟩ := validateTimeouts_ok shorter
  have command := Duration.asSecs_fromSecs agent.commandTimeoutSeconds.toNat
  exact
    { resources := resourceSafety_ok readResources
      timeouts :=
        { build := ⟨Values.positiveU64_ok readBuild, lt_of_lt_of_eq buildEnds command.symm⟩
          start := ⟨Values.positiveU64_ok readStart, lt_of_lt_of_eq startEnds command.symm⟩ }
      command := rfl }

end SakalaAgent
