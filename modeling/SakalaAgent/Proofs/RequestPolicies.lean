/-
Module: SakalaAgent.Proofs.RequestPolicies
Layer: Proofs
Purpose: Settings that are accepted and requests that are accepted fit together. The limits are
  checked in four places, by the application, by the command processor and twice by the runtime;
  what each of them accepts is stated once, and the results are put together here.
Trusted boundary: the decoding of payloads is a parameter.
Main exports: TimeoutSafetyConfig.resolve_eq_ok, ResourceSafetyConfig.resolve_eq_ok,
  CommandProcessor.commandPolicy_eq_ok, PoliciesFit, policies_fit
-/
import SakalaAgent.App.Config
import SakalaAgent.Proofs.TerminalReport

namespace SakalaAgent

open Async

/-! ### Requested values -/

/-- A value that is asked for, or else the default. -/
structure Resolved (requested : Option Nat) (default maximum value : Nat) : Prop where
  chosen : requested.getD default = value
  isPos : 0 < value
  within : value ≤ maximum

theorem Resolved.of_unset {default maximum : Nat} (isPos : 0 < default)
    (within : default ≤ maximum) : Resolved none default maximum default :=
  ⟨rfl, isPos, within⟩

theorem Resolved.of_requested {requested : Option Nat} {default maximum value : Nat}
    (resolved : Resolved requested default maximum value) :
    ∀ asked, requested = some asked → value = asked := by
  intro asked given
  rw [← resolved.chosen, given]
  rfl

theorem Resolved.unique {requested : Option Nat} {default maximum first second : Nat}
    (one : Resolved requested default maximum first)
    (two : Resolved requested default maximum second) : first = second :=
  one.chosen.symm.trans two.chosen

/-- Both functions that resolve a value refuse zero and what is above the maximum. -/
theorem resolved_iff {ε : Type} {zero above : ε} {requested : Option Nat}
    {default maximum value : Nat} :
    (if requested.getD default = 0 then Except.error zero
      else if maximum < requested.getD default then Except.error above
      else Except.ok (requested.getD default)) = Except.ok value ↔
      Resolved requested default maximum value := by
  constructor
  · intro accepted
    split at accepted
    · cases accepted
    · split at accepted
      · cases accepted
      · rename_i notZero notAbove
        cases accepted
        exact ⟨rfl, Nat.pos_of_ne_zero notZero, Nat.le_of_not_lt notAbove⟩
  · intro resolved
    rw [resolved.chosen, if_neg (Nat.ne_of_gt resolved.isPos),
      if_neg (Nat.not_lt.mpr resolved.within)]

theorem resolveTimeout_eq_ok {name : String} {requested : Option UInt64} {maximum seconds : Nat} :
    resolveTimeout name requested maximum = .ok seconds ↔
      Resolved (requested.map UInt64.toNat) maximum maximum seconds :=
  resolved_iff

theorem resolveLimit_eq_ok {name : String} {requested : Option Nat} {default maximum value : Nat} :
    resolveLimit name requested default maximum = .ok value ↔
      Resolved requested default maximum value :=
  resolved_iff

/-! ### Deadlines -/

/-- What the runtime makes of the deadlines of a request; `seconds` is that of the command. -/
structure TimeoutsResolved (config : TimeoutSafetyConfig) (requested : RuntimeTimeoutLimits)
    (seconds : Nat) (timeouts : AppliedRuntimeTimeouts) : Prop where
  build : Resolved (requested.buildTimeoutSeconds.map UInt64.toNat) config.maxBuildTimeout
    config.maxBuildTimeout timeouts.build
  start : Resolved (requested.startTimeoutSeconds.map UInt64.toNat) config.maxStartTimeout
    config.maxStartTimeout timeouts.start
  command : Resolved (requested.commandTimeoutSeconds.map UInt64.toNat) config.maxCommandTimeout
    config.maxCommandTimeout seconds
  buildEnds : timeouts.build < seconds
  startEnds : timeouts.start < seconds

theorem TimeoutSafetyConfig.resolve_eq_ok {config : TimeoutSafetyConfig}
    {requested : RuntimeTimeoutLimits} {timeouts : AppliedRuntimeTimeouts} :
    config.resolve requested = .ok timeouts ↔
      ∃ seconds, TimeoutsResolved config requested seconds timeouts := by
  constructor
  · intro accepted
    obtain ⟨build, readBuild, accepted⟩ := exists_of_bind_ok accepted
    obtain ⟨start, readStart, accepted⟩ := exists_of_bind_ok accepted
    obtain ⟨seconds, readCommand, accepted⟩ := exists_of_bind_ok accepted
    split at accepted
    · cases accepted
    · rename_i shorter
      cases accepted
      obtain ⟨buildEnds, startEnds⟩ := not_or.mp shorter
      exact ⟨seconds,
        { build := resolveTimeout_eq_ok.mp readBuild
          start := resolveTimeout_eq_ok.mp readStart
          command := resolveTimeout_eq_ok.mp readCommand
          buildEnds := Nat.lt_of_not_le buildEnds
          startEnds := Nat.lt_of_not_le startEnds }⟩
  · rintro ⟨seconds, resolved⟩
    have shorter : ¬(seconds ≤ timeouts.build ∨ seconds ≤ timeouts.start) :=
      not_or.mpr ⟨Nat.not_le.mpr resolved.buildEnds, Nat.not_le.mpr resolved.startEnds⟩
    unfold TimeoutSafetyConfig.resolve
    rw [resolveTimeout_eq_ok.mpr resolved.build, resolveTimeout_eq_ok.mpr resolved.start,
      resolveTimeout_eq_ok.mpr resolved.command]
    exact if_neg shorter

/-- A request without deadlines gets those of the node. -/
theorem TimeoutSafetyConfig.Sound.resolve_unset {config : TimeoutSafetyConfig}
    (sound : config.Sound) :
    config.resolve {} = .ok { build := config.maxBuildTimeout, start := config.maxStartTimeout } :=
  TimeoutSafetyConfig.resolve_eq_ok.mpr ⟨config.maxCommandTimeout,
    { build := .of_unset sound.build.1 (Nat.le_refl _)
      start := .of_unset sound.start.1 (Nat.le_refl _)
      command := .of_unset (Nat.zero_lt_of_lt sound.build.2) (Nat.le_refl _)
      buildEnds := sound.build.2
      startEnds := sound.start.2 }⟩

/-! ### Resources -/

/-- What the runtime makes of the resources of a request. -/
structure ResourcesResolved (config : ResourceSafetyConfig) (requested : RuntimeResourceLimits)
    (applied : AppliedRuntimeResources) : Prop where
  memory : Resolved (requested.memoryMb.map UInt64.toNat) config.defaultMemoryMb.toNat
    config.maxMemoryMb.toNat applied.memoryMb.toNat
  cpu : Resolved (requested.cpuMillis.map UInt32.toNat) config.defaultCpuMillis.toNat
    config.maxCpuMillis.toNat applied.cpuMillis.toNat
  pids : Resolved (requested.pidsLimit.map UInt32.toNat) config.defaultPidsLimit.toNat
    config.maxPidsLimit.toNat applied.pidsLimit.toNat

theorem validateSafetyLimit_eq_ok {name : String} {default maximum : Nat} :
    validateSafetyLimit name default maximum = .ok () ↔ UsableDefault default maximum := by
  unfold validateSafetyLimit UsableDefault
  constructor
  · intro accepted
    split at accepted
    · cases accepted
    · omega
  · intro usable
    exact if_neg (by omega)

theorem validateSafetyConfig_eq_ok {config : ResourceSafetyConfig} :
    validateSafetyConfig config = .ok () ↔ config.Sound := by
  constructor
  · intro accepted
    obtain ⟨_, memory, accepted⟩ := exists_of_bind_ok accepted
    obtain ⟨_, cpu, pids⟩ := exists_of_bind_ok accepted
    exact
      { memory := validateSafetyLimit_eq_ok.mp memory
        cpu := validateSafetyLimit_eq_ok.mp cpu
        pids := validateSafetyLimit_eq_ok.mp pids }
  · intro sound
    unfold validateSafetyConfig
    rw [validateSafetyLimit_eq_ok.mpr sound.memory, validateSafetyLimit_eq_ok.mpr sound.cpu]
    exact validateSafetyLimit_eq_ok.mpr sound.pids

/-- The runtime checks its settings again at every request. -/
theorem ResourceSafetyConfig.resolve_eq_ok {config : ResourceSafetyConfig}
    {requested : RuntimeResourceLimits} {applied : AppliedRuntimeResources} :
    config.resolve requested = .ok applied ↔
      config.Sound ∧ ResourcesResolved config requested applied := by
  constructor
  · intro accepted
    obtain ⟨_, sound, accepted⟩ := exists_of_bind_ok accepted
    obtain ⟨memory, readMemory, accepted⟩ := exists_of_bind_ok accepted
    obtain ⟨cpu, readCpu, accepted⟩ := exists_of_bind_ok accepted
    obtain ⟨pids, readPids, accepted⟩ := exists_of_bind_ok accepted
    cases accepted
    have ofMemory := resolveLimit_eq_ok.mp readMemory
    have ofCpu := resolveLimit_eq_ok.mp readCpu
    have ofPids := resolveLimit_eq_ok.mp readPids
    -- No applied value is cut: the maximum is one of its own type.
    have memoryFits := Nat.lt_of_le_of_lt ofMemory.within config.maxMemoryMb.toNat_lt
    have cpuFits := Nat.lt_of_le_of_lt ofCpu.within config.maxCpuMillis.toNat_lt
    have pidsFits := Nat.lt_of_le_of_lt ofPids.within config.maxPidsLimit.toNat_lt
    exact ⟨validateSafetyConfig_eq_ok.mp sound,
      { memory := by rwa [UInt64.toNat_ofNat_of_lt' memoryFits]
        cpu := by rwa [UInt32.toNat_ofNat_of_lt' cpuFits]
        pids := by rwa [UInt32.toNat_ofNat_of_lt' pidsFits] }⟩
  · rintro ⟨sound, resolved⟩
    unfold ResourceSafetyConfig.resolve
    rw [validateSafetyConfig_eq_ok.mpr sound, resolveLimit_eq_ok.mpr resolved.memory,
      resolveLimit_eq_ok.mpr resolved.cpu, resolveLimit_eq_ok.mpr resolved.pids]
    change Except.ok (AppliedRuntimeResources.mk (UInt64.ofNat applied.memoryMb.toNat)
      (UInt32.ofNat applied.cpuMillis.toNat) (UInt32.ofNat applied.pidsLimit.toNat)) = _
    rw [UInt64.ofNat_toNat, UInt32.ofNat_toNat, UInt32.ofNat_toNat]

/-- A request without resources gets the defaults of the node. -/
theorem ResourceSafetyConfig.Sound.resolve_unset {config : ResourceSafetyConfig}
    (sound : config.Sound) :
    config.resolve {} =
      .ok ⟨config.defaultMemoryMb, config.defaultCpuMillis, config.defaultPidsLimit⟩ :=
  ResourceSafetyConfig.resolve_eq_ok.mpr ⟨sound,
    { memory := .of_unset sound.memory.1 sound.memory.2
      cpu := .of_unset sound.cpu.1 sound.cpu.2
      pids := .of_unset sound.pids.1 sound.pids.2 }⟩

/-! ### The deadline of the command -/

section Deadline

variable {R : Interface} {processor : CommandProcessor R} {command : AgentCommand}
  {payload : DeployProjectPayload}

/-- The check of the processor, on the deadline that is asked for. -/
theorem deadline_iff {error : RuntimeExecutionError} {requested : Option Nat}
    {maximum asked : Nat} (chosen : requested.getD maximum = asked) {deadline : Duration}
    {logBounds bounds : LogBounds} :
    (if asked = 0 ∨ maximum < asked then Except.error error
      else Except.ok (Duration.fromSecs asked, logBounds)) = Except.ok (deadline, bounds) ↔
      ∃ seconds, Resolved requested maximum maximum seconds ∧
        deadline = Duration.fromSecs seconds ∧ bounds = logBounds := by
  constructor
  · intro accepted
    split at accepted
    · cases accepted
    · rename_i inside
      cases accepted
      obtain ⟨notZero, notAbove⟩ := not_or.mp inside
      exact ⟨asked, ⟨chosen, Nat.pos_of_ne_zero notZero, Nat.le_of_not_lt notAbove⟩, rfl, rfl⟩
  · rintro ⟨seconds, resolved, rfl, rfl⟩
    obtain rfl : asked = seconds := chosen.symm.trans resolved.chosen
    exact if_neg (not_or.mpr ⟨Nat.ne_of_gt resolved.isPos, Nat.not_lt.mpr resolved.within⟩)

/-- The processor resolves the deadline of a deployment as the runtime does. -/
theorem CommandProcessor.commandPolicy_eq_ok (isDeployment : command.commandType = .deployProject)
    (decoded : processor.dispatcher.payloads.deploy command.payload = .ok payload)
    {deadline : Duration} {bounds : LogBounds} :
    processor.commandPolicy command = .ok (deadline, bounds) ↔
      ∃ seconds, Resolved (payload.timeouts.commandTimeoutSeconds.map UInt64.toNat)
        (Duration.asSecs processor.commandTimeout) (Duration.asSecs processor.commandTimeout)
          seconds ∧
        deadline = Duration.fromSecs seconds ∧ bounds = payload.logBounds := by
  unfold CommandProcessor.commandPolicy
  rw [if_neg (not_not.mpr isDeployment), decoded]
  dsimp only
  apply deadline_iff
  cases payload.timeouts.commandTimeoutSeconds with
  | none => rfl
  | some seconds => rfl

/-- A deployment without deadlines gets that of the node. -/
theorem CommandProcessor.commandPolicy_unset (isDeployment : command.commandType = .deployProject)
    (decoded : processor.dispatcher.payloads.deploy command.payload = .ok payload)
    (unset : payload.timeouts = {}) (isPos : 0 < Duration.asSecs processor.commandTimeout) :
    processor.commandPolicy command =
      .ok (Duration.fromSecs (Duration.asSecs processor.commandTimeout), payload.logBounds) := by
  refine (commandPolicy_eq_ok isDeployment decoded).mpr ⟨_, ?_, rfl, rfl⟩
  rw [unset]
  exact .of_unset isPos (Nat.le_refl _)

/-- The claim of a command and its event, in front of what follows them. -/
def CommandProcessor.claimed (processor : CommandProcessor R) (command : AgentCommand)
    (rest : Fallible (Processing R) CoreError Unit) : Fallible (Processing R) CoreError Unit := do
  match ← Fallible.attempt (ApiClient.claim command.id) with
  | .error .commandNotClaimable => return ()
  | .error error => throw error
  | .ok _ =>
      let _ ← processor.client.event command.id CommandProcessor.claimedEvent
      rest

/-- The deadline that the policy yields is the one that the command is executed with. -/
theorem CommandProcessor.process_of_policy {deadline : Duration} {bounds : LogBounds}
    (policy : processor.commandPolicy command = .ok (deadline, bounds)) :
    processor.process command =
      processor.claimed command (ExceptT.mk (processor.execute command deadline)) := by
  unfold CommandProcessor.process
  generalize processor.commandPolicy command = found at policy
  subst policy
  rfl

end Deadline

/-! ### Settings and requests -/

/-- A resource that is applied, in view of what was asked for. -/
structure Granted (requested : Option Nat) (maximum applied : Nat) : Prop where
  isPos : 0 < applied
  within : applied ≤ maximum
  asked : ∀ value, requested = some value → applied = value

theorem Resolved.granted {requested : Option Nat} {default maximum value : Nat}
    (resolved : Resolved requested default maximum value) : Granted requested maximum value :=
  ⟨resolved.isPos, resolved.within, resolved.of_requested⟩

/-- A phase of a deployment ends before its command does. -/
structure EndsBefore (seconds maximum phase : Nat) : Prop where
  isPos : 0 < phase
  ends : phase < seconds
  within : phase ≤ maximum

section Fit

variable {R : Interface}

/-- The settings and the checks of one deployment command fit together. -/
structure PoliciesFit (config : AppConfig) (processor : CommandProcessor R)
    (command : AgentCommand) (payload : DeployProjectPayload) : Prop where
  unsetTimeouts : payload.timeouts = {} → (processor.commandPolicy command).isOk = true ∧
    (config.dockerRuntime.timeoutSafety.resolve payload.timeouts).isOk = true
  unsetResources : payload.resources = {} →
    (config.dockerRuntime.resourceSafety.resolve payload.resources).isOk = true
  deadlines : ∀ deadline bounds timeouts,
    processor.commandPolicy command = .ok (deadline, bounds) →
    config.dockerRuntime.timeoutSafety.resolve payload.timeouts = .ok timeouts →
    ∃ seconds, resolveTimeout "command_timeout_seconds" payload.timeouts.commandTimeoutSeconds
        config.dockerRuntime.timeoutSafety.maxCommandTimeout = .ok seconds ∧
      EndsBefore seconds config.dockerRuntime.timeoutSafety.maxBuildTimeout timeouts.build ∧
      EndsBefore seconds config.dockerRuntime.timeoutSafety.maxStartTimeout timeouts.start ∧
      seconds ≤ config.dockerRuntime.timeoutSafety.maxCommandTimeout ∧
      deadline = Duration.fromSecs seconds ∧
      processor.process command =
        processor.claimed command (ExceptT.mk (processor.execute command deadline))
  resources : ∀ applied, config.dockerRuntime.resourceSafety.resolve payload.resources = .ok applied →
    Granted (payload.resources.memoryMb.map UInt64.toNat)
        config.dockerRuntime.resourceSafety.maxMemoryMb.toNat applied.memoryMb.toNat ∧
      Granted (payload.resources.cpuMillis.map UInt32.toNat)
        config.dockerRuntime.resourceSafety.maxCpuMillis.toNat applied.cpuMillis.toNat ∧
      Granted (payload.resources.pidsLimit.map UInt32.toNat)
        config.dockerRuntime.resourceSafety.maxPidsLimit.toNat applied.pidsLimit.toNat

theorem policies_fit {values : Values} {config : AppConfig}
    (loaded : AppConfig.fromValues values = .ok config) (dispatcher : CommandDispatcher R)
    {command : AgentCommand} {payload : DeployProjectPayload}
    (isDeployment : command.commandType = .deployProject)
    (decoded : dispatcher.payloads.deploy command.payload = .ok payload) :
    PoliciesFit config (.ofConfig config.agent dispatcher) command payload := by
  have sound := AppConfig.fromValues_ok loaded
  have shared := sound.command
  constructor
  case unsetTimeouts =>
    intro unset
    have isPos := shared ▸ Nat.zero_lt_of_lt sound.timeouts.build.2
    rw [CommandProcessor.commandPolicy_unset isDeployment decoded unset isPos, unset,
      sound.timeouts.resolve_unset]
    exact ⟨rfl, rfl⟩
  case unsetResources =>
    intro unset
    rw [unset, sound.resources.resolve_unset]
    rfl
  case deadlines =>
    intro deadline bounds timeouts policy accepted
    obtain ⟨seconds, resolved⟩ := TimeoutSafetyConfig.resolve_eq_ok.mp accepted
    obtain ⟨asked, resolvedAsked, isDeadline, _⟩ :=
      (CommandProcessor.commandPolicy_eq_ok isDeployment decoded).mp policy
    -- Both sides have the same maximum, and so they resolve to the same deadline.
    obtain rfl : asked = seconds := resolvedAsked.unique (shared ▸ resolved.command)
    exact ⟨asked, resolveTimeout_eq_ok.mpr resolved.command,
      ⟨resolved.build.isPos, resolved.buildEnds, resolved.build.within⟩,
      ⟨resolved.start.isPos, resolved.startEnds, resolved.start.within⟩,
      resolved.command.within, isDeadline, CommandProcessor.process_of_policy policy⟩
  case resources =>
    intro applied accepted
    obtain ⟨_, resolved⟩ := ResourceSafetyConfig.resolve_eq_ok.mp accepted
    exact ⟨resolved.memory.granted, resolved.cpu.granted, resolved.pids.granted⟩

end Fit

namespace UnsetEnvironment

/-- What an environment without any settings leads to. -/
def config : AppConfig where
  agent :=
    { mode := .localMode
      agentId := "local-agent-01"
      agentToken := none
      apiUrl := "http://localhost:8000"
      pollIntervalSeconds := 3
      heartbeatIntervalSeconds := 10
      commandTimeoutSeconds := 900
      maxConcurrentCommands := 4
      shutdownGraceSeconds := 30
      runtimeNetwork := "sakala-runtime"
      capabilities := ["noop-runtime"] }
  runtimeDriver := .noop
  dockerRuntime := {}
  runtimeHealthInterval := Duration.fromSecs 30
  logLevel := "info"

/-- Every default passes its own check, and the defaults of the runtime are those of the
environment. -/
theorem loaded : AppConfig.fromValues (fun _ => none) = .ok config :=
  rfl

/-- A deployment that asks for deadlines and for memory. -/
def payload : DeployProjectPayload :=
  { CommittedThenFailed.payload with
    resources := { memoryMb := some 384 }
    timeouts := { buildTimeoutSeconds := some 240, commandTimeoutSeconds := some 300 } }

def decode : Json → Except String DeployProjectPayload
  | .null => .ok CommittedThenFailed.payload
  | _ => .ok payload

def dispatcher : CommandDispatcher CommittedThenFailed.noRuntime :=
  { CommittedThenFailed.processor.dispatcher with
    payloads := { CommittedThenFailed.processor.dispatcher.payloads with deploy := decode } }

def command : AgentCommand :=
  { CommittedThenFailed.command with payload := .bool true }

end UnsetEnvironment

open UnsetEnvironment in
theorem policies_fit_unset :
    PoliciesFit config (.ofConfig config.agent dispatcher) CommittedThenFailed.command
        CommittedThenFailed.payload ∧
      PoliciesFit config (.ofConfig config.agent dispatcher) command payload ∧
      (CommandProcessor.ofConfig config.agent dispatcher).commandPolicy command =
        .ok (Duration.fromSecs 300, {}) ∧
      config.dockerRuntime.timeoutSafety.resolve payload.timeouts = .ok ⟨240, 120⟩ ∧
      config.dockerRuntime.resourceSafety.resolve payload.resources = .ok ⟨384, 500, 128⟩ :=
  ⟨policies_fit loaded dispatcher rfl rfl, policies_fit loaded dispatcher rfl rfl, rfl, rfl, rfl⟩

end SakalaAgent
