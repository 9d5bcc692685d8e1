/-
Module: SakalaAgent.Core.Config
Layer: Core
Purpose: The settings of the agent as they are read from the environment, and the command processor
  that they set up.
Trusted boundary: the sizes of the machine have 64 bits.
Main exports: Values, AgentConfig.fromValues, CommandProcessor.ofConfig, Values.positive_ok
-/
import SakalaAgent.Core.Commands.Processor
import SakalaAgent.Text.Decimal

namespace SakalaAgent

/-- The environment, with the options of the command line in front of it. -/
abbrev Values : Type := String → Option String

/-! ### Single settings -/

namespace Values

def get (values : Values) (key default : String) : String :=
  (values key).getD default

/-- A number above zero; `bound` is the first number that its type cannot hold. -/
def positive (bound : Nat) (values : Values) (key : String) (default : Nat) :
    Except CoreError Nat :=
  match Text.parseNat bound ((values key).getD (toString default)).toList with
  | none => .error (.invalidConfiguration s!"{key} must be a number")
  | some value =>
      if value = 0 then .error (.invalidConfiguration s!"{key} must be greater than zero")
      else .ok value

def positiveU32 (values : Values) (key : String) (default : UInt32) : Except CoreError UInt32 :=
  UInt32.ofNat <$> positive (2 ^ 32) values key default.toNat

def positiveU64 (values : Values) (key : String) (default : UInt64) : Except CoreError UInt64 :=
  UInt64.ofNat <$> positive (2 ^ 64) values key default.toNat

def positiveUsize (values : Values) (key : String) (default : Nat) : Except CoreError Nat :=
  positive (2 ^ 64) values key default

/-- `positive_number`. -/
def positiveNumber (values : Values) (key : String) (default : UInt64) : Except CoreError UInt64 :=
  positiveU64 values key default

end Values

/-! ### The agent -/

inductive AgentMode where
  | localMode | connected
deriving DecidableEq, Repr

def AgentMode.fromStr (value : String) : Except CoreError AgentMode :=
  if Text.lowerAscii value.toList = "local".toList then .ok .localMode
  else if Text.lowerAscii value.toList = "connected".toList then .ok .connected
  else
    .error (.invalidConfiguration
      s!"SAKALA_AGENT_MODE must be local or connected, received {value}")

structure AgentConfig where
  mode : AgentMode
  agentId : String
  agentToken : Option String
  apiUrl : String
  pollIntervalSeconds : UInt64
  heartbeatIntervalSeconds : UInt64
  commandTimeoutSeconds : UInt64
  maxConcurrentCommands : Nat
  shutdownGraceSeconds : UInt64
  runtimeNetwork : String
  capabilities : List String
deriving DecidableEq, Repr

/-- A connected agent needs a token of its own. -/
def validateToken (mode : AgentMode) (agentToken : Option String) : Except CoreError Unit :=
  if mode = .connected ∧ agentToken.all fun token => token = "change-me" then
    .error (.invalidConfiguration
      "SAKALA_AGENT_TOKEN must contain a non-placeholder token in connected mode")
  else .ok ()

namespace AgentConfig

def fromValues (values : Values) : Except CoreError AgentConfig := do
  let mode ← AgentMode.fromStr (values.get "SAKALA_AGENT_MODE" "local")
  let agentToken := (values "SAKALA_AGENT_TOKEN").filter fun value => !Text.isBlank value.toList
  validateToken mode agentToken
  let pollIntervalSeconds ← values.positiveNumber "SAKALA_POLL_INTERVAL_SECONDS" 3
  let heartbeatIntervalSeconds ← values.positiveNumber "SAKALA_HEARTBEAT_INTERVAL_SECONDS" 10
  let commandTimeoutSeconds ← values.positiveNumber "SAKALA_COMMAND_TIMEOUT_SECONDS" 900
  let maxConcurrentCommands ← values.positiveUsize "SAKALA_MAX_CONCURRENT_COMMANDS" 4
  let shutdownGraceSeconds ← values.positiveNumber "SAKALA_SHUTDOWN_GRACE_SECONDS" 30
  return {
    mode
    agentId := values.get "SAKALA_AGENT_ID" "local-agent-01"
    agentToken
    apiUrl := values.get "SAKALA_API_URL" "http://localhost:8000"
    pollIntervalSeconds
    heartbeatIntervalSeconds
    commandTimeoutSeconds
    maxConcurrentCommands
    shutdownGraceSeconds
    runtimeNetwork := values.get "SAKALA_RUNTIME_NETWORK" "sakala-runtime"
    capabilities := ["noop-runtime"] }

def commandTimeout (config : AgentConfig) : Duration :=
  Duration.fromSecs config.commandTimeoutSeconds.toNat

end AgentConfig

/-- The processor that the polling loop hands its commands to. -/
def CommandProcessor.ofConfig {R : Async.Interface} (config : AgentConfig)
    (dispatcher : CommandDispatcher R) : CommandProcessor R where
  dispatcher := dispatcher
  commandTimeout := config.commandTimeout

/-! ### What is known of a setting that is accepted -/

section Checked

variable {ε α β : Type} {checked : Except ε α} {result : β}

/-- A check in front of others has succeeded when they all have. -/
theorem exists_of_bind_ok {next : α → Except ε β} (accepted : (checked >>= next) = .ok result) :
    ∃ value, checked = .ok value ∧ next value = .ok result := by
  cases checked with
  | error error => cases accepted
  | ok value => exact ⟨value, rfl, accepted⟩

theorem exists_of_map_ok {convert : α → β} (accepted : (convert <$> checked) = .ok result) :
    ∃ value, checked = .ok value ∧ convert value = result := by
  cases checked with
  | error error => cases accepted
  | ok value => exact ⟨value, rfl, Except.ok.inj accepted⟩

end Checked

namespace Values

variable {values : Values} {key : String}

theorem positive_ok {bound default value : Nat}
    (accepted : positive bound values key default = .ok value) : 0 < value ∧ value < bound := by
  unfold positive at accepted
  cases parsed : Text.parseNat bound ((values key).getD (toString default)).toList with
  | none =>
      rw [parsed] at accepted
      cases accepted
  | some number =>
      rw [parsed] at accepted
      dsimp only at accepted
      split at accepted
      · cases accepted
      · rename_i notZero
        cases accepted
        exact ⟨Nat.pos_of_ne_zero notZero, Text.parseNat_lt parsed⟩

theorem positiveU64_ok {default value : UInt64}
    (accepted : positiveU64 values key default = .ok value) : 0 < value.toNat := by
  obtain ⟨number, read, same⟩ := exists_of_map_ok accepted
  obtain ⟨isPos, below⟩ := positive_ok read
  rwa [← same, UInt64.toNat_ofNat_of_lt' below]

theorem positiveU32_ok {default value : UInt32}
    (accepted : positiveU32 values key default = .ok value) : 0 < value.toNat := by
  obtain ⟨number, read, same⟩ := exists_of_map_ok accepted
  obtain ⟨isPos, below⟩ := positive_ok read
  rwa [← same, UInt32.toNat_ofNat_of_lt' below]

end Values

end SakalaAgent
