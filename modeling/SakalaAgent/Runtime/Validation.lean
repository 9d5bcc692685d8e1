/-
Module: SakalaAgent.Runtime.Validation
Layer: Runtime
Purpose: The checks of a deployment request: its repository, domain and environment, and the
  deadlines and resources it asks for against the ceilings of the node.
Trusted boundary: the URL parser and the way a text is printed for debugging are parameters.
Main exports: validatePayload, inspectionSource, deploymentSource, TimeoutSafetyConfig.resolve,
  ResourceSafetyConfig.resolve
-/
import SakalaAgent.Runtime.Workspace

namespace SakalaAgent

/-! ### Repositories -/

/-- A parsed URL. -/
structure Url where
  scheme : String
  host : Option String
  username : String
  password : Option String
  query : Option String
  fragment : Option String
  pathSegments : Option (List String)
deriving DecidableEq

/-- What the checks use of other crates. -/
structure Parsers where
  parseUrl : String → Except String Url
  printDebug : Text → String

def isAsciiHexDigit (character : Char) : Bool :=
  (Uuid.hexValue character).isSome

def validateRepositorySource (parsers : Parsers) (repositoryUrl commitSha : String) :
    Except RuntimeError Unit :=
  match parsers.parseUrl repositoryUrl with
  | .error error => .error (.invalidCommand s!"invalid repository URL: {error}")
  | .ok repository =>
      if repository.scheme ≠ "https" ∨ repository.host ≠ some "github.com" ∨
          repository.username ≠ "" ∨ repository.password.isSome ∨ repository.query.isSome ∨
          repository.fragment.isSome then
        .error (.invalidCommand
          "repository URL must be a credential-free https://github.com URL")
      else if ((repository.pathSegments.getD []).filter fun segment => segment ≠ "").length ≠ 2 then
        .error (.invalidCommand
          "MVP repository URL must identify one GitHub owner and repository")
      else if Text.byteLength commitSha.toList ≠ 40 ∨
          ¬commitSha.toList.all isAsciiHexDigit then
        .error (.invalidCommand "commit_sha must be a complete 40-character Git SHA")
      else .ok ()

def inspectionSource (parsers : Parsers) (payload : InspectProjectPayload)
    (credential : Option RepositoryCredential) : Except RuntimeError RepositorySource := do
  validateRepositorySource parsers payload.repositoryUrl payload.commitSha
  return { repositoryUrl := payload.repositoryUrl, commitSha := payload.commitSha, credential }

def deploymentSource (parsers : Parsers) (payload : DeployProjectPayload)
    (credential : Option RepositoryCredential) : Except RuntimeError RepositorySource := do
  validateRepositorySource parsers payload.repositoryUrl payload.commitSha
  return { repositoryUrl := payload.repositoryUrl, commitSha := payload.commitSha, credential }

/-! ### Domains and environments -/

def isLabelCharacter (character : Char) : Bool :=
  character.isLower || character.isDigit || character = '-'

def validLabel (label : Text) : Bool :=
  !label.isEmpty && Text.byteLength label ≤ 63 && label.head? ≠ some '-' &&
    label.getLast? ≠ some '-' && label.all isLabelCharacter

def validDomain (domain : Text) : Bool :=
  (Text.endsWith domain ".run.sakala.localhost".toList ||
      Text.endsWith domain ".run.staging.sakala.dev".toList ||
      Text.endsWith domain ".run.sakala.dev".toList) &&
    Text.byteLength domain ≤ 253 && (Text.splitOn '.' domain).all validLabel

def validEnvKey (key : Text) : Bool :=
  match key with
  | [] => false
  | first :: rest =>
      (first = '_' || first.isUpper) &&
        rest.all fun character => character = '_' || character.isUpper || character.isDigit

/-- An entry that a Docker env file can hold. -/
def safeEntry (entry : String × String) : Bool :=
  validEnvKey entry.1.toList &&
    entry.2.toList.all fun character => character ≠ '\n' && character ≠ '\r' && character ≠ '\x00'

/-- The first entry that is not safe, by its key, is the error. -/
def validateEnvironment (parsers : Parsers) (environment : List (String × String)) :
    Except RuntimeError Unit :=
  match environment.find? fun entry => !safeEntry entry with
  | some entry =>
      .error (.invalidCommand
        s!"environment entry {parsers.printDebug entry.1.toList} is not safe for a Docker env file")
  | none => .ok ()

/-- A PORT in the environment has to be the port of the route. -/
def validatePort (environment : List (String × String)) (containerPort : UInt16) :
    Except RuntimeError Unit :=
  match environment.lookup "PORT" with
  | none => .ok ()
  | some port =>
      if Text.parseNat (2 ^ 16) port.toList = some containerPort.toNat then .ok ()
      else
        .error (.invalidCommand
          s!"environment PORT={port} must match container_port {containerPort}")

def validatePayload (parsers : Parsers) (payload : DeployProjectPayload) :
    Except RuntimeError Unit := do
  validateRepositorySource parsers payload.repositoryUrl payload.commitSha
  if payload.containerPort = 0 then
    throw (.invalidCommand "container_port must be greater than zero")
  else if !validDomain payload.domain.toList then
    throw (.invalidCommand
      "domain must be a valid *.run.sakala.localhost, *.run.staging.sakala.dev, or *.run.sakala.dev hostname")
  else do
    validateEnvironment parsers payload.environment
    validatePort payload.environment payload.containerPort

/-! ### Deadlines -/

/-- The ceilings of the node, in seconds. -/
structure TimeoutSafetyConfig where
  maxBuildTimeout : Nat := 600
  maxStartTimeout : Nat := 120
  maxCommandTimeout : Nat := 900

/-- Deadlines that are in force, in seconds. -/
structure AppliedRuntimeTimeouts where
  build : Nat
  start : Nat
deriving DecidableEq

def resolveTimeout (name : String) (requested : Option UInt64) (maximum : Nat) :
    Except RuntimeError Nat :=
  let seconds := (requested.map UInt64.toNat).getD maximum
  if seconds = 0 then .error (.invalidCommand s!"{name} must be greater than zero")
  else if maximum < seconds then
    .error (.invalidCommand s!"{name} ({seconds}s) exceeds the node maximum of {maximum}s")
  else .ok seconds

def TimeoutSafetyConfig.resolve (config : TimeoutSafetyConfig) (requested : RuntimeTimeoutLimits) :
    Except RuntimeError AppliedRuntimeTimeouts := do
  let build ←
    resolveTimeout "build_timeout_seconds" requested.buildTimeoutSeconds config.maxBuildTimeout
  let start ←
    resolveTimeout "start_timeout_seconds" requested.startTimeoutSeconds config.maxStartTimeout
  let command ←
    resolveTimeout "command_timeout_seconds" requested.commandTimeoutSeconds
      config.maxCommandTimeout
  if command ≤ build ∨ command ≤ start then
    throw (.invalidCommand
      "build and start timeouts must each be shorter than command_timeout_seconds")
  else return { build, start }

/-! ### Resources -/

/-- Defaults of the node and ceilings it does not go over. -/
structure ResourceSafetyConfig where
  defaultMemoryMb : UInt64 := 256
  maxMemoryMb : UInt64 := 512
  defaultCpuMillis : UInt32 := 500
  maxCpuMillis : UInt32 := 1000
  defaultPidsLimit : UInt32 := 128
  maxPidsLimit : UInt32 := 256

/-- A value asked for, or the default. -/
def resolveLimit (name : String) (requested : Option Nat) (default maximum : Nat) :
    Except RuntimeError Nat :=
  let value := requested.getD default
  if value = 0 then
    .error (.invalidCommand s!"requested {name} must be greater than zero")
  else if maximum < value then
    .error (.invalidCommand
      s!"requested {name} ({value}) exceeds this node's maximum ({maximum})")
  else .ok value

def validateSafetyLimit (name : String) (default maximum : Nat) : Except RuntimeError Unit :=
  if default = 0 ∨ maximum = 0 ∨ maximum < default then
    .error (.configuration
      s!"invalid resource safety config for {name}: default={default}, maximum={maximum}")
  else .ok ()

def validateSafetyConfig (config : ResourceSafetyConfig) : Except RuntimeError Unit := do
  validateSafetyLimit "memory_mb" config.defaultMemoryMb.toNat config.maxMemoryMb.toNat
  validateSafetyLimit "cpu_millis" config.defaultCpuMillis.toNat config.maxCpuMillis.toNat
  validateSafetyLimit "pids_limit" config.defaultPidsLimit.toNat config.maxPidsLimit.toNat

def ResourceSafetyConfig.resolve (config : ResourceSafetyConfig)
    (requested : RuntimeResourceLimits) : Except RuntimeError AppliedRuntimeResources := do
  validateSafetyConfig config
  let memoryMb ←
    resolveLimit "memory_mb" (requested.memoryMb.map UInt64.toNat) config.defaultMemoryMb.toNat
      config.maxMemoryMb.toNat
  let cpuMillis ←
    resolveLimit "cpu_millis" (requested.cpuMillis.map UInt32.toNat) config.defaultCpuMillis.toNat
      config.maxCpuMillis.toNat
  let pidsLimit ←
    resolveLimit "pids_limit" (requested.pidsLimit.map UInt32.toNat) config.defaultPidsLimit.toNat
      config.maxPidsLimit.toNat
  return {
    memoryMb := UInt64.ofNat memoryMb
    cpuMillis := UInt32.ofNat cpuMillis
    pidsLimit := UInt32.ofNat pidsLimit }

end SakalaAgent
