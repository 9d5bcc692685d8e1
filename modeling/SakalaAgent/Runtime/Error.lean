/-
Module: SakalaAgent.Runtime.Error
Layer: Runtime
Purpose: The errors of the runtime, their codes and texts, and how a failed process is classified.
Trusted boundary: the texts of filesystem errors are those of the system.
Main exports: RuntimeError, RuntimeError.failedProcess, RuntimeError.toExecutionError
-/
import SakalaAgent.Core.Ports
import SakalaAgent.Text.Chars

namespace SakalaAgent

/-- An error of the filesystem; only whether something was not found is ever asked. -/
structure IoError where
  notFound : Bool
  text : String
deriving DecidableEq, Repr

inductive RuntimeError where
  | configuration (text : String)
  | invalidCommand (text : String)
  | dependency (text : String)
  | repository (text : String)
  | repositoryNotFound
  | repositoryAccessDenied
  | repositoryAuthFailed
  | repositoryCredentialExpired
  | repositoryCommitNotFound
  | repositoryCheckoutFailed
  | execution (text : String)
  | build (text : String)
  | container (text : String)
  | health (text : String)
  | routing (text : String)
  | capacity (text : String)
  | diskPressure (text : String)
  | workloadNotFound
  | workloadNotRunning
  | cancelled
  | timeout (operation : String) (seconds : Nat)
  | reporting (text : String)
  | filesystem (error : IoError)
deriving DecidableEq, Repr

namespace RuntimeError

def code : RuntimeError → String
  | .configuration _ => "invalid_runtime_configuration"
  | .invalidCommand _ => "invalid_runtime_command"
  | .dependency _ => "runtime_dependency_failed"
  | .repository _ => "runtime_repository_failed"
  | .repositoryNotFound => "repository_not_found"
  | .repositoryAccessDenied => "repository_access_denied"
  | .repositoryAuthFailed => "repository_auth_failed"
  | .repositoryCredentialExpired => "repository_credential_expired"
  | .repositoryCommitNotFound => "repository_commit_not_found"
  | .repositoryCheckoutFailed => "repository_checkout_failed"
  | .execution _ => "runtime_execution_failed"
  | .build _ => "runtime_build_failed"
  | .container _ => "runtime_container_failed"
  | .health _ => "runtime_health_check_failed"
  | .routing _ => "runtime_routing_failed"
  | .capacity _ => "runtime_capacity_exceeded"
  | .diskPressure _ => "runtime_disk_pressure"
  | .workloadNotFound => "runtime_workload_not_found"
  | .workloadNotRunning => "runtime_workload_not_running"
  | .cancelled => "runtime_cancelled"
  | .timeout _ _ => "runtime_timeout"
  | .reporting _ => "runtime_reporting_failed"
  | .filesystem _ => "runtime_filesystem_failed"

/-- The text of an error as it is printed. -/
def message : RuntimeError → String
  | .configuration text => s!"invalid runtime configuration: {text}"
  | .invalidCommand text => s!"invalid runtime command: {text}"
  | .dependency text => s!"runtime dependency failed: {text}"
  | .repository text => s!"runtime repository operation failed: {text}"
  | .repositoryNotFound => "repository was not found"
  | .repositoryAccessDenied => "repository access was denied"
  | .repositoryAuthFailed => "repository authentication failed"
  | .repositoryCredentialExpired => "repository credential has expired or is no longer valid"
  | .repositoryCommitNotFound => "requested repository commit was not found"
  | .repositoryCheckoutFailed => "repository checkout failed"
  | .execution text => s!"runtime operation failed: {text}"
  | .build text => s!"runtime build failed: {text}"
  | .container text => s!"runtime container operation failed: {text}"
  | .health text => s!"runtime health check failed: {text}"
  | .routing text => s!"runtime routing failed: {text}"
  | .capacity text => s!"runtime capacity exceeded: {text}"
  | .diskPressure text => s!"runtime disk pressure: {text}"
  | .workloadNotFound => "managed workload was not found"
  | .workloadNotRunning => "managed workload is not running"
  | .cancelled => "runtime operation was cancelled"
  | .timeout operation seconds =>
      s!"runtime operation {operation} exceeded its {seconds}s timeout"
  | .reporting text => s!"runtime reporting failed: {text}"
  | .filesystem error => s!"runtime filesystem operation failed: {error.text}"

def toExecutionError (error : RuntimeError) : RuntimeExecutionError :=
  ⟨error.code, error.message⟩

def ofExecutionError (error : RuntimeExecutionError) : RuntimeError :=
  .reporting error.message

/-- An exit status as it is printed in the texts below: a process ended by a signal has none. -/
def statusText : Option Int → String
  | none => "None"
  | some status => s!"Some({status})"

def failedOperation (phase : String) (status : Option Int) : RuntimeError :=
  let summary := s!"{phase} exited with status {statusText status}"
  let phase := phase.toList
  if Text.startsWith phase "git-".toList then .repository summary
  else if Text.contains phase "build".toList ∨ Text.startsWith phase "railpack-".toList then
    .build summary
  else if Text.startsWith phase "docker-".toList then .container summary
  else if Text.startsWith phase "caddy-".toList then .routing summary
  else .execution summary

def classifyRepositoryFailure (stderr : Text) : RuntimeError :=
  let detail := Text.lowerAscii stderr
  let mentions (words : List String) : Bool :=
    words.any fun phrase => Text.contains detail phrase.toList
  if mentions ["repository not found"] then .repositoryNotFound
  else if mentions
      ["authentication failed", "http basic: access denied", "invalid username or token"] then
    .repositoryAuthFailed
  else if mentions ["expired", "token has been revoked", "token is not valid"] then
    .repositoryCredentialExpired
  else if mentions
      ["permission denied", "could not read from remote repository", "access denied"] then
    .repositoryAccessDenied
  else if mentions
      ["couldn't find remote ref", "not our ref", "reference is not a tree",
        "unknown revision"] then
    .repositoryCommitNotFound
  else .repositoryCheckoutFailed

def failedProcess (phase : String) (status : Option Int) (stderr : Text) : RuntimeError :=
  if Text.startsWith phase.toList "git-".toList then classifyRepositoryFailure stderr
  else failedOperation phase status

end RuntimeError

end SakalaAgent
