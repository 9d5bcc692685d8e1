/-
Module: SakalaAgent.Runtime.Surroundings
Layer: Runtime
Purpose: The node a command of the runtime works on, and what the command asks it for: processes,
  files, the reporter, and the locks of the executor. Commands run in threads; each has a number.
Trusted boundary: the directory of the sites and that of the workspaces lie apart, and no process of
  the agent writes a site. A file operation that nobody waits for any more still runs, at once; a
  process that nobody waits for any more may have its effect at any later time, or never. What
  inspection commands print is not constrained, but a listing of containers is truthful.
Main exports: FilePath, FsOp, CommandSpec, RuntimeOp, Runtime, Node, runtimeSemantics
-/
import SakalaAgent.Async.Semantics
import SakalaAgent.Runtime.Docker
import SakalaAgent.Runtime.Error
import Mathlib.Logic.Function.Basic

namespace SakalaAgent

open Async

/-! ### Files -/

/-- The paths the runtime touches: the directory of the sites and its entries, the directory of the
workspaces, the workspace of a command, and what lies in a workspace. -/
inductive FilePath where
  | sites
  | site (name : Text)
  | builds
  | workspace (name : Text)
  | within (name relative : Text)
deriving DecidableEq

/-- The content of a file: the longest beginning that is UTF-8, and the bytes behind it. -/
structure FileContent where
  text : Text
  invalid : List UInt8 := []
deriving DecidableEq

inductive FileEntry where
  | directory
  | file (content : FileContent)
  | other
deriving DecidableEq

/-- What a listing of a directory tells of an entry. -/
inductive FileKind where
  | directory | regular | other
deriving DecidableEq, Repr

def FileEntry.kind : FileEntry → FileKind
  | .directory => .directory
  | .file _ => .regular
  | .other => .other

abbrev Files : Type := FilePath → Option FileEntry

/-- One awaited operation on files. -/
inductive FsOp where
  | createDirAll (path : FilePath)
  | tryExists (path : FilePath)
  | setPermissions (path : FilePath) (mode : Nat)
  | read (path : FilePath)
  | write (path : FilePath) (content : FileContent)
  | createNew (path : FilePath)
  | append (path : FilePath) (content : Text)
  | rename (source target : FilePath)
  | removeFile (path : FilePath)
  | removeDirAll (path : FilePath)
  | readDir (path : FilePath)
  | age (path : FilePath)
deriving DecidableEq

/-- What an operation yields when it succeeds. -/
abbrev FsOp.Value : FsOp → Type
  | .tryExists _ => Bool
  | .read _ => FileContent
  | .readDir _ => List (Text × FileKind)
  | .age _ => Nat
  | _ => Unit

abbrev FsOp.Res (op : FsOp) : Type := Except IoError op.Value

namespace Files

/-- The same sites. -/
def SameSites (files files' : Files) : Prop :=
  ∀ name, files' (.site name) = files (.site name)

/-- An entry of a directory. -/
def child : FilePath → Text → FilePath
  | .sites, name => .site name
  | .builds, name => .workspace name
  | .workspace directory, name => .within directory name
  | path, _ => path

/-- A path lies at or below another. -/
def below : FilePath → FilePath → Bool
  | .sites, .sites => true
  | .sites, .site _ => true
  | .site name, .site other => name = other
  | .builds, .builds => true
  | .builds, .workspace _ => true
  | .builds, .within _ _ => true
  | .workspace name, .workspace other => name = other
  | .workspace name, .within other _ => name = other
  | .within name relative, .within other further => name = other ∧ relative = further
  | _, _ => false

/-- What one operation does, and answers. A write or an append that fails may leave anything in its
file, and a removal of a directory that fails may have removed a part of it. -/
def Step (files : Files) (files' : Files) : (op : FsOp) → op.Res → Prop
  | .createDirAll path, _ =>
      files' = files ∨ (files path = none ∧ files' = Function.update files path (some .directory))
  | .tryExists path, .ok found => files' = files ∧ found = (files path).isSome
  | .read path, .ok content => files' = files ∧ files path = some (.file content)
  | .read path, .error error => files' = files ∧ (error.notFound = true → files path = none)
  | .write path content, .ok _ => files' = Function.update files path (some (.file content))
  | .write path _, .error _ => ∃ left, files' = Function.update files path left
  | .createNew path, .ok _ =>
      files path = none ∧ files' = Function.update files path (some (.file ⟨[], []⟩))
  | .append path _, _ => ∃ left, files' = Function.update files path left
  | .rename source target, .ok _ => ∃ entry, files source = some entry ∧
      files' = Function.update (Function.update files source none) target (some entry)
  | .removeFile path, .ok _ => (files path).isSome ∧ files' = Function.update files path none
  | .removeFile path, .error error => files' = files ∧ (error.notFound = true → files path = none)
  | .removeDirAll path, _ =>
      (∀ other, below path other = false → files' other = files other) ∧
        ∀ other, below path other = true → files' other = files other ∨ files' other = none
  | .readDir path, .ok entries => files' = files ∧ ∀ name kind, (name, kind) ∈ entries →
      (files (child path name)).map FileEntry.kind = some kind
  | _, _ => files' = files

end Files

/-! ### Processes -/

inductive CommandLine where
  | docker (command : DockerCommand)
  | git (arguments : List Text)
  | railpack (arguments : List Text)
  | df (arguments : List Text)
deriving DecidableEq

def CommandLine.program : CommandLine → String
  | .docker _ => "docker"
  | .git _ => "git"
  | .railpack _ => "railpack"
  | .df _ => "df"

/-- A command line with its environment; it may be tied to the cancellation of the request. -/
structure CommandSpec where
  line : CommandLine
  environment : List (String × String) := []
  secretEnvironment : List (String × String) := []
  cancellable : Bool := false
deriving DecidableEq

inductive ProcessStream where
  | stdout | stderr
deriving DecidableEq, Repr

/-- Why a process has no exit status. -/
inductive ProcessFailure where
  | notStarted (text : String)
  | unreadable (error : IoError)
  | cancelled
  | timedOut (seconds : Nat)
deriving DecidableEq, Repr

/-- The lines of a process in the order they were read, and how it ended. -/
structure ProcessResult where
  lines : List (ProcessStream × Text)
  finish : Except ProcessFailure (Option Int)

/-- The exit status is zero. -/
def ProcessResult.success (result : ProcessResult) : Bool :=
  match result.finish with
  | .ok (some status) => status = 0
  | _ => false

def ProcessResult.stdout (result : ProcessResult) : List Text :=
  result.lines.filterMap fun line => if line.1 = .stdout then some line.2 else none

/-! ### Operations -/

inductive NodeLock where
  | routes | admission
deriving DecidableEq, Repr

/-- What a command of the runtime asks for. The flag of `run_deployment` that the route is active is
part of the node, one for each thread; releasing a lock or a permit that is not held does nothing. -/
inductive RuntimeOp where
  | process (spec : CommandSpec)
  | file (op : FsOp)
  | event (event : DeploymentEvent)
  | log (line : DeploymentLog)
  | markDeploymentCommitted (output : CommandOutput)
  | setRouteActivated (value : Bool)
  | routeActivated
  | isCancelled
  | lock (which : NodeLock)
  | release (which : NodeLock)
  | acquireBuildPermit
  | releaseBuildPermit
  | sleep
  | startLogFollower (reference : Text)

namespace RuntimeOp

def Res : RuntimeOp → Type
  | .process _ => ProcessResult
  | .file op => op.Res
  | .event _ => Except RuntimeExecutionError Unit
  | .log _ => Except RuntimeExecutionError Unit
  | .routeActivated => Bool
  | .isCancelled => Bool
  | .acquireBuildPermit => Bool
  | .startLogFollower _ => Bool
  | _ => Unit

def suspends : RuntimeOp → Bool
  | .process _ => true
  | .file _ => true
  | .event _ => true
  | .log _ => true
  | .lock _ => true
  | .acquireBuildPermit => true
  | .sleep => true
  | _ => false

end RuntimeOp

inductive RuntimeAlarm where
  | cancelled | buildTimeout | startTimeout
deriving DecidableEq, Repr

abbrev Runtime : Interface where
  Op := RuntimeOp
  Res := RuntimeOp.Res
  suspends := RuntimeOp.suspends
  Alarm := RuntimeAlarm

/-- A future of the runtime. -/
abbrev RuntimeM (α : Type) : Type := Fallible Runtime RuntimeError α

/-! ### The node -/

abbrev ThreadId : Type := Nat

structure Node where
  files : Files
  docker : DockerState
  /-- Processes nobody waits for any more. -/
  inFlight : List CommandSpec
  holder : NodeLock → Option ThreadId
  activated : ThreadId → Bool
  buildPermits : Nat
  /-- The threads that hold a build permit. -/
  building : List ThreadId

/-- A lock is given back by the thread that holds it. -/
def released (holder : NodeLock → Option ThreadId) (which : NodeLock) (thread : ThreadId) :
    NodeLock → Option ThreadId :=
  if holder which = some thread then Function.update holder which none else holder

namespace Node

/-- A process has come as far as it comes. -/
def Settled (node : Node) (line : CommandLine) (succeeded : Bool) (node' : Node) : Prop :=
  ∃ files docker, node.files.SameSites files ∧ node' = { node with files, docker } ∧
    match line with
    | .docker command => node.docker.Settles command succeeded docker
    | _ => docker = node.docker

/-- A listing that succeeded shows the containers that there are. -/
def Truthful (node : Node) (line : CommandLine) (result : ProcessResult) : Prop :=
  match line with
  | .docker (.ps all quiet filters columns) =>
      result.success = true → result.stdout = node.docker.psLines all quiet filters columns
  | _ => True

def step (thread : ThreadId) (node : Node) : (op : RuntimeOp) → op.Res → Node → Prop
  | .process spec, result, node' =>
      node.Truthful spec.line result ∧ node.Settled spec.line result.success node'
  | .file op, res, node' => ∃ files, node.files.Step files op res ∧ node' = { node with files }
  | .setRouteActivated value, _, node' =>
      node' = { node with activated := Function.update node.activated thread value }
  | .routeActivated, res, node' => res = node.activated thread ∧ node' = node
  | .lock which, _, node' =>
      node.holder which = none ∧
        node' = { node with holder := Function.update node.holder which (some thread) }
  | .release which, _, node' =>
      node' = { node with holder := released node.holder which thread }
  | .acquireBuildPermit, res, node' =>
      (res = true ∧ node.building.length < node.buildPermits ∧
        node' = { node with building := thread :: node.building }) ∨ (res = false ∧ node' = node)
  | .releaseBuildPermit, _, node' => node' = { node with building := node.building.erase thread }
  | _, _, node' => node' = node

def leave (node : Node) : (op : RuntimeOp) → Option op.Res → Node → Prop
  | .process spec, outcome, node' =>
      outcome = none ∧ node' = { node with inFlight := spec :: node.inFlight }
  | .file op, outcome, node' =>
      ∃ res files, outcome = some res ∧ node.files.Step files op res ∧ node' = { node with files }
  | _, outcome, node' => outcome = none ∧ node' = node

/-- A process in flight has come as far as it comes. -/
def Lands (node node' : Node) : Prop :=
  ∃ before spec after, node.inFlight = before ++ spec :: after ∧
    ({ node with inFlight := before ++ after } : Node).Settled spec.line false node'

end Node

def runtimeSemantics (thread : ThreadId) : Semantics Runtime Node where
  step := Node.step thread
  leave := Node.leave
  drift := Node.Lands

end SakalaAgent
