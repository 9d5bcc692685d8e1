/-
Module: SakalaAgent.Runtime.NodeScript
Layer: Runtime
Purpose: A node that does what it is asked to, as a script: files and containers change as they should,
  and what the rest prints, which commands fail and which alarms are seen is chosen. Its runs are runs
  of the node, so what can happen can be shown by computing it.
Trusted boundary: none
Main exports: NodeScript, NodeScript.script, NodeScript.sound, Sample.node, Sample.executor
-/
import SakalaAgent.Async.Script
import SakalaAgent.Runtime.Executor

namespace SakalaAgent

open Async

/-- What a node that works leaves open. -/
structure NodeScript where
  /-- What a process prints that lists no containers. -/
  prints : DockerState → CommandSpec → List Text
  fails : History Runtime → CommandSpec → Bool := fun _ _ => false
  fires : History Runtime → RuntimeAlarm → RuntimeOp → Bool := fun _ _ _ => false
  /-- The names looked for in a directory. -/
  names : List Text := []
  age : FilePath → Nat := fun _ => 0

/-! ### Files -/

namespace Files

/-- One operation that is carried out. -/
def answer (script : NodeScript) (files : Files) : (op : FsOp) → op.Res × Files
  | .createDirAll path =>
      (.ok (), if files path = none then Function.update files path (some .directory) else files)
  | .tryExists path => (.ok (files path).isSome, files)
  | .setPermissions _ _ => (.ok (), files)
  | .read path =>
      match files path with
      | some (.file content) => (.ok content, files)
      | some _ => (.error ⟨false, "not a file"⟩, files)
      | none => (.error ⟨true, "not found"⟩, files)
  | .write path content => (.ok (), Function.update files path (some (.file content)))
  | .createNew path =>
      if files path = none then (.ok (), Function.update files path (some (.file ⟨[], []⟩)))
      else (.error ⟨false, "exists"⟩, files)
  | .append path text =>
      (.ok (), Function.update files path (match files path with
        | some (.file content) => some (.file { content with text := content.text ++ text })
        | entry => entry))
  | .rename source target =>
      match files source with
      | some entry =>
          (.ok (), Function.update (Function.update files source none) target (some entry))
      | none => (.error ⟨true, "not found"⟩, files)
  | .removeFile path =>
      if (files path).isSome then (.ok (), Function.update files path none)
      else (.error ⟨true, "not found"⟩, files)
  | .removeDirAll path => (.ok (), fun other => if below path other then none else files other)
  | .readDir path =>
      (.ok (script.names.filterMap fun name =>
        (files (child path name)).map fun entry => (name, entry.kind)), files)
  | .age path => (.ok (script.age path), files)

theorem answer_step (script : NodeScript) (files : Files) (op : FsOp) :
    files.Step (files.answer script op).2 op (files.answer script op).1 := by
  cases op with
  | createDirAll path =>
      simp only [answer, Step]
      split
      · rename_i absent
        exact .inr ⟨absent, rfl⟩
      · exact .inl rfl
  | tryExists path => exact ⟨rfl, rfl⟩
  | setPermissions path mode => rfl
  | read path =>
      simp only [answer]
      split
      · rename_i found
        exact ⟨rfl, found⟩
      · exact ⟨rfl, fun impossible => by cases impossible⟩
      · rename_i absent
        exact ⟨rfl, fun _ => absent⟩
  | write path content => rfl
  | createNew path =>
      simp only [answer]
      split
      · rename_i absent
        exact ⟨absent, rfl⟩
      · rfl
  | append path text => exact ⟨_, rfl⟩
  | rename source target =>
      simp only [answer]
      split
      · rename_i entry found
        exact ⟨entry, found, rfl⟩
      · rfl
  | removeFile path =>
      simp only [answer]
      split
      · rename_i found
        exact ⟨found, rfl⟩
      · rename_i absent
        exact ⟨rfl, fun _ => by simpa using absent⟩
  | removeDirAll path =>
      constructor
      · intro other outside
        simp [answer, outside]
      · intro other inside
        simp [answer, inside]
  | readDir path =>
      refine ⟨rfl, fun name kind member => ?_⟩
      obtain ⟨other, _, found⟩ := List.mem_filterMap.mp member
      obtain ⟨entry, present, same⟩ := Option.map_eq_some_iff.mp found
      cases same
      rw [present]
      rfl
  | age path => rfl

end Files

/-! ### Containers -/

namespace DockerState

def upStatus : Text := "Up 1 second".toList

def exitedStatus : Text := "Exited (0) 1 second ago".toList

/-- The container of a `docker run`. -/
def created (docker : DockerState) (options : RunOptions) : Container where
  id := List.replicate (docker.containers.length + 1) 'c'
  name := options.name
  status := upStatus
  labels := options.labels
  plainId := by simp [Plain, List.mem_replicate]
  plainStatus := by decide

/-- A command that is carried out, if that is possible. -/
def perform (docker : DockerState) : DockerCommand → Option DockerState
  | .run options =>
      let container := docker.created options
      if fresh : container.id ∉ docker.containers.map Container.id ∧
          container.name ∉ docker.containers.map Container.name then
        some (docker.add container fresh.1 fresh.2)
      else none
  | .start reference | .restart _ reference =>
      (docker.resolve reference).map fun container =>
        docker.setStatus container.id upStatus (by decide)
  | .stop _ reference =>
      (docker.resolve reference).map fun container =>
        docker.setStatus container.id exitedStatus (by decide)
  | .rm isForced reference =>
      match docker.resolve reference with
      | some container =>
          if isForced ∨ ¬container.isListed then some (docker.remove container.id) else none
      | none => none
  | .buildx _ _ _ tag _ => some (docker.withTags (tag :: docker.tags))
  | .imageRemove reference =>
      if reference ∈ docker.tags then
        some (docker.withTags (docker.tags.filter fun tag => tag ≠ reference))
      else none
  | _ => some docker

theorem perform_effect {docker docker' : DockerState} {command : DockerCommand}
    (performed : docker.perform command = some docker') : docker.Effect command docker' := by
  cases command with
  | run options =>
      simp only [perform] at performed
      split at performed
      · rename_i fresh
        cases performed
        exact .run options _ fresh.1 fresh.2 rfl rfl
      · cases performed
  | start reference =>
      obtain ⟨container, found, rfl⟩ := Option.map_eq_some_iff.mp performed
      exact .start reference container _ _ found
  | restart graceSeconds reference =>
      obtain ⟨container, found, rfl⟩ := Option.map_eq_some_iff.mp performed
      exact .restart graceSeconds reference container _ _ found
  | stop graceSeconds reference =>
      obtain ⟨container, found, rfl⟩ := Option.map_eq_some_iff.mp performed
      exact .stop graceSeconds reference container _ _ found (by decide)
  | rm isForced reference =>
      simp only [perform] at performed
      split at performed
      · rename_i container found
        split at performed
        · rename_i removable
          cases performed
          exact .rm isForced reference container found removable
        · cases performed
      · cases performed
  | buildx buildArguments file source tag labels =>
      cases performed
      exact .buildx ..
  | imageRemove reference =>
      simp only [perform] at performed
      split at performed
      · rename_i present
        cases performed
        exact .imageRemove reference present
      · cases performed
  | ps all quiet filters columns => cases performed; exact .ps ..
  | logs follow tail reference => cases performed; exact .logs ..
  | inspect format reference => cases performed; exact .inspect ..
  | imagePrune filters untilSeconds => cases performed; exact .imagePrune ..
  | exec container arguments => cases performed; exact .exec ..

end DockerState

/-! ### Processes and locks -/

namespace NodeScript

/-- What a process prints. -/
def lines (script : NodeScript) (docker : DockerState) (spec : CommandSpec) : List Text :=
  match spec.line with
  | .docker (.ps all quiet filters columns) => docker.psLines all quiet filters columns
  | _ => script.prints docker spec

/-- What a process makes of the containers, if it does not fail. -/
def settle (script : NodeScript) (h : History Runtime) (docker : DockerState)
    (spec : CommandSpec) : Option DockerState :=
  if script.fails h spec then none
  else
    match spec.line with
    | .docker command => docker.perform command
    | _ => some docker

def result (script : NodeScript) (docker : DockerState) (spec : CommandSpec) (status : Int) :
    ProcessResult where
  lines := (script.lines docker spec).map fun line => (.stdout, line)
  finish := .ok (some status)

def answer (script : NodeScript) (thread : ThreadId) (h : History Runtime) (node : Node) :
    (op : RuntimeOp) → Option (op.Res × Node)
  | .process spec =>
      match script.settle h node.docker spec with
      | some docker => some (script.result node.docker spec 0, { node with docker })
      | none => some (script.result node.docker spec 1, node)
  | .file op =>
      some ((node.files.answer script op).1, { node with files := (node.files.answer script op).2 })
  | .event _ => some (.ok (), node)
  | .log _ => some (.ok (), node)
  | .markDeploymentCommitted _ => some ((), node)
  | .setRouteActivated value =>
      some ((), { node with activated := Function.update node.activated thread value })
  | .routeActivated => some (node.activated thread, node)
  | .isCancelled => some (false, node)
  | .lock which =>
      if node.holder which = none then
        some ((), { node with holder := Function.update node.holder which (some thread) })
      else none
  | .release which => some ((), { node with holder := released node.holder which thread })
  | .acquireBuildPermit =>
      if node.building.length < node.buildPermits then
        some (true, { node with building := thread :: node.building })
      else none
  | .releaseBuildPermit => some ((), { node with building := node.building.erase thread })
  | .sleep => some ((), node)
  | .startLogFollower _ => some (true, node)

def leave (script : NodeScript) (node : Node) : (op : RuntimeOp) → Option (Option op.Res × Node)
  | .process spec => some (none, { node with inFlight := spec :: node.inFlight })
  | .file op =>
      some (some (node.files.answer script op).1,
        { node with files := (node.files.answer script op).2 })
  | _ => some (none, node)

def script (script : NodeScript) (thread : ThreadId) : Script Runtime Node where
  answer := script.answer thread
  leave := script.leave
  fires := script.fires

theorem result_stdout (script : NodeScript) (docker : DockerState) (spec : CommandSpec)
    (status : Int) : (script.result docker spec status).stdout = script.lines docker spec := by
  simp [ProcessResult.stdout, result, List.filterMap_map]

/-- A process that does not fail has its effect. -/
theorem settled_of_settle {script : NodeScript} {h : History Runtime} {node : Node}
    {spec : CommandSpec} {docker : DockerState}
    (settle : script.settle h node.docker spec = some docker) (succeeded : Bool) :
    node.Settled spec.line succeeded { node with docker } := by
  refine ⟨node.files, docker, fun _ => rfl, rfl, ?_⟩
  unfold NodeScript.settle at settle
  cases failed : script.fails h spec with
  | true =>
      rw [failed] at settle
      cases settle
  | false =>
      rw [failed] at settle
      revert settle
      cases spec.line with
      | docker command => exact fun performed => .inl (DockerState.perform_effect performed)
      | _ => exact fun same => (Option.some.inj same).symm

/-- A process that fails may have had no effect. -/
theorem settled_of_failure (node : Node) (line : CommandLine) : node.Settled line false node := by
  refine ⟨node.files, node.docker, fun _ => rfl, rfl, ?_⟩
  cases line with
  | docker command => exact .inr ⟨rfl, rfl⟩
  | _ => rfl

/-- A process of the script is one of the node. -/
theorem answer_process {script : NodeScript} {thread : ThreadId} {h : History Runtime}
    {node node' : Node} {spec : CommandSpec} {result : ProcessResult}
    (answered : script.answer thread h node (.process spec) = some (result, node')) :
    node.Truthful spec.line result ∧ node.Settled spec.line result.success node' := by
  have truthful : ∀ status, node.Truthful spec.line (script.result node.docker spec status) := by
    intro status
    unfold Node.Truthful
    split
    · rename_i all quiet filters columns listing
      intro _
      rw [result_stdout, lines, listing]
    · trivial
  simp only [answer] at answered
  split at answered
  · rename_i docker settled
    cases answered
    exact ⟨truthful 0, settled_of_settle settled _⟩
  · cases answered
    exact ⟨truthful 1, settled_of_failure node spec.line⟩

/-- The runs of the script are runs of the node. -/
theorem sound (script : NodeScript) (thread : ThreadId) :
    (script.script thread).Sound (runtimeSemantics thread) where
  answer := by
    intro h node op res node' answered
    have answered : script.answer thread h node op = some (res, node') := answered
    cases op with
    | process spec => exact answer_process answered
    | file op =>
        cases answered
        exact ⟨_, Files.answer_step script node.files op, rfl⟩
    | lock which =>
        simp only [answer] at answered
        split at answered
        · rename_i free
          cases answered
          exact ⟨free, rfl⟩
        · cases answered
    | acquireBuildPermit =>
        simp only [answer] at answered
        split at answered
        · rename_i free
          cases answered
          exact .inl ⟨rfl, free, rfl⟩
        · cases answered
    | routeActivated =>
        cases answered
        exact ⟨rfl, rfl⟩
    | _ =>
        cases answered
        rfl
  leave := by
    intro node op outcome node' left
    have left : script.leave node op = some (outcome, node') := left
    cases op with
    | process spec =>
        cases left
        exact ⟨rfl, rfl⟩
    | file op =>
        cases left
        exact ⟨_, _, rfl, Files.answer_step script node.files op, rfl⟩
    | _ =>
        cases left
        exact ⟨rfl, rfl⟩

end NodeScript

/-- The last process nobody waits for any more has its effect. -/
def landed (node : Node) : Option Node :=
  match node.inFlight with
  | [] => none
  | spec :: inFlight =>
      match spec.line with
      | .docker command =>
          (node.docker.perform command).map fun docker => { node with docker, inFlight }
      | _ => none

theorem lands_of_landed {node node' : Node} (lands : landed node = some node') :
    node.Lands node' := by
  unfold landed at lands
  split at lands
  · cases lands
  · rename_i spec inFlight flying
    split at lands
    · rename_i command running
      obtain ⟨docker, performed, rfl⟩ := Option.map_eq_some_iff.mp lands
      refine ⟨[], spec, inFlight, flying, node.files, docker, fun _ => rfl, rfl, ?_⟩
      rw [running]
      exact .inl (DockerState.perform_effect performed)
    · cases lands

/-! ### A small node -/

namespace Sample

/-- An id that repeats one digit. -/
def uuid (digit : Fin 16) : Uuid where
  digits := List.replicate 32 digit
  complete := List.length_replicate ..

def node : Node where
  files _ := none
  docker := { containers := [], tags := [], distinctIds := .nil, distinctNames := .nil }
  inFlight := []
  holder _ := none
  activated _ := false
  buildPermits := 1
  building := []

def workspaces : WorkspaceManager where
  root := "/builds".toList

/-- An executor that admits one container. -/
def executor : DockerRuntimeExecutor where
  parsers :=
    { parseUrl := fun _ => .ok ⟨"https", some "github.com", "", none, none, none,
        some ["owner", "repository"]⟩
      printDebug := String.ofList }
  workspace := workspaces
  builder := { workspaces, railpackFrontend := "frontend" }
  containers :=
    { runtimeNetwork := "sakala".toList
      maxActiveContainers := 1
      agentId := "agent".toList
      parseReclaimedBytes := fun _ => none }
  resourceSafety := {}
  health := { attempts := 3, printDebug := String.ofList }
  routes := { sitesDir := "/sites", container := "router".toList }
  timeoutSafety := {}
  workspaceGcMaxAge := 86400
  imageGcMaxAge := 86400
  minWorkspaceFreeBytes := 1

def payload : DeployProjectPayload where
  repositoryUrl := "https://github.com/owner/repository"
  commitSha := "0123456789012345678901234567890123456789"
  repositoryAccess := .publicAccess
  domain := "app.run.sakala.dev"
  containerPort := 80
  builder := .railpack
  environment := []
  resources := {}
  timeouts := {}
  logBounds := {}

/-- A deployment of the project of the given digit. -/
def deployment (project : Fin 16) : DeployProjectRequest where
  commandId := uuid project
  projectId := uuid project
  deploymentId := uuid project
  payload := payload
  repositoryCredential := none

/-- What an inspection tells of a container: its health, or whether it runs and its name. -/
def inspection (docker : DockerState) (format : String) (reference : Text) : List Text :=
  match docker.resolve reference with
  | none => []
  | some container =>
      if format = HealthChecker.healthFormat then
        [(if container.isUp then "running" else "stopped").toList]
      else [(if container.isUp then "true" else "false").toList ++ '\t' :: '/' :: container.name]

/-- A node with room on its disk. -/
def script : NodeScript where
  prints docker spec :=
    match spec.line with
    | .df _ => ["/dev/disk 200 100 100".toList]
    | .docker (.inspect format reference) => inspection docker format reference
    | _ => []

end Sample

end SakalaAgent
