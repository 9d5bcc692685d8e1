/-
Module: SakalaAgent.Proofs.WorkspaceCollection
Layer: Proofs
Purpose: The collection of stale workspaces beside deployments and inspections. A cleanup removes only
  a workspace whose age it has just read and found to be the maximum at least; so a command keeps its
  workspace as long as no cleanup finds it that old, and no command moves into one that was.
Trusted boundary: as for the timed node.
Main exports: WorkspaceCollection.Setup, WorkspaceCollection.isInUse, WorkspaceCollection.Spared,
  WorkspaceCollection.safe_cleanupRuntime, WorkspaceCollection.workspaces_spared
-/
import SakalaAgent.App.Config
import SakalaAgent.Proofs.RuntimeOps
import SakalaAgent.Runtime.Inspection
import SakalaAgent.Runtime.TimedNode

namespace SakalaAgent

open Async

namespace WorkspaceCollection

/-! ### What a cleanup asks for -/

/-- The operation removes no directory. -/
def SparesDirectories : RuntimeOp → Prop
  | .file (.removeDirAll _) => False
  | _ => True

theorem spares_of_spawns {allowed : CommandLine → Prop} {op : RuntimeOp} (spawns : Spawns allowed op) :
    SparesDirectories op := by
  cases op with
  | file op => exact absurd spawns not_false
  | _ => trivial

theorem spares_tryFileOp (op : FsOp) (spares : SparesDirectories (.file op)) :
    Fallible.AllOps SparesDirectories (tryFileOp op) :=
  ⟨spares, fun _ => trivial⟩

theorem spares_fileOp (op : FsOp) (spares : SparesDirectories (.file op)) :
    Fallible.AllOps SparesDirectories (fileOp op) :=
  Fallible.allOps_bind (spares_tryFileOp op spares) fun _ => trivial

theorem spares_runProcess (spec : CommandSpec) (sink : OutputSink) :
    Fallible.AllOps SparesDirectories (runProcess spec sink) :=
  (@spawns_runProcess (fun _ => True) spec trivial sink).mono fun _ => spares_of_spawns

theorem admitsRouteFiles_spares : AdmitsRouteFiles SparesDirectories where
  file op keeps := by
    cases op with
    | removeDirAll path => cases keeps
    | _ => trivial
  spawns _ := spares_of_spawns

theorem spares_inspectEntries (manager : RouteManager) (known : List RouteIdentity)
    (entries : List (Text × FileKind)) :
    Fallible.AllOps SparesDirectories (manager.inspectEntries known entries) := by
  induction entries with
  | nil => trivial
  | cons entry entries ih =>
      obtain ⟨name, kind⟩ := entry
      apply Fallible.allOps_bind
      · simp only [RouteManager.inspectEntry]
        split
        · apply Fallible.allOps_bind
          · apply Fallible.allOps_bind (spares_fileOp (.read _) trivial)
            intro content
            split <;> trivial
          · intro content
            split
            · trivial
            · split <;> trivial
        · trivial
      · exact fun found => Fallible.allOps_bind ih fun _ => trivial

theorem spares_removeStaleRoutes (manager : RouteManager) (routes : List RuntimeStaleRoute) :
    Fallible.AllOps SparesDirectories (manager.removeStaleRoutes routes) := by
  induction routes with
  | nil => trivial
  | cons route routes ih =>
      apply Fallible.allOps_bind (admitsRouteFiles_spares.deactivate trivial trivial manager _)
      exact fun removed => Fallible.allOps_bind ih fun _ => trivial

theorem spares_cleanupRoutes (executor : DockerRuntimeExecutor) :
    Fallible.AllOps SparesDirectories executor.cleanupRoutes := by
  apply Fallible.allOps_bind
  · apply Fallible.allOps_bind (spares_runProcess _ _)
    intro output
    split <;> trivial
  intro discovered
  apply Fallible.allOps_bind
  · apply Fallible.allOps_bind (spares_tryFileOp (.readDir _) trivial)
    rintro (error | entries)
    · dsimp only
      split <;> trivial
    · exact spares_inspectEntries _ _ entries
  · exact spares_removeStaleRoutes _

theorem spares_cleanupStaleImages (engine : ContainerEngine) (maxAgeSeconds : Nat) :
    Fallible.AllOps SparesDirectories (engine.cleanupStaleImages maxAgeSeconds) := by
  apply Fallible.allOps_bind (spares_runProcess _ _)
  intro output
  split <;> trivial

/-! ### The contract of a cleanup -/

/-- What was done last is the reading of an age, and it is the maximum at least. -/
def FoundOld (maximum : Nat) (h : History Runtime) (name : Text) : Prop :=
  ∃ (before : History Runtime) (age : Nat), maximum ≤ age ∧
    h = before ++ [.done (.file (.age (.workspace name))) (Except.ok age)]

/-- Of a thread that cleans up: a workspace is removed only if it has just been found old. -/
def contract (maximum : Nat) (cleans : Prop) : Contract Runtime TimedNode where
  rely _ _ _ := True
  asserts _ h op := cleans → ∀ name, op = .file (.removeDirAll (.workspace name)) →
    FoundOld maximum h name
  left _ _ := True

section Careful

variable {maximum : Nat} {cleans : Prop} {thread : ThreadId} {world : TimedNode}
  {h : History Runtime} {α : Type}

/-- Safe, whatever becomes of it. -/
abbrev Careful (maximum : Nat) (cleans : Prop) (thread : ThreadId) (p : Prog Runtime α)
    (world : TimedNode) (h : History Runtime) : Prop :=
  p.safe (TimedNode.semantics thread) (contract maximum cleans) (fun _ _ _ => True) world h

theorem maintained {ok : RuntimeOp → Prop} (spares : cleans → ∀ op, ok op → SparesDirectories op) :
    Prog.Maintains (TimedNode.semantics thread) (contract maximum cleans) ok fun _ _ => True where
  asserts op allowed _ _ _ := by
    rintro cleans name rfl
    exact absurd (spares cleans _ allowed) not_false
  done _ _ _ _ _ _ _ _ := trivial
  abandoned _ _ _ _ _ _ _ _ := trivial
  fired _ _ _ _ _ := trivial
  rely _ _ _ _ _ := trivial

/-- A future that removes no directory is careful. -/
theorem careful_of_spares {p : Prog Runtime α} (spares : p.AllOps SparesDirectories) :
    Careful maximum cleans thread p world h :=
  Prog.safe_of_allOps (maintained fun _ _ same => same) spares trivial (fun _ _ _ _ => trivial)
    fun _ _ _ => trivial

/-- A thread that does not clean up has nothing to assert. -/
theorem careful_other (other : ¬cleans) (p : Prog Runtime α) :
    Careful maximum cleans thread p world h :=
  Prog.safe_of_allOps (maintained fun itDoes => absurd itDoes other)
    (Prog.allOps_of_forall (fun op => (trivial : (fun _ => True) op)) p) trivial
    (fun _ _ _ _ => trivial) fun _ _ _ => trivial

theorem careful_bind {β : Type} {p : RuntimeM α} {f : α → RuntimeM β}
    (first : Careful maximum cleans thread p.run world h)
    (rest : ∀ value world h, Careful maximum cleans thread (f value).run world h) :
    Careful maximum cleans thread (p >>= f).run world h := by
  refine Fallible.safe_bind (Prog.safe_mono first ?_)
  intro outcome world h _
  cases outcome with
  | ok value => exact rest value world h
  | error error => exact fun _ _ => trivial

/-! ### A cleanup -/

/-- An entry is removed right after its age was read, and only if it was old. -/
theorem careful_cleanupEntry (name : Text) (kind : FileKind) :
    Careful maximum cleans thread (WorkspaceManager.cleanupEntry maximum name kind).run world h := by
  unfold WorkspaceManager.cleanupEntry
  split
  · intro world₀ _
    refine ⟨fun _ _ => nofun, fun _ _ _ _ => trivial, ?_⟩
    intro res world' _
    cases res with
    | error error => exact fun _ _ => trivial
    | ok age =>
        change Careful maximum cleans thread (ExceptT.run (if age < maximum then _ else _)) world' _
        split
        · exact fun _ _ => trivial
        · rename_i old
          intro world₁ _
          refine ⟨?_, fun _ _ _ _ => trivial, ?_⟩
          · rintro _ other same
            cases same
            exact ⟨h, age, Nat.le_of_not_lt old, rfl⟩
          · rintro (error | _) world₂ _ world₃ _
            · trivial
            · trivial
  · exact fun _ _ => trivial

theorem careful_cleanupEntries (entries : List (Text × FileKind)) :
    Careful maximum cleans thread (WorkspaceManager.cleanupEntries maximum entries).run world h := by
  induction entries generalizing world h with
  | nil => exact fun _ _ => trivial
  | cons entry entries ih =>
      obtain ⟨name, kind⟩ := entry
      apply careful_bind (careful_cleanupEntry name kind)
      intro gone world h
      exact careful_bind ih fun _ _ _ _ _ => trivial

theorem careful_cleanupStale :
    Careful maximum cleans thread (WorkspaceManager.cleanupStale maximum).run world h := by
  apply careful_bind (careful_of_spares (spares_tryFileOp (.readDir .builds) trivial))
  rintro (error | entries) world h
  · apply careful_of_spares
    dsimp only
    split <;> trivial
  · exact careful_cleanupEntries entries

theorem careful_cleanupTarget (executor : DockerRuntimeExecutor)
    (totals : DockerRuntimeExecutor.CleanupTotals) (target : RuntimeCleanupTarget) :
    Careful executor.workspaceGcMaxAge cleans thread (executor.cleanupTarget totals target).run
      world h := by
  have asks : Fallible.AllOps SparesDirectories
      (Fallible.perform (I := Runtime) (ε := RuntimeError) .isCancelled) :=
    ⟨trivial, fun _ => trivial⟩
  apply careful_bind (careful_of_spares asks)
  intro isCancelled world h
  cases isCancelled with
  | true => exact fun _ _ => trivial
  | false =>
      cases target with
      | staleWorkspaces => exact careful_bind careful_cleanupStale fun _ _ _ _ _ => trivial
      | staleImages =>
          apply careful_of_spares
          exact Fallible.allOps_bind (spares_cleanupStaleImages _ _) fun _ => trivial
      | staleRoutes =>
          apply careful_of_spares
          exact Fallible.allOps_bind (spares_cleanupRoutes executor) fun _ => trivial

theorem careful_cleanupRuntime (executor : DockerRuntimeExecutor)
    (request : CleanupRuntimeRequest) :
    Careful executor.workspaceGcMaxAge cleans thread (executor.cleanupRuntime request).run
      world h := by
  have targets : ∀ targets totals world h, Careful executor.workspaceGcMaxAge cleans thread
      (executor.cleanupTargets totals targets).run world h := by
    intro targets
    induction targets with
    | nil => exact fun _ _ _ _ _ => trivial
    | cons target targets ih =>
        intro totals world h
        apply careful_bind (careful_cleanupTarget executor totals target)
        exact fun totals world h => ih totals world h
  unfold DockerRuntimeExecutor.cleanupRuntime
  split
  · exact fun _ _ => trivial
  · exact careful_bind (targets _ _ _ _) fun _ _ _ _ _ => trivial

end Careful

/-! ### Commands side by side -/

/-- A command that works on the workspaces. -/
inductive WorkspaceCommand where
  | cleanup (request : CleanupRuntimeRequest)
  | deploy (request : DeployProjectRequest)
  | inspect (request : InspectProjectRequest)

/-- The workspace a command checks its repository out into. -/
def WorkspaceCommand.workspace : WorkspaceCommand → Option Text
  | .cleanup _ => none
  | .deploy request => some request.commandId.toText
  | .inspect request => some request.commandId.toText

/-- An agent with settings that were accepted, and the command of each of its threads. -/
structure Setup where
  values : Values
  config : AppConfig
  accepted : AppConfig.fromValues values = .ok config
  parsers : Parsers
  parseReclaimedBytes : Text → Option Nat
  inspector : ProjectInspector
  command : ThreadId → WorkspaceCommand

/-- The agent while it runs. -/
abbrev Commands : Type :=
  Pool Runtime TimedNode ThreadId (Except RuntimeError CommandOutput)

namespace Setup

def executor (setup : Setup) : DockerRuntimeExecutor :=
  .withRunner setup.parsers setup.parseReclaimedBytes setup.config.dockerRuntime

def future (setup : Setup) (thread : ThreadId) : RuntimeM CommandOutput :=
  match setup.command thread with
  | .cleanup request => setup.executor.cleanupRuntime request
  | .deploy request => setup.executor.runDeployment request
  | .inspect request => setup.executor.runInspection setup.inspector request

def Cleans (setup : Setup) (thread : ThreadId) : Prop :=
  ∃ request, setup.command thread = .cleanup request

/-- Any number of commands; the future of each can be dropped. -/
def threads (setup : Setup) :
    Threads Runtime TimedNode ThreadId (Except RuntimeError CommandOutput) where
  semantics := TimedNode.semantics
  starts thread program := program = (setup.future thread).run
  onDrop _ := (DockerRuntimeExecutor.dropDeployment >>= fun _ => throw .cancelled).run

end Setup

/-! ### Workspaces in use -/

/-- A future that has not returned yet. -/
def isRunning {α : Type} : Option (Prog Runtime α) → Bool
  | some (.ret _) => false
  | some _ => true
  | none => false

/-- The next thing that is asked for is the first of a checkout into the workspace. -/
def begins {α : Type} (name : Text) : Option (Prog Runtime α) → Bool
  | some (.call (.file (.tryExists (.workspace other))) _) => other = name
  | _ => false

def looksFor (name : Text) : Event Runtime → Bool
  | .done (.file (.tryExists (.workspace other))) _ => other = name
  | _ => false

def creates (name : Text) : Event Runtime → Bool
  | .done (.file (.createDirAll (.workspace other))) _ => other = name
  | _ => false

/-- The workspace is removed, whether or not anybody waits for it. -/
def removes (name : Text) : Event Runtime → Bool
  | .done (.file (.removeDirAll (.workspace other))) _ => other = name
  | .abandoned (.file (.removeDirAll (.workspace other))) _ => other = name
  | _ => false

/-- The workspace has been removed again by the thread that created it. -/
def cleanedUp (name : Text) (h : History Runtime) : Bool :=
  (h.dropWhile fun event => !creates name event).any (removes name)

namespace Setup

/-- The command of the thread is between the start of its checkout into the workspace and its own
cleanup. -/
def isInUse (setup : Setup) (s : Commands) (thread : ThreadId) (name : Text) : Bool :=
  (setup.command thread).workspace = some name && isRunning (s.program thread) &&
    (begins name (s.program thread) || (s.history thread).any (looksFor name)) &&
    !cleanedUp name (s.history thread)

/-- No workspace in use is as old as the maximum when a cleanup reads its age, and no checkout starts in
a workspace that a cleanup has found old and is about to remove. -/
structure Spared (setup : Setup) (s : Commands)
    (action : Pool.Action Runtime ThreadId (Except RuntimeError CommandOutput)) (s' : Commands) :
    Prop where
  young : ∀ cleanup thread name (age : Nat), setup.Cleans cleanup →
    action = .act cleanup (.done (.file (.age (.workspace name))) (Except.ok age)) →
    setup.isInUse s thread name = true →
    Duration.asSecs (s.world.age name) < setup.executor.workspaceGcMaxAge
  unclaimed : ∀ cleanup thread name, setup.Cleans cleanup →
    FoundOld setup.executor.workspaceGcMaxAge (s.history cleanup) name →
    setup.isInUse s' thread name = true → setup.isInUse s thread name = true

end Setup

section Unused

variable {setup : Setup} {s s' : Commands}
  {action : Pool.Action Runtime ThreadId (Except RuntimeError CommandOutput)} {thread : ThreadId}
  {name : Text}

/-- A cleanup uses no workspace. -/
theorem not_cleans_of_isInUse (used : setup.isInUse s thread name = true) :
    ¬setup.Cleans thread := by
  rintro ⟨request, same⟩
  simp [Setup.isInUse, same, WorkspaceCommand.workspace] at used

/-- Whether a workspace is in use depends on the thread that uses it alone. -/
theorem isInUse_of_unmoved (stepped : Pool.Step setup.threads s action s')
    (still : action.thread ≠ some thread) :
    setup.isInUse s' thread name = setup.isInUse s thread name := by
  obtain ⟨program, history⟩ := stepped.unmoved still
  simp only [Setup.isInUse, program, history]

/-! ### The invariant -/

/-- No workspace that a cleanup has found old is in use. -/
def Unused (setup : Setup) (s : Commands) : Prop :=
  ∀ cleanup thread name, setup.Cleans cleanup →
    FoundOld setup.executor.workspaceGcMaxAge (s.history cleanup) name →
    setup.isInUse s thread name ≠ true

/-- What is found old by its last event has been read to be old just now. -/
theorem FoundOld.last {maximum : Nat} {h : History Runtime} {event : Event Runtime} (old : FoundOld maximum (h ++ [event]) name) :
    ∃ age : Nat, maximum ≤ age ∧ event = .done (.file (.age (.workspace name))) (Except.ok age) := by
  obtain ⟨before, age, reached, same⟩ := old
  exact ⟨age, reached, (List.append_inj' same rfl).2 |> List.singleton_inj.mp⟩

theorem unused_step (unused : Unused setup s) (stepped : Pool.Step setup.threads s action s')
    (spared : setup.Spared s action s') : Unused setup s' := by
  intro cleanup thread name cleans old used
  rcases stepped.history cleanup with same | ⟨event, rfl, grown⟩
  · rw [same] at old
    exact unused cleanup thread name cleans old (spared.unclaimed cleanup thread name cleans old used)
  · -- The cleanup has just read the age of a workspace that another thread uses.
    rw [grown] at old
    obtain ⟨age, reached, rfl⟩ := old.last
    have apart : thread ≠ cleanup := fun same => not_cleans_of_isInUse used (same ▸ cleans)
    rw [isInUse_of_unmoved stepped fun same => apart (Option.some.inj same).symm] at used
    have young := spared.young cleanup thread name _ cleans rfl used
    cases stepped with
    | done running step =>
        have told := TimedNode.Tells.le_age step.2.1
        exact absurd (Nat.lt_of_le_of_lt told young) (Nat.not_lt.mpr reached)

/-- The threads keep to their contracts, and no workspace found old is in use. -/
def Kept (setup : Setup) (s : Commands) : Prop :=
  Pool.Safe setup.threads
    (fun thread => contract setup.executor.workspaceGcMaxAge (setup.Cleans thread))
    (fun _ _ _ _ => True) s ∧ Unused setup s

theorem careful_future (world : TimedNode) (h : History Runtime) :
    Careful setup.executor.workspaceGcMaxAge (setup.Cleans thread) thread
      (setup.future thread).run world h := by
  by_cases cleans : setup.Cleans thread
  · obtain ⟨request, same⟩ := cleans
    unfold Setup.future
    rw [same]
    exact careful_cleanupRuntime setup.executor request
  · exact careful_other cleans _

theorem kept_step (kept : Kept setup s) (stepped : Pool.Step setup.threads s action s')
    (spared : setup.Spared s action s') : Kept setup s' := by
  refine ⟨?_, unused_step kept.2 stepped spared⟩
  apply kept.1.step stepped
  case started =>
    rintro thread program _ rfl
    exact careful_future s.world _
  case dropped =>
    intro thread _ world h _
    apply careful_of_spares
    exact ⟨trivial, fun _ => ⟨trivial, fun _ => ⟨trivial, fun _ => trivial⟩⟩⟩
  case relied => exact fun _ _ _ => .inl trivial

/-- A cleanup that removes a workspace has found it old. -/
theorem foundOld_of_removes {cleanup : ThreadId} {event : Event Runtime} (kept : Kept setup s)
    (cleans : setup.Cleans cleanup) (stepped : Pool.Step setup.threads s (.act cleanup event) s')
    (removed : removes name event = true) :
    FoundOld setup.executor.workspaceGcMaxAge (s.history cleanup) name := by
  have target : ∀ op : RuntimeOp, event.asked = some op →
      op = .file (.removeDirAll (.workspace name)) := by
    intro op asked
    unfold removes at removed
    split at removed
    · obtain rfl := of_decide_eq_true removed
      exact (Option.some.inj asked).symm
    · obtain rfl := of_decide_eq_true removed
      exact (Option.some.inj asked).symm
    · cases removed
  cases stepped with
  | done running step =>
      exact (kept.1 cleanup _ running _ .refl).1 cleans name (target _ rfl)
  | abandoned running left =>
      exact (kept.1 cleanup _ running _ .refl).1 cleans name (target _ rfl)
  | fired running => cases removed

/-- However cleanups take turns with deployments and inspections: where no workspace in use is found
old, and no command moves into one that was, no cleanup removes a workspace in use. -/
theorem workspaces_spared (setup : Setup) (start : TimedNode) {s s' : Commands}
    (run : Pool.Runs setup.threads setup.Spared (Pool.empty start) s) {cleanup : ThreadId}
    (cleans : setup.Cleans cleanup) {event : Event Runtime}
    (stepped : Pool.Step setup.threads s (.act cleanup event) s') {name : Text}
    (removed : removes name event = true) (thread : ThreadId) :
    setup.isInUse s thread name = false := by
  have kept : Kept setup s := by
    apply run.invariant (Kept setup)
    · exact fun s action s' kept stepped spared => kept_step kept stepped spared
    · refine ⟨fun thread program running => (nomatch running), ?_⟩
      rintro cleanup thread name _ ⟨before, age, _, impossible⟩
      simp [Pool.empty] at impossible
  have old := foundOld_of_removes kept cleans stepped removed
  exact Bool.eq_false_of_not_eq_true (kept.2 cleanup thread name cleans old)

end Unused

/-! ### Two runs -/

/-- The last thing a thread has done is to remove the workspace. -/
def hasRemoved (name : Text) (s : Commands) (thread : ThreadId) : Bool :=
  (s.history thread).getLast?.any (removes name)

/-- The next step of the thread removes the workspace. -/
def removesNext (script : NodeScript) (name : Text) (s : Commands) (thread : ThreadId) : Bool :=
  !hasRemoved name s thread &&
    (s.advance (TimedNode.script script) thread).any fun s' => hasRemoved name s' thread

theorem exists_of_removesNext {setup : Setup} {script : NodeScript} {name : Text} {s : Commands}
    {thread : ThreadId} (next : removesNext script name s thread = true) :
    ∃ event s', Pool.Step setup.threads s (.act thread event) s' ∧ removes name event = true := by
  simp only [removesNext, Bool.and_eq_true, Bool.not_eq_true'] at next
  obtain ⟨notYet, advances⟩ := next
  obtain ⟨s', advanced, removed⟩ := (Option.any_eq_true ..).mp advances
  obtain ⟨action, stepped, _⟩ :=
    Pool.advance_sound (T := setup.threads) (TimedNode.sound script thread) advanced
  rcases stepped.history thread with same | ⟨event, rfl, grown⟩
  · have before : hasRemoved name s thread = true := by
      unfold hasRemoved at removed ⊢
      rwa [same] at removed
    rw [before] at notYet
    cases notYet
  · refine ⟨event, s', stepped, ?_⟩
    simpa [hasRemoved, grown] using removed

namespace OneMinute

def values : Values := fun name =>
  if name = "SAKALA_RUNTIME_DRIVER" then some "docker"
  else if name = "SAKALA_WORKSPACE_GC_MAX_AGE_SECONDS" then some "60"
  else none

def config : AppConfig where
  agent :=
    { mode := .localMode
      agentId := "local-agent-01"
      agentToken := none
      apiUrl := "http://localhost:8000"
      pollIntervalSeconds := 3
      heartbeatIntervalSeconds := 10
      commandTimeoutSeconds := 900
      maxConcurrentCommands := 4
      shutdownGraceSeconds := 30
      runtimeNetwork := "sakala-runtime"
      capabilities := capabilities .docker }
  runtimeDriver := .docker
  dockerRuntime := { workspaceGcMaxAge := 60 }
  runtimeHealthInterval := Duration.fromSecs 30
  logLevel := "info"

theorem accepted : AppConfig.fromValues values = .ok config :=
  rfl

/-- A deployment on thread 0, and cleanups on all others. -/
def command : ThreadId → WorkspaceCommand
  | 0 => .deploy (Sample.deployment 1)
  | _ => .cleanup
      { commandId := Sample.uuid 2, approved := true, targets := [.staleWorkspaces] }

def setup : Setup where
  values := values
  config := config
  accepted := accepted
  parsers := Sample.executor.parsers
  parseReclaimedBytes _ := none
  inspector := { inspect := fun _ _ => throw .cancelled }
  command := command

def name : Text :=
  (Sample.uuid 1).toText

/-- A node that works and has room on its disk; its listings tell of one workspace. -/
def script (listed : Text) : NodeScript where
  prints _ spec :=
    match spec.line with
    | .df _ => ["/dev/disk 20000000 10000000 10000000".toList]
    | _ => []
  names := [listed]

def start : TimedNode where
  node := Sample.node
  clock := 0
  modified _ := 0
  past _ := Nat.le_refl _

/-- The deployment waits for `git fetch`; a minute later a cleanup reads the age of its workspace. -/
def moves : List (Pool.Move Runtime TimedNode ThreadId (Except RuntimeError CommandOutput)) :=
  [.start 0 (setup.future 0).run, .go 0 10,
    .drift fun world => some (world.passed (Duration.fromSecs 60)),
    .start 1 (setup.future 1).run, .go 1 3]

/-- A fetch takes a minute, and the workspace it fetches into is taken away. -/
theorem workspace_removed_in_use : ∃ (s s' : Commands) (event : Event Runtime),
    Pool.Runs setup.threads (fun _ _ _ => True) (Pool.empty start) s ∧ setup.Cleans 1 ∧
      Pool.Step setup.threads s (.act 1 event) s' ∧ removes name event = true ∧
      setup.isInUse s 0 name = true := by
  have played : ((Pool.empty start).play (TimedNode.script (script name)) moves).any (fun s =>
      setup.isInUse s 0 name && removesNext (script name) name s 1) = true := by
    decide +kernel
  obtain ⟨s, played, found⟩ := (Option.any_eq_true ..).mp played
  obtain ⟨used, next⟩ := Bool.and_eq_true_iff.mp found
  obtain ⟨event, s', stepped, removed⟩ := exists_of_removesNext next
  refine ⟨s, s', event, ?_, ⟨_, rfl⟩, stepped, removed, used⟩
  apply Pool.play_sound (fun _ _ _ _ => trivial) (TimedNode.sound (script name)) _ played
  intro move member
  simp only [moves, List.mem_cons, List.not_mem_nil, or_false] at member
  rcases member with rfl | rfl | rfl | rfl | rfl
  · rfl
  · trivial
  · rintro s world ⟨⟩
    exact ⟨⟨0, .inl (s.world.waits_passed _)⟩, trivial⟩
  · rfl
  · trivial

/-! ### A workspace left behind -/

/-- The workspace of a command that is gone. -/
def leftover : Text :=
  (Sample.uuid 3).toText

def startLeftover : TimedNode where
  node :=
    { Sample.node with
      files := fun path => if path = .workspace leftover then some .directory else none }
  clock := Duration.fromSecs 60
  modified _ := 0
  past _ := Nat.zero_le _

/-- The cleanup lists the workspaces before the deployment begins its checkout. -/
def movesLeftover : List (Pool.Move Runtime TimedNode ThreadId (Except RuntimeError CommandOutput)) :=
  [.start 1 (setup.future 1).run, .go 1 2, .start 0 (setup.future 0).run, .go 0 10, .go 1 1]

/-- The age of the workspace of the deployment is not told. -/
def isUntold : RuntimeOp → Bool
  | .file (.age (.workspace other)) => other = name
  | _ => false

def untold (thread : ThreadId) : Script Runtime TimedNode :=
  (TimedNode.script (script leftover) thread).guarded fun _ op => !isUntold op

theorem untold_sound (thread : ThreadId) :
    (untold thread).Sound (setup.threads.semantics thread) where
  answer answered := (((TimedNode.sound (script leftover) thread).guarded _).answer answered).1
  leave left := (TimedNode.sound (script leftover) thread).leave left

/-- The age of the workspace of the deployment has been read. -/
def IsReading (event : Event Runtime) : Prop :=
  ∃ age : Nat, event = .done (.file (.age (.workspace name))) (Except.ok age)

theorem not_isReading_of_scripted {s s' : Commands} {thread : ThreadId} {event : Event Runtime}
    (scripted : Pool.Scripted untold s s' (.act thread event)) : ¬IsReading event := by
  rintro ⟨age, rfl⟩
  have answered : (untold thread).answer (s.history thread) s.world
      (.file (.age (.workspace name))) = some (Except.ok age, s'.world) := scripted
  have refused : (untold thread).answer (s.history thread) s.world
      (.file (.age (.workspace name))) = none := rfl
  rw [refused] at answered
  cases answered

def Unread (s : Commands) : Prop :=
  ∀ thread, ∀ event ∈ s.history thread, ¬IsReading event

theorem unread_step {s s' : Commands}
    {action : Pool.Action Runtime ThreadId (Except RuntimeError CommandOutput)} (unread : Unread s)
    (stepped : Pool.Step setup.threads s action s') (scripted : Pool.Scripted untold s s' action) :
    Unread s' := by
  intro thread event member
  rcases stepped.history thread with same | ⟨last, rfl, grown⟩
  · exact unread thread event (same ▸ member)
  · rw [grown, List.mem_append, List.mem_singleton] at member
    rcases member with before | rfl
    · exact unread thread event before
    · exact not_isReading_of_scripted scripted

theorem name_of_isInUse {s : Commands} {thread : ThreadId} {other : Text}
    (used : setup.isInUse s thread other = true) : other = name := by
  simp only [Setup.isInUse, Bool.and_eq_true, decide_eq_true_eq] at used
  obtain ⟨⟨⟨own, _⟩, _⟩, _⟩ := used
  cases thread with
  | zero => exact (Option.some.inj own).symm
  | succ thread => cases own

theorem spared_of_unread {s s' : Commands}
    {action : Pool.Action Runtime ThreadId (Except RuntimeError CommandOutput)} (unread : Unread s)
    (scripted : Pool.Scripted untold s s' action) : setup.Spared s action s' where
  young := by
    rintro cleanup thread other age _ rfl used
    obtain rfl := name_of_isInUse used
    exact absurd ⟨age, rfl⟩ (not_isReading_of_scripted scripted)
  unclaimed := by
    rintro cleanup thread other _ ⟨before, age, _, grown⟩ used
    obtain rfl := name_of_isInUse used
    refine absurd ⟨age, rfl⟩ (unread cleanup _ ?_)
    rw [grown]
    exact List.mem_append_right _ (List.mem_singleton_self _)

/-- A cleanup removes what a command has left behind, and a deployment beside it keeps its own. -/
theorem workspaces_spared_leftover : ∃ (s s' : Commands) (event : Event Runtime),
    Pool.Step setup.threads s (.act 1 event) s' ∧ removes leftover event = true ∧
      setup.isInUse s 0 name = true ∧ setup.isInUse s 0 leftover = false := by
  have played : ((Pool.empty startLeftover).play untold movesLeftover).any (fun s =>
      setup.isInUse s 0 name && removesNext (script leftover) leftover s 1) = true := by
    decide +kernel
  obtain ⟨s, played, found⟩ := (Option.any_eq_true ..).mp played
  obtain ⟨used, next⟩ := Bool.and_eq_true_iff.mp found
  obtain ⟨event, s', stepped, removed⟩ := exists_of_removesNext next
  have scripted : Pool.Runs setup.threads (fun s action s' => Pool.Scripted untold s s' action)
      (Pool.empty startLeftover) s := by
    apply Pool.play_sound (fun _ _ _ scripted => scripted) untold_sound _ played
    intro move member
    simp only [movesLeftover, List.mem_cons, List.not_mem_nil, or_false] at member
    rcases member with rfl | rfl | rfl | rfl | rfl
    · rfl
    · trivial
    · rfl
    · trivial
    · trivial
  have run : Pool.Runs setup.threads setup.Spared (Pool.empty startLeftover) s := by
    apply scripted.strengthen Unread
    · exact fun s action s' unread stepped scripted => unread_step unread stepped scripted
    · exact fun s action s' unread _ scripted => spared_of_unread unread scripted
    · exact fun _ _ member => (List.not_mem_nil member).elim
  refine ⟨s, s', event, stepped, removed, used, ?_⟩
  exact workspaces_spared setup startLeftover run ⟨_, rfl⟩ stepped removed 0

end OneMinute

end WorkspaceCollection

end SakalaAgent
