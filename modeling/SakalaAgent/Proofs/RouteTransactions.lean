/-
Module: SakalaAgent.Proofs.RouteTransactions
Layer: Proofs
Purpose: The calls of the route manager as transactions. A call touches the route files only while it
  holds the mutation lock, and only the file of its own project; when it gives the lock back, the
  file is what its outcome says. The calls are verified against any contract under which the holder
  of the lock has the route files for itself, and then run side by side.
Trusted boundary: a process of the router changes no route file
Main exports: RouteCall, RouteCall.Permits, RouteCall.Transaction, RouteGuarded,
  RouteGuarded.safe_run, RouteCalls.transactions
-/
import SakalaAgent.Proofs.Listings
import SakalaAgent.Proofs.RouteCommit
import SakalaAgent.Runtime.NodeScript

namespace SakalaAgent

open Async

/-- A call of the route manager. -/
inductive RouteCall where
  | activate (route : RouteSpec)
  | deactivate (identity : RouteIdentity)

/-! ### Names of route files -/

theorem siteFile_injective {projectId other : Uuid} (same : siteFile projectId = siteFile other) :
    projectId = other := by
  injection same with same
  exact Uuid.toText_injective (List.append_cancel_right same)

/-- The file a route is written to first is the route file of no project. -/
theorem temporarySiteFile_ne_siteFile (projectId other : Uuid) :
    temporarySiteFile projectId ≠ siteFile other := by
  intro same
  injection same with same
  have lengths := congrArg List.length same
  simp only [siteName, List.length_cons, List.length_append, toText_length] at lengths
  omega

namespace RouteCall

def projectId : RouteCall → Uuid
  | .activate route => route.projectId
  | .deactivate identity => identity.projectId

/-- The route file of the project of the call. -/
def site (call : RouteCall) : FilePath :=
  siteFile call.projectId

/-- What the call may take a file away for: it put it there itself, or the file begins as the route
that is to be taken away. -/
def MayRemove (content : FileContent) : RouteCall → Prop
  | .activate route => content.text = routeContent route
  | .deactivate { projectId, deploymentId := some deploymentId } =>
      Text.startsWith content.text (deploymentPrefix projectId deploymentId) = true
  | .deactivate { projectId, deploymentId := none } =>
      Text.startsWith content.text (legacyPrefix projectId) = true

/-- The operations on route files that a call may ask for. -/
def Permits (call : RouteCall) (files : Files) : FsOp → Prop
  | .write path _ => path = temporarySiteFile call.projectId ∨ path = call.site
  | .rename source target => source = temporarySiteFile call.projectId ∧ target = call.site
  | .removeFile path => path = call.site ∧
      ∃ content, files path = some (.file content) ∧ call.MayRemove content
  | op => op.keepsSites = true

/-- A rollback writes the file of the project, and an activation takes it away only to roll back. -/
def RollbackSucceeds (call : RouteCall) : (op : FsOp) → op.Res → Prop
  | .write path _, res => path = call.site → res = .ok ()
  | .removeFile path, res => path = call.site → (∃ route, call = .activate route) →
      ∀ error, res = .error error → error.notFound = true
  | _, _ => True

/-- What a call that held the lock has made of the route file it found. -/
def Transaction {α : Type} (call : RouteCall) (taken : Files) (outcome : Except RuntimeError α)
    (given : Files) : Prop :=
  match call, outcome with
  | _, .error _ => given call.site = taken call.site
  | .activate route, .ok _ => given call.site = some (.file { text := routeContent route })
  | .deactivate _, .ok _ => given call.site = taken call.site ∨
      (given call.site = none ∧
        ∃ content, taken call.site = some (.file content) ∧ call.MayRemove content)

/-- The future of a call. -/
def run (manager : RouteManager) : RouteCall → RuntimeM Unit
  | .activate route => manager.activate route
  | .deactivate identity => do
      let _ ← manager.deactivate identity
      return ()

variable {call : RouteCall} {files files' : Files} {op : FsOp} {res : op.Res}

theorem temporary_ne_site (call : RouteCall) (projectId : Uuid) :
    temporarySiteFile call.projectId ≠ siteFile projectId :=
  temporarySiteFile_ne_siteFile call.projectId projectId

/-- A call changes the route file of no other project. -/
theorem Permits.keepsOther (permits : call.Permits files op) (step : files.Step files' op res)
    {projectId : Uuid} (other : projectId ≠ call.projectId) :
    files' (siteFile projectId) = files (siteFile projectId) := by
  have ne : siteFile projectId ≠ call.site := fun same => other (siteFile_injective same)
  have neTemporary := (call.temporary_ne_site projectId).symm
  cases op with
  | write path content =>
      have away : siteFile projectId ≠ path := by
        rcases permits with rfl | rfl
        · exact neTemporary
        · exact ne
      cases res with
      | ok _ =>
          obtain rfl : files' = _ := step
          exact Function.update_of_ne away ..
      | error error =>
          obtain ⟨left, rfl⟩ := step
          exact Function.update_of_ne away ..
  | rename source target =>
      obtain ⟨rfl, rfl⟩ := permits
      cases res with
      | ok _ =>
          obtain ⟨entry, _, rfl⟩ := step
          rw [Function.update_of_ne ne, Function.update_of_ne neTemporary]
      | error error =>
          obtain rfl : files' = files := step
          rfl
  | removeFile path =>
      obtain ⟨rfl, _⟩ := permits
      cases res with
      | ok _ => exact step.2 ▸ Function.update_of_ne ne ..
      | error error => exact step.1 ▸ rfl
  | createDirAll | tryExists | setPermissions | read | createNew | append | removeDirAll | readDir
  | age => exact step.sameSites permits _

end RouteCall

/-! ### The holder of the mutation lock -/

namespace Node

/-- The thread touches the route files only while it holds the mutation lock. -/
def Guards (node : Node) (thread : ThreadId) (op : RuntimeOp) : Prop :=
  ∀ fsOp, op = .file fsOp → fsOp.keepsSites = true ∨ node.holder .routes = some thread

variable {thread other : ThreadId} {node node' : Node} {op : RuntimeOp}

theorem Guards.keepsSites (guards : node.Guards thread op) (ne : other ≠ thread)
    (held : node.holder .routes = some other) (fsOp : FsOp) (isFile : op = .file fsOp) :
    fsOp.keepsSites = true := by
  rcases guards fsOp isFile with keeps | own
  · exact keeps
  · rw [held] at own
    exact absurd (Option.some.inj own) ne

/-- The holder of the lock keeps it beside a thread that touches the route files only inside it, and
keeps the route files. -/
theorem sites_of_step {res : op.Res} (ne : other ≠ thread) (guards : node.Guards thread op)
    (held : node.holder .routes = some other) (step : node.step thread op res node') :
    node'.holder .routes = some other ∧ node.files.SameSites node'.files :=
  ⟨holder_of_step_other ne held step, sameSites_of_step (guards.keepsSites ne held) step⟩

theorem sites_of_leave {outcome : Option op.Res} (ne : other ≠ thread)
    (guards : node.Guards thread op) (held : node.holder .routes = some other)
    (left : node.leave op outcome node') :
    node'.holder .routes = some other ∧ node.files.SameSites node'.files :=
  ⟨(congrFun (holder_of_leave left) _).trans held,
    sameSites_of_leave (guards.keepsSites ne held) left⟩

theorem sites_of_lands (held : node.holder .routes = some other) (lands : node.Lands node') :
    node'.holder .routes = some other ∧ node.files.SameSites node'.files := by
  refine ⟨?_, lands.sameSites⟩
  obtain ⟨before, spec, after, _, files, docker, _, rfl, _⟩ := lands
  exact held

end Node

/-- What a call asks for: processes that change nothing, its lock, and files it may touch, the route
files only while it holds the lock. -/
def RouteCall.Asks (call : RouteCall) (thread : ThreadId) (node : Node) : RuntimeOp → Prop
  | .process spec => spec.line.isQuiet = true
  | .log _ => True
  | .lock which => which = .routes
  | .release which => which = .routes
  | .file op => op.keepsSites = true ∨
      (node.holder .routes = some thread ∧ call.Permits node.files op)
  | _ => False

/-- A contract under which a call is verified. The world has the node in it; `J` holds outside the lock
and `K taken` inside, where `taken` are the files as they were when the lock was taken. -/
structure RouteGuarded {W : Type} (S : Semantics Runtime W) (C : Contract Runtime W)
    (node : W → Node) (thread : ThreadId) (call : RouteCall) (J : W → History Runtime → Prop)
    (K : Files → W → History Runtime → Prop) : Prop where
  step : ∀ {w op res w'}, S.step w op res w' → (node w).step thread op res (node w')
  leave : ∀ {w op outcome w'}, S.leave w op outcome w' → (node w).leave op outcome (node w')
  rollback : ∀ {w op res w'}, S.step w (.file op) res w' → call.RollbackSucceeds op res
  outside : ∀ {w h w'}, J w h → C.rely h w w' → J w' h
  inside : ∀ {taken w h w'}, K taken w h → C.rely h w w' → K taken w' h
  keepsLock : ∀ {taken w h w'}, K taken w h → C.rely h w w' →
    (node w).holder .routes = some thread → (node w').holder .routes = some thread ∧
      (node w).files.SameSites (node w').files
  taken : ∀ {w h w'}, J w h → S.step w (.lock .routes) () w' →
    K (node w').files w' (h ++ [.done (.lock .routes) ()])
  kept : ∀ {taken w h op res w'}, K taken w h → call.Asks thread (node w) op →
    (∀ which, op ≠ .lock which ∧ op ≠ .release which) → S.step w op res w' →
    K taken w' (h ++ [.done op res])
  keptLeft : ∀ {taken w h op outcome w'}, K taken w h → call.Asks thread (node w) op →
    S.leave w op outcome w' → K taken w' (h ++ [.abandoned op outcome])
  fired : ∀ {taken w h which op}, K taken w h → K taken w (h ++ [.fired which op])
  asserts : ∀ {w h op}, (J w h ∨ ∃ taken, K taken w h) → call.Asks thread (node w) op →
    C.asserts w h op
  left : ∀ w h, C.left w h

namespace RouteGuarded

variable {W : Type} {S : Semantics Runtime W} {C : Contract Runtime W} {node : W → Node}
  {thread : ThreadId} {call : RouteCall} {J : W → History Runtime → Prop}
  {K : Files → W → History Runtime → Prop} {α : Type} {taken : Files} {w : W}
  {h : History Runtime}

/-- Inside the lock, with a fact about the route files. -/
structure Inside (node : W → Node) (thread : ThreadId) (K : Files → W → History Runtime → Prop)
    (taken : Files) (P : Files → Prop) (w : W) (h : History Runtime) : Prop where
  kept : K taken w h
  held : (node w).holder .routes = some thread
  fact : P (node w).files

/-- A fact about the route files alone. -/
def AboutSites (P : Files → Prop) : Prop :=
  ∀ files files', P files → files.SameSites files' → P files'

theorem inside_others (guarded : RouteGuarded S C node thread call J K) {P : Files → Prop}
    (sites : AboutSites P) {w' : W} (others : C.Others h w w')
    (inside : Inside node thread K taken P w h) : Inside node thread K taken P w' h := by
  apply others.keeps (fun w => Inside node thread K taken P w h) _ inside
  intro w w' inside relied
  obtain ⟨held, same⟩ := guarded.keepsLock inside.kept relied inside.held
  exact ⟨guarded.inside inside.kept relied, held, sites _ _ inside.fact same⟩

theorem safe_ret (guarded : RouteGuarded S C node thread call J K) {P : Files → Prop}
    (sites : AboutSites P) {value : α} {Q : α → W → History Runtime → Prop}
    (inside : Inside node thread K taken P w h)
    (hQ : ∀ w, Inside node thread K taken P w h → Q value w h) :
    (Prog.ret value).safe S C Q w h :=
  fun _ others => hQ _ (guarded.inside_others sites others inside)

theorem asks_of_spawns {node : Node} {op : RuntimeOp}
    (spawns : Spawns (fun line => line.isQuiet = true) op) : call.Asks thread node op := by
  cases op with
  | process spec => exact spawns
  | log line => trivial
  | _ => exact absurd spawns not_false

theorem noLock_of_spawns {allowed : CommandLine → Prop} {op : RuntimeOp}
    (spawns : Spawns allowed op) (which : NodeLock) : op ≠ .lock which ∧ op ≠ .release which := by
  constructor
  · rintro rfl
    exact spawns
  · rintro rfl
    exact spawns

/-- Processes inside the lock, and what is passed on of their output. -/
theorem safe_spawns (guarded : RouteGuarded S C node thread call J K) {P : Files → Prop}
    (sites : AboutSites P) {p : RuntimeM α}
    {Q : Except RuntimeError α → W → History Runtime → Prop}
    (spawns : Fallible.AllOps (Spawns fun line => line.isQuiet = true) p)
    (inside : Inside node thread K taken P w h)
    (hQ : ∀ outcome w h, Inside node thread K taken P w h → Q outcome w h) :
    Prog.safe S C Q p.run w h := by
  have maintained : Prog.Maintains S C (Spawns fun line => line.isQuiet = true)
      (Inside node thread K taken P) :=
    { asserts := fun op spawns w h inside =>
        guarded.asserts (.inr ⟨taken, inside.kept⟩) (asks_of_spawns spawns)
      done := fun op spawns w h res w' inside step =>
        ⟨guarded.kept inside.kept (asks_of_spawns spawns) (noLock_of_spawns spawns) step,
          by rw [Node.holder_of_step (noLock_of_spawns spawns) (guarded.step step)]; exact inside.held,
          sites _ _ inside.fact (Node.step_sameSites spawns.asks (guarded.step step))⟩
      abandoned := fun op spawns w h outcome w' inside leave =>
        ⟨guarded.keptLeft inside.kept (asks_of_spawns spawns) leave,
          by rw [Node.holder_of_leave (guarded.leave leave)]; exact inside.held,
          sites _ _ inside.fact (Node.leave_sameSites spawns.asks (guarded.leave leave))⟩
      fired := fun which op w h inside => ⟨guarded.fired inside.kept, inside.held, inside.fact⟩
      rely := fun w h w' inside relied => guarded.inside_others sites (.single relied) inside }
  exact Prog.safe_of_allOps maintained spawns inside hQ fun w h _ => guarded.left w h

/-- One operation on files inside the lock. -/
theorem safe_tryFileOp (guarded : RouteGuarded S C node thread call J K) {op : FsOp}
    {P : Files → Prop} {R : op.Res → Files → Prop} (sites : AboutSites P)
    (sites' : ∀ res, AboutSites (R res))
    {Q : Except RuntimeError op.Res → W → History Runtime → Prop}
    (inside : Inside node thread K taken P w h)
    (permits : ∀ files, P files → op.keepsSites = true ∨ call.Permits files op)
    (steps : ∀ files res files', P files → files.Step files' op res →
      call.RollbackSucceeds op res → R res files')
    (hQ : ∀ res w h, Inside node thread K taken (R res) w h → Q (.ok res) w h) :
    Prog.safe S C Q (tryFileOp op).run w h := by
  intro w₀ others
  have before := guarded.inside_others sites others inside
  have asks : call.Asks thread (node w₀) (.file op) :=
    (permits _ before.fact).imp_right fun permits => ⟨before.held, permits⟩
  refine ⟨guarded.asserts (.inr ⟨taken, before.kept⟩) asks, fun _ _ w' _ => guarded.left w' _, ?_⟩
  intro res w' step
  have stepped := guarded.step step
  have after : Inside node thread K taken (R res) w' (h ++ [.done (.file op) res]) := by
    refine ⟨guarded.kept before.kept asks (fun _ => ⟨by simp, by simp⟩) step, ?_, ?_⟩
    · rw [Node.holder_of_step (fun _ => ⟨by simp, by simp⟩) stepped]
      exact before.held
    · obtain ⟨files, moved, same⟩ := stepped
      rw [same]
      exact steps _ res _ before.fact moved (guarded.rollback step)
  exact guarded.safe_ret (sites' res) after fun w inside => hQ res w _ inside

theorem safe_fileOp (guarded : RouteGuarded S C node thread call J K) {op : FsOp}
    {P : Files → Prop} {R : op.Res → Files → Prop} (sites : AboutSites P)
    (sites' : ∀ res, AboutSites (R res))
    {Q : Except RuntimeError op.Value → W → History Runtime → Prop}
    (inside : Inside node thread K taken P w h)
    (permits : ∀ files, P files → op.keepsSites = true ∨ call.Permits files op)
    (steps : ∀ files res files', P files → files.Step files' op res →
      call.RollbackSucceeds op res → R res files')
    (hQ : ∀ res w h, Inside node thread K taken (R res) w h →
      Q (res.mapError RuntimeError.filesystem) w h) :
    Prog.safe S C Q (fileOp op).run w h := by
  apply Fallible.safe_bind
  apply guarded.safe_tryFileOp sites sites' inside permits steps
  intro res w h inside
  exact guarded.safe_ret (sites' res) inside fun w inside => hQ res w h inside

/-! ### Futures inside the lock -/

/-- The route file of the call. -/
def SiteIs (call : RouteCall) (entry : Option FileEntry) (files : Files) : Prop :=
  files call.site = entry

theorem aboutSites_siteIs (call : RouteCall) (entry : Option FileEntry) :
    AboutSites (SiteIs call entry) :=
  fun _ _ is same => (same _).trans is

variable {before : Option FileEntry}

theorem safe_readIfPresent (guarded : RouteGuarded S C node thread call J K)
    {Q : Except RuntimeError (Option FileContent) → W → History Runtime → Prop}
    (inside : Inside node thread K taken (SiteIs call before) w h)
    (hQ : ∀ previous w h, Inside node thread K taken (SiteIs call before) w h →
      IsBefore before previous → Q (.ok previous) w h)
    (failed : ∀ error w h, Inside node thread K taken (SiteIs call before) w h →
      Q (.error error) w h) :
    Prog.safe S C Q (readIfPresent call.site).run w h := by
  apply Fallible.safe_bind
  apply guarded.safe_tryFileOp (R := fun res files => SiteIs call before files ∧ match res with
      | .ok content => before = some (.file content)
      | .error error => error.notFound = true → before = none)
    (aboutSites_siteIs call before) _ inside (fun _ _ => .inl rfl)
  case steps =>
    intro files res files' is step _
    cases res with
    | ok content =>
        obtain ⟨rfl, found⟩ := step
        exact ⟨is, is.symm.trans found⟩
    | error error =>
        obtain ⟨rfl, absent⟩ := step
        exact ⟨is, fun notFound => is.symm.trans (absent notFound)⟩
  case hQ =>
    rintro res w h ⟨kept, held, is, known⟩
    have inside : Inside node thread K taken (SiteIs call before) w h := ⟨kept, held, is⟩
    cases res with
    | ok content =>
        exact guarded.safe_ret (aboutSites_siteIs call before) inside fun w inside =>
          hQ (some content) w h inside known
    | error error =>
        simp only []
        split
        · rename_i notFound
          exact guarded.safe_ret (aboutSites_siteIs call before) inside fun w inside =>
            hQ none w h inside (known notFound)
        · exact guarded.safe_ret (aboutSites_siteIs call before) inside fun w inside =>
            failed _ w h inside
  intro res files files' ⟨is, known⟩ same
  exact ⟨aboutSites_siteIs call before files files' is same, known⟩

/-- A rollback inside the lock puts back what was read. -/
theorem safe_restore (guarded : RouteGuarded S C node thread call J K)
    {Q : Except RuntimeError Unit → W → History Runtime → Prop} {previous : Option FileContent}
    {changed : Bool} {entry : Option FileEntry}
    (inside : Inside node thread K taken (SiteIs call entry) w h)
    (known : IsBefore before previous)
    (removable : previous = none → (∃ route, call = .activate route) ∧
      ∃ content, entry = some (.file content) ∧ call.MayRemove content)
    (hQ : ∀ outcome w h, Inside node thread K taken (SiteIs call before) w h → Q outcome w h) :
    Prog.safe S C Q
      (RouteSnapshot.restore { path := call.site, previous, changed }).run w h := by
  unfold RouteSnapshot.restore
  cases previous with
  | some content =>
      have permits : ∀ files, SiteIs call entry files →
          (FsOp.write call.site content).keepsSites = true ∨
            call.Permits files (.write call.site content) := fun _ _ => .inr (.inr rfl)
      apply guarded.safe_fileOp (R := fun _ => SiteIs call before) (aboutSites_siteIs call entry)
        (fun _ => aboutSites_siteIs call before) inside permits
      · intro files res files' _ step rollback
        obtain rfl : res = .ok () := rollback rfl
        obtain rfl : files' = _ := step
        exact (Function.update_self ..).trans known.symm
      · exact fun res w h inside => hQ _ w h inside
  | none =>
      obtain ⟨activation, content, rfl, mayRemove⟩ := removable rfl
      have permits : ∀ files, SiteIs call (some (.file content)) files →
          (FsOp.removeFile call.site).keepsSites = true ∨
            call.Permits files (.removeFile call.site) :=
        fun files is => .inr ⟨rfl, content, is, mayRemove⟩
      apply Fallible.safe_bind
      apply guarded.safe_tryFileOp (R := fun _ => SiteIs call before)
        (aboutSites_siteIs call _) (fun _ => aboutSites_siteIs call before) inside permits
      · intro files res files' is step rollback
        cases res with
        | ok _ =>
            obtain ⟨_, rfl⟩ := step
            exact (Function.update_self ..).trans known.symm
        | error error =>
            have absent := step.2 (rollback rfl activation error rfl)
            rw [show files call.site = _ from is] at absent
            cases absent
      · rintro (error | _) w h inside
        · simp only []
          split
          · exact guarded.safe_ret (aboutSites_siteIs call before) inside fun w inside =>
              hQ _ w h inside
          · exact guarded.safe_ret (aboutSites_siteIs call before) inside fun w inside =>
              hQ _ w h inside
        · exact guarded.safe_ret (aboutSites_siteIs call before) inside fun w inside =>
            hQ _ w h inside

/-- A change that the router does not accept is taken back. -/
theorem safe_reloadOrRestore (guarded : RouteGuarded S C node thread call J K)
    (manager : RouteManager) {Q : Except RuntimeError Unit → W → History Runtime → Prop}
    {previous : Option FileContent} {changed : Bool} {entry : Option FileEntry}
    (inside : Inside node thread K taken (SiteIs call entry) w h)
    (known : IsBefore before previous)
    (removable : previous = none → (∃ route, call = .activate route) ∧
      ∃ content, entry = some (.file content) ∧ call.MayRemove content)
    (accepted : ∀ w h, Inside node thread K taken (SiteIs call entry) w h → Q (.ok ()) w h)
    (refused : ∀ error w h, Inside node thread K taken (SiteIs call before) w h →
      Q (.error error) w h) :
    Prog.safe S C Q (manager.reloadOrRestore { path := call.site, previous, changed }).run w h := by
  apply Fallible.safe_attempt
  apply guarded.safe_spawns (aboutSites_siteIs call entry)
    (spawns_validateAndReload (fun _ quiet => quiet) manager) inside
  rintro (error | _) w h inside
  · apply Fallible.safe_bind
    apply guarded.safe_restore inside known removable
    rintro (error' | _) w h inside
    · exact guarded.safe_ret (aboutSites_siteIs call before) inside fun w inside =>
        refused _ w h inside
    · apply Fallible.safe_bind
      apply guarded.safe_spawns (aboutSites_siteIs call before)
        (spawns_reloadAfterRollback (fun _ quiet => quiet) manager) inside
      rintro (error' | _) w h inside
      · exact guarded.safe_ret (aboutSites_siteIs call before) inside fun w inside =>
          refused _ w h inside
      · exact guarded.safe_ret (aboutSites_siteIs call before) inside fun w inside =>
          refused _ w h inside
  · exact guarded.safe_ret (aboutSites_siteIs call entry) inside fun w inside => accepted w h inside

/-- The lock around a future whose calls are verified inside it. -/
theorem safe_locked (guarded : RouteGuarded S C node thread call J K) {body : RuntimeM α}
    {P : Except RuntimeError α → Files → Files → Prop}
    (sites : ∀ outcome taken, AboutSites (P outcome taken))
    {Q : Except RuntimeError α → W → History Runtime → Prop} (outside : J w h)
    (verified : ∀ taken w h,
      Inside node thread K taken (SiteIs call (taken call.site)) w h →
      Prog.safe S C (fun outcome => Inside node thread K taken (P outcome taken)) body.run w h)
    (released : ∀ outcome taken w h w', Inside node thread K taken (P outcome taken) w h →
      S.step w (.release .routes) () w' →
      (Prog.ret outcome).safe S C Q w' (h ++ [.done (.release .routes) ()])) :
    Prog.safe S C Q (RouteManager.locked body).run w h := by
  intro w₀ others
  have before : J w₀ h := others.keeps (fun w => J w h) (fun _ _ => guarded.outside) outside
  refine ⟨guarded.asserts (.inl before) rfl, fun _ _ w' _ => guarded.left w' _, ?_⟩
  rintro ⟨⟩ w' step
  have stepped := guarded.step step
  have inside : Inside node thread K (node w').files
      (SiteIs call ((node w').files call.site)) w' (h ++ [.done (.lock .routes) ()]) := by
    refine ⟨guarded.taken before step, ?_, rfl⟩
    rw [stepped.2]
    simp
  apply Fallible.safe_attempt
  apply Prog.safe_mono (verified _ w' _ inside)
  intro outcome w h inside w₀ others
  have still := guarded.inside_others (sites outcome _) others inside
  refine ⟨guarded.asserts (.inr ⟨_, still.kept⟩) rfl, fun _ _ w' _ => guarded.left w' _, ?_⟩
  rintro ⟨⟩ w' step
  exact released outcome _ w₀ h w' still step

/-! ### The calls -/

/-- The new file is written beside the old one, and takes its place. -/
theorem safe_writeRoute {route : RouteSpec}
    (guarded : RouteGuarded S C node thread (.activate route) J K)
    {Q : Except RuntimeError RouteSnapshot → W → History Runtime → Prop}
    (inside : Inside node thread K taken (SiteIs (.activate route) before) w h)
    (hQ : ∀ previous w h, Inside node thread K taken
      (SiteIs (.activate route) (some (.file { text := routeContent route }))) w h →
      IsBefore before previous →
      Q (.ok { path := siteFile route.projectId, previous, changed := true }) w h)
    (failed : ∀ error w h, Inside node thread K taken (SiteIs (.activate route) before) w h →
      Q (.error error) w h) :
    Prog.safe S C Q (writeRoute route).run w h := by
  let call : RouteCall := .activate route
  let new : FileEntry := .file { text := routeContent route }
  have untouched := aboutSites_siteIs call before
  apply Fallible.safe_bind
  have permits : ∀ files, SiteIs call before files → (FsOp.createDirAll .sites).keepsSites = true ∨
      call.Permits files (.createDirAll .sites) := fun _ _ => .inl rfl
  apply guarded.safe_fileOp (R := fun _ => SiteIs call before) untouched (fun _ => untouched) inside
    permits
  case steps => exact fun files res files' is step _ => (step.sameSites rfl _).trans is
  rintro (error | _) w h inside
  · exact guarded.safe_ret untouched inside fun w inside => failed _ w h inside
  apply Fallible.safe_bind
  apply guarded.safe_readIfPresent inside
  case failed =>
    exact fun error w h inside => guarded.safe_ret untouched inside fun w inside =>
      failed _ w h inside
  intro previous w h inside known
  -- The new file is written.
  apply Fallible.safe_bind
  have permits : ∀ files, SiteIs call before files →
      (FsOp.write (temporarySiteFile route.projectId) { text := routeContent route }).keepsSites =
        true ∨ call.Permits files
          (.write (temporarySiteFile route.projectId) { text := routeContent route }) :=
    fun _ _ => .inr (.inl rfl)
  apply guarded.safe_fileOp (R := fun res files => SiteIs call before files ∧
    (res = .ok () → files (temporarySiteFile route.projectId) = some new)) untouched _ inside permits
  case steps =>
    intro files res files' is step _
    have apart := temporarySiteFile_ne route.projectId
    cases res with
    | ok _ =>
        obtain rfl : files' = _ := step
        exact ⟨(Function.update_of_ne apart.symm ..).trans is, fun _ => Function.update_self ..⟩
    | error error =>
        obtain ⟨left, rfl⟩ := step
        exact ⟨(Function.update_of_ne apart.symm ..).trans is, (fun written => by cases written)⟩
  case hQ =>
    rintro (error | _) w h ⟨kept, held, is, written⟩
    · exact guarded.safe_ret untouched ⟨kept, held, is⟩ fun w inside => failed _ w h inside
    -- It takes the place of the old one.
    have inside : Inside node thread K taken (fun files => SiteIs call before files ∧
        files (temporarySiteFile route.projectId) = some new) w h := ⟨kept, held, is, written rfl⟩
    apply Fallible.safe_bind
    have permits : ∀ files, SiteIs call before files ∧
        files (temporarySiteFile route.projectId) = some new →
        (FsOp.rename (temporarySiteFile route.projectId) (siteFile route.projectId)).keepsSites =
          true ∨ call.Permits files
            (.rename (temporarySiteFile route.projectId) (siteFile route.projectId)) :=
      fun _ _ => .inr ⟨rfl, rfl⟩
    apply guarded.safe_fileOp (R := fun res files => match res with
      | .ok _ => SiteIs call (some new) files
      | .error _ => SiteIs call before files) _ _ inside permits
    · rintro files res files' ⟨is, written⟩ step _
      cases res with
      | ok _ =>
          obtain ⟨entry, found, rfl⟩ := step
          rw [written] at found
          obtain rfl := Option.some.inj found
          exact Function.update_self ..
      | error error =>
          obtain rfl : files' = files := step
          exact is
    · rintro (error | _) w h inside
      · exact guarded.safe_ret untouched inside fun w inside => failed _ w h inside
      · exact guarded.safe_ret (aboutSites_siteIs call (some new)) inside fun w inside =>
          hQ previous w h inside known
    · intro files files' ⟨is, written⟩ same
      exact ⟨untouched files files' is same, (same _).trans written⟩
    · rintro (error | _)
      · exact untouched
      · exact aboutSites_siteIs call (some new)
  intro res files files' ⟨is, written⟩ same
  exact ⟨untouched files files' is same, fun done => (same _).trans (written done)⟩

/-- A transaction is about the route files alone. -/
theorem aboutSites_transaction (call : RouteCall) (outcome : Except RuntimeError α)
    (taken : Files) : AboutSites (call.Transaction taken outcome) := by
  intro files files' holds same
  have same : files' call.site = files call.site := same _
  cases call with
  | activate route =>
      cases outcome with
      | ok _ => exact same.trans holds
      | error error => exact same.trans holds
  | deactivate identity =>
      cases outcome with
      | ok _ => exact holds.imp same.trans fun removed => ⟨same.trans removed.1, removed.2⟩
      | error error => exact same.trans holds

theorem safe_activate {route : RouteSpec}
    (guarded : RouteGuarded S C node thread (.activate route) J K) (manager : RouteManager)
    {Q : Except RuntimeError Unit → W → History Runtime → Prop} (outside : J w h)
    (released : ∀ outcome taken w h w', Inside node thread K taken
      ((RouteCall.activate route).Transaction taken outcome) w h →
      S.step w (.release .routes) () w' →
      (Prog.ret outcome).safe S C Q w' (h ++ [.done (.release .routes) ()])) :
    Prog.safe S C Q (manager.activate route).run w h := by
  apply guarded.safe_locked (P := fun outcome taken =>
    (RouteCall.activate route).Transaction taken outcome)
    (fun outcome taken => aboutSites_transaction _ outcome taken) outside _ released
  intro taken w h inside
  apply Fallible.safe_bind
  apply guarded.safe_writeRoute inside
  case failed =>
    exact fun error w h inside => guarded.safe_ret (aboutSites_siteIs _ _) inside
      fun w inside => inside
  intro previous w h inside known
  apply guarded.safe_reloadOrRestore manager inside known
  · exact fun _ => ⟨⟨route, rfl⟩, _, rfl, rfl⟩
  · exact fun w h inside => inside
  · exact fun error w h inside => inside

/-- What a route that may be taken away begins with. -/
theorem mayRemove_of_not_leaves {identity : RouteIdentity} {content : FileContent}
    (header : identity.leaves content = false) :
    (RouteCall.deactivate identity).MayRemove content := by
  obtain ⟨projectId, deploymentId⟩ := identity
  cases deploymentId with
  | some deploymentId => simpa [RouteIdentity.leaves, RouteCall.MayRemove] using header
  | none => simpa [RouteIdentity.leaves, RouteCall.MayRemove] using header

/-- A route is taken away only if its file begins as it should. -/
theorem safe_removeRoute {identity : RouteIdentity}
    (guarded : RouteGuarded S C node thread (.deactivate identity) J K) (manager : RouteManager)
    {Q : Except RuntimeError RouteSnapshot → W → History Runtime → Prop}
    (inside : Inside node thread K taken (SiteIs (.deactivate identity) before) w h)
    (unchanged : ∀ previous w h, Inside node thread K taken
      (SiteIs (.deactivate identity) before) w h →
      Q (.ok { path := siteFile identity.projectId, previous, changed := false }) w h)
    (removed : ∀ content w h, Inside node thread K taken
      (SiteIs (.deactivate identity) none) w h → before = some (.file content) →
      (RouteCall.deactivate identity).MayRemove content →
      Q (.ok { path := siteFile identity.projectId, previous := some content, changed := true }) w h)
    (failed : ∀ error w h, Inside node thread K taken
      (SiteIs (.deactivate identity) before) w h → Q (.error error) w h) :
    Prog.safe S C Q (manager.removeRoute identity).run w h := by
  let call : RouteCall := .deactivate identity
  have untouched := aboutSites_siteIs call before
  apply Fallible.safe_bind
  apply guarded.safe_readIfPresent inside
  case failed =>
    exact fun error w h inside => guarded.safe_ret untouched inside fun w inside =>
      failed _ w h inside
  rintro (_ | content) w h inside known
  · exact guarded.safe_ret untouched inside fun w inside => unchanged _ w h inside
  simp only []
  split
  · exact guarded.safe_ret untouched inside fun w inside => failed _ w h inside
  split
  · exact guarded.safe_ret untouched inside fun w inside => unchanged _ w h inside
  rename_i header
  have mayRemove := mayRemove_of_not_leaves (eq_false_of_ne_true header)
  have permits : ∀ files, SiteIs call before files →
      (FsOp.removeFile (siteFile identity.projectId)).keepsSites = true ∨
        call.Permits files (.removeFile (siteFile identity.projectId)) :=
    fun files is => .inr ⟨rfl, content, is.trans known, mayRemove⟩
  apply Fallible.safe_bind
  apply guarded.safe_fileOp (R := fun res files => match res with
    | .ok _ => SiteIs call none files
    | .error _ => SiteIs call before files) untouched _ inside permits
  · intro files res files' is step _
    cases res with
    | ok _ =>
        obtain ⟨_, rfl⟩ := step
        exact Function.update_self ..
    | error error =>
        obtain ⟨rfl, _⟩ := step
        exact is
  · rintro (error | _) w h inside
    · exact guarded.safe_ret untouched inside fun w inside => failed _ w h inside
    · exact guarded.safe_ret (aboutSites_siteIs call none) inside fun w inside =>
        removed content w h inside known mayRemove
  · rintro (error | _)
    · exact untouched
    · exact aboutSites_siteIs call none

theorem safe_deactivate {identity : RouteIdentity}
    (guarded : RouteGuarded S C node thread (.deactivate identity) J K) (manager : RouteManager)
    {Q : Except RuntimeError Bool → W → History Runtime → Prop} (outside : J w h)
    (released : ∀ outcome taken w h w', Inside node thread K taken
      ((RouteCall.deactivate identity).Transaction taken outcome) w h →
      S.step w (.release .routes) () w' →
      (Prog.ret outcome).safe S C Q w' (h ++ [.done (.release .routes) ()])) :
    Prog.safe S C Q (manager.deactivate identity).run w h := by
  apply guarded.safe_locked (P := fun outcome taken =>
    (RouteCall.deactivate identity).Transaction taken outcome)
    (fun outcome taken => aboutSites_transaction _ outcome taken) outside _ released
  intro taken w h inside
  apply Fallible.safe_bind
  apply guarded.safe_removeRoute manager inside
  case failed =>
    exact fun error w h inside => guarded.safe_ret (aboutSites_siteIs _ _) inside
      fun w inside => inside
  case unchanged =>
    intro previous w h inside
    exact guarded.safe_ret (aboutSites_siteIs _ _) inside fun w inside =>
      ⟨inside.kept, inside.held, .inl inside.fact⟩
  intro content w h inside known mayRemove
  apply Fallible.safe_bind
  apply guarded.safe_reloadOrRestore manager inside (show IsBefore _ (some content) from known)
  · intro impossible
    cases impossible
  · intro w h inside
    exact guarded.safe_ret (aboutSites_siteIs _ _) inside fun w inside =>
      ⟨inside.kept, inside.held, .inr ⟨inside.fact, content, known, mayRemove⟩⟩
  · exact fun error w h inside => guarded.safe_ret (aboutSites_siteIs _ _) inside
      fun w inside => inside

/-- A call under the contract ends with its transaction. -/
theorem safe_run (guarded : RouteGuarded S C node thread call J K) (manager : RouteManager)
    {Q : Except RuntimeError Unit → W → History Runtime → Prop} (outside : J w h)
    (released : ∀ (outcome : Except RuntimeError Unit) taken w h w', Inside node thread K taken
      (call.Transaction taken outcome) w h → S.step w (.release .routes) () w' →
      (Prog.ret outcome).safe S C Q w' (h ++ [.done (.release .routes) ()])) :
    Prog.safe S C Q (call.run manager).run w h := by
  cases call with
  | activate route => exact guarded.safe_activate manager outside released
  | deactivate identity =>
      apply Fallible.safe_bind
      apply guarded.safe_deactivate manager outside
      rintro (error | removed) taken w h w' inside step w₀ others
      · exact fun w₁ others' => released (.error error) taken w h w' inside step w₁
          (others.trans others')
      · exact fun w₁ others' => released (.ok ()) taken w h w' inside step w₁
          (others.trans others')

end RouteGuarded

/-! ### Calls side by side -/

/-- The node with a record that no call reads: the files when a call took the lock, and when it gave
it back. -/
structure RouteWorld where
  node : Node
  taken : ThreadId → Files
  given : ThreadId → Files

namespace RouteWorld

/-- The node after an operation of a call. -/
def record (w : RouteWorld) (thread : ThreadId) (node : Node) : RuntimeOp → RouteWorld
  | .lock .routes => { w with node, taken := Function.update w.taken thread node.files }
  | .release .routes => { w with node, given := Function.update w.given thread node.files }
  | _ => { w with node }

@[simp] theorem record_node (w : RouteWorld) (thread : ThreadId) (node : Node) (op : RuntimeOp) :
    (w.record thread node op).node = node := by
  unfold record
  split
  · rfl
  · rfl
  · rfl

theorem record_other (w : RouteWorld) {thread other : ThreadId} (ne : other ≠ thread) (node : Node)
    (op : RuntimeOp) : (w.record thread node op).taken other = w.taken other ∧
      (w.record thread node op).given other = w.given other := by
  unfold record
  split
  · exact ⟨Function.update_of_ne ne .., rfl⟩
  · exact ⟨rfl, Function.update_of_ne ne ..⟩
  · exact ⟨rfl, rfl⟩

theorem record_noLock (w : RouteWorld) (thread : ThreadId) (node : Node) {op : RuntimeOp}
    (noLock : ∀ which, op ≠ .lock which ∧ op ≠ .release which) :
    w.record thread node op = { w with node } := by
  unfold record
  split
  · exact absurd rfl (noLock .routes).1
  · exact absurd rfl (noLock .routes).2
  · rfl

end RouteWorld

namespace RouteCalls

/-- The rollback of a call succeeds. -/
def RollbackSucceeds (call : RouteCall) : (op : RuntimeOp) → op.Res → Prop
  | .file op, res => call.RollbackSucceeds op res
  | _, _ => True

def semantics (call : RouteCall) (thread : ThreadId) : Semantics Runtime RouteWorld where
  step w op res w' := RollbackSucceeds call op res ∧
    ∃ node, w.node.step thread op res node ∧ w' = w.record thread node op
  leave w op outcome w' := (∀ res, outcome = some res → RollbackSucceeds call op res) ∧
    ∃ node, w.node.leave op outcome node ∧ w' = { w with node }
  drift w w' := ∃ node, w.node.Lands node ∧ w' = { w with node }

/-- Any number of calls, of any projects. -/
def threads (manager : RouteManager) (calls : ThreadId → RouteCall) :
    Threads Runtime RouteWorld ThreadId (Except RuntimeError Unit) where
  semantics thread := semantics (calls thread) thread
  starts thread program := program = ((calls thread).run manager).run
  onDrop _ := .ret (.ok ())

/-- Every call is completed: none is left. -/
def Completed {W α : Type} (_ : Pool Runtime W ThreadId α) (action : Pool.Action Runtime ThreadId α)
    (_ : Pool Runtime W ThreadId α) : Prop :=
  ∀ thread, action ≠ .drop thread

/-- The holder of the lock has the route files for itself, and each call its record. -/
def contract (calls : ThreadId → RouteCall) (thread : ThreadId) : Contract Runtime RouteWorld where
  rely _ w w' := (w.node.holder .routes = some thread →
      w'.node.holder .routes = some thread ∧ w.node.files.SameSites w'.node.files) ∧
    w'.taken thread = w.taken thread ∧ w'.given thread = w.given thread
  asserts w _ op := (calls thread).Asks thread w.node op
  left _ _ := True

theorem guarded (calls : ThreadId → RouteCall) (thread : ThreadId) :
    RouteGuarded (semantics (calls thread) thread) (contract calls thread) RouteWorld.node thread
      (calls thread) (fun _ _ => True) (fun taken w _ => w.taken thread = taken) where
  step := by
    rintro w op res w' ⟨_, node, step, rfl⟩
    rw [RouteWorld.record_node]
    exact step
  leave := by
    rintro w op outcome w' ⟨_, node, left, rfl⟩
    exact left
  rollback := fun step => step.1
  outside := fun _ _ => trivial
  inside := fun kept relied => relied.2.1.trans kept
  keepsLock := fun _ relied held => relied.1 held
  taken := by
    rintro w h w' _ ⟨_, node, _, rfl⟩
    exact Function.update_self ..
  kept := by
    rintro taken w h op res w' kept _ noLock ⟨_, node, _, rfl⟩
    rw [RouteWorld.record_noLock w thread node noLock]
    exact kept
  keptLeft := by
    rintro taken w h op outcome w' kept _ ⟨_, node, _, rfl⟩
    exact kept
  fired := fun kept => kept
  asserts := fun _ asks => asks
  left := fun _ _ => trivial

/-- What a completed call leaves behind. -/
def Finished (calls : ThreadId → RouteCall) (thread : ThreadId) (outcome : Except RuntimeError Unit)
    (w : RouteWorld) (_ : History Runtime) : Prop :=
  (calls thread).Transaction (w.taken thread) outcome (w.given thread)

/-- A call of a pool is safe. -/
theorem safe_run (manager : RouteManager) (calls : ThreadId → RouteCall) (thread : ThreadId)
    (w : RouteWorld) (h : History Runtime) :
    Prog.safe (semantics (calls thread) thread) (contract calls thread) (Finished calls thread)
      ((calls thread).run manager).run w h := by
  apply (guarded calls thread).safe_run manager trivial
  intro outcome taken w h w' inside step w₀ others
  apply others.keeps (fun w => Finished calls thread outcome w _)
  · intro w w' holds relied
    unfold Finished
    rw [relied.2.1, relied.2.2]
    exact holds
  · obtain ⟨_, node, rfl, rfl⟩ := step
    have given : (w.record thread { w.node with holder := released w.node.holder .routes thread }
        (.release .routes)).given thread = w.node.files := Function.update_self ..
    unfold Finished
    rw [given]
    have kept : w.taken thread = taken := inside.kept
    exact kept ▸ inside.fact

variable {calls : ThreadId → RouteCall} {thread other : ThreadId} {w w' : RouteWorld}
  {h : History Runtime}

theorem guards_of_asks {node : Node} {op : RuntimeOp} (asks : (calls thread).Asks thread node op) :
    node.Guards thread op := by
  rintro fsOp rfl
  exact asks.imp_right And.left

/-- Another call takes the lock only when it is free, gives back only its own, and touches no route
file while somebody else holds the lock. -/
theorem rely_of_step {op : RuntimeOp} {res : op.Res} (ne : other ≠ thread)
    (asks : (calls thread).Asks thread w.node op)
    (step : (semantics (calls thread) thread).step w op res w') :
    (contract calls other).rely h w w' := by
  obtain ⟨_, node, step, rfl⟩ := step
  refine ⟨?_, RouteWorld.record_other w ne node op⟩
  rw [RouteWorld.record_node]
  exact fun held => Node.sites_of_step ne (guards_of_asks asks) held step

theorem rely_of_leave {op : RuntimeOp} {outcome : Option op.Res} (ne : other ≠ thread)
    (asks : (calls thread).Asks thread w.node op)
    (left : (semantics (calls thread) thread).leave w op outcome w') :
    (contract calls other).rely h w w' := by
  obtain ⟨_, node, left, rfl⟩ := left
  exact ⟨fun held => Node.sites_of_leave ne (guards_of_asks asks) held left, rfl, rfl⟩

variable {manager : RouteManager}
  {s s' : Pool Runtime RouteWorld ThreadId (Except RuntimeError Unit)}
  {action : Pool.Action Runtime ThreadId (Except RuntimeError Unit)}

/-- The calls of the pool are safe. -/
abbrev AllSafe (manager : RouteManager) (calls : ThreadId → RouteCall) :
    Pool Runtime RouteWorld ThreadId (Except RuntimeError Unit) → Prop :=
  Pool.Safe (threads manager calls) (contract calls) (Finished calls)

theorem allSafe_step (safe : AllSafe manager calls s)
    (stepped : Pool.Step (threads manager calls) s action s') (completed : Completed s action s') :
    AllSafe manager calls s' := by
  apply safe.step stepped
  case started =>
    rintro thread program _ rfl
    exact safe_run manager calls thread _ _
  case dropped => exact fun thread dropped => absurd dropped (completed thread)
  case relied =>
    intro other ne _
    cases Pool.Step.world safe stepped with
    | same unchanged => exact .inr unchanged
    | done asserted step => exact .inl (rely_of_step (fun same => ne (same ▸ rfl)) asserted step)
    | abandoned asserted left =>
        exact .inl (rely_of_leave (fun same => ne (same ▸ rfl)) asserted left)
    | drift drift =>
        obtain ⟨node, lands, changed⟩ := drift
        refine .inl ⟨fun held => ?_, by rw [changed]; exact ⟨rfl, rfl⟩⟩
        rw [changed]
        exact Node.sites_of_lands held lands

/-- What a call may take away is a route file of its project. -/
theorem owned_of_mayRemove {call : RouteCall} {content : FileContent}
    (mayRemove : call.MayRemove content) :
    Text.startsWith content.text (ownedPrefix call.projectId) = true := by
  have owned : ∀ {projectId : Uuid} {text start : Text}, ownedPrefix projectId <+: start →
      start <+: text → Text.startsWith text (ownedPrefix projectId) = true :=
    fun first second => List.isPrefixOf_iff_prefix.mpr (first.trans second)
  have current : ∀ projectId deploymentId,
      ownedPrefix projectId <+: deploymentPrefix projectId deploymentId := by
    intro projectId deploymentId
    unfold deploymentPrefix currentPrefix
    rw [List.append_assoc]
    exact List.prefix_append ..
  cases call with
  | activate route =>
      rw [show content.text = routeContent route from mayRemove]
      exact owned (current route.projectId route.deploymentId) (List.prefix_append ..)
  | deactivate identity =>
      obtain ⟨projectId, deploymentId⟩ := identity
      cases deploymentId with
      | some deploymentId =>
          exact owned (current projectId deploymentId) (List.isPrefixOf_iff_prefix.mp mayRemove)
      | none =>
          exact owned (List.prefix_append ..) (List.isPrefixOf_iff_prefix.mp mayRemove)

/-- The thread that changes a route file holds the lock for its project, and a file it takes away is
one that its call may take away. -/
def Owns (calls : ThreadId → RouteCall) (thread : ThreadId) (projectId : Uuid) (node node' : Node) :
    Prop :=
  (calls thread).projectId = projectId ∧ node.holder .routes = some thread ∧
    (node.files (siteFile projectId) ≠ none → node'.files (siteFile projectId) = none →
      ∃ content, node.files (siteFile projectId) = some (.file content) ∧
        (calls thread).MayRemove content ∧
        Text.startsWith content.text (ownedPrefix projectId) = true)

theorem owns_of_step {node : Node} {op : FsOp} {res : op.Res} {files : Files} {projectId : Uuid}
    (asks : (calls thread).Asks thread node (.file op))
    (rollback : (calls thread).RollbackSucceeds op res) (step : node.files.Step files op res)
    (changed : files (siteFile projectId) ≠ node.files (siteFile projectId)) :
    Owns calls thread projectId node { node with files } := by
  rcases asks with keeps | ⟨held, permits⟩
  · exact absurd (step.sameSites keeps _) changed
  have own : projectId = (calls thread).projectId := by
    by_contra ne
    exact changed (permits.keepsOther step ne)
  subst own
  refine ⟨rfl, held, fun present gone => ?_⟩
  cases op with
  | write path content =>
      exfalso
      rcases permits with rfl | rfl
      · have away : siteFile (calls thread).projectId ≠ temporarySiteFile (calls thread).projectId :=
          ((calls thread).temporary_ne_site _).symm
        cases res with
        | ok _ =>
            obtain rfl : files = _ := step
            exact present ((Function.update_of_ne away ..).symm.trans gone)
        | error error =>
            obtain ⟨left, rfl⟩ := step
            exact present ((Function.update_of_ne away ..).symm.trans gone)
      · obtain rfl : res = .ok () := rollback rfl
        obtain rfl : files = _ := step
        cases (Function.update_self ..).symm.trans gone
  | rename source target =>
      exfalso
      obtain ⟨rfl, rfl⟩ := permits
      cases res with
      | ok _ =>
          obtain ⟨entry, _, rfl⟩ := step
          cases (Function.update_self ..).symm.trans gone
      | error error =>
          obtain rfl : files = node.files := step
          exact present gone
  | removeFile path =>
      obtain ⟨rfl, content, found, mayRemove⟩ := permits
      exact ⟨content, found, mayRemove, owned_of_mayRemove mayRemove⟩
  | createDirAll | tryExists | setPermissions | read | createNew | append | removeDirAll | readDir
  | age => exact absurd (step.sameSites permits _) changed

/-- Who changes a route file. -/
theorem owns_of_change (safe : AllSafe manager calls s)
    (stepped : Pool.Step (threads manager calls) s action s') {projectId : Uuid}
    (changed : s'.world.node.files (siteFile projectId) ≠ s.world.node.files (siteFile projectId)) :
    ∃ thread, action.thread = some thread ∧
      Owns calls thread projectId s.world.node s'.world.node := by
  cases Pool.Step.world safe stepped with
  | same unchanged => exact absurd (by rw [unchanged]) changed
  | @done thread op res asserted step =>
      refine ⟨thread, rfl, ?_⟩
      have asks : (calls thread).Asks thread s.world.node op := asserted
      obtain ⟨rollback, node, step, moved⟩ := step
      rw [moved, RouteWorld.record_node] at changed ⊢
      cases op with
      | file op =>
          obtain ⟨files, step, rfl⟩ := step
          exact owns_of_step asks rollback step changed
      | _ => exact absurd (Node.sameSites_of_step (fun _ => by simp) step _) changed
  | @abandoned thread op outcome asserted left =>
      refine ⟨thread, rfl, ?_⟩
      obtain ⟨rollback, node, left, moved⟩ := left
      rw [moved] at changed ⊢
      cases op with
      | file op =>
          obtain ⟨res, files, rfl, step, rfl⟩ := left
          exact owns_of_step asserted (rollback res rfl) step changed
      | _ => exact absurd (by rw [left.2]) changed
  | drift drift =>
      obtain ⟨node, lands, moved⟩ := drift
      rw [moved] at changed
      exact absurd (lands.sameSites _) changed

/-- Route file transactions. However calls of any projects take turns, each of them leaves the route
file of its project as its outcome says, and what changes a route file is a call of that project that
holds the lock; a file is taken away only by a call for whose project and deployment it begins. -/
theorem transactions (manager : RouteManager) (calls : ThreadId → RouteCall) (start : RouteWorld)
    (s : Pool Runtime RouteWorld ThreadId (Except RuntimeError Unit))
    (run : Pool.Runs (threads manager calls) Completed (Pool.empty start) s) :
    (∀ thread outcome, s.program thread = some (.ret outcome) →
      (calls thread).Transaction (s.world.taken thread) outcome (s.world.given thread)) ∧
    ∀ action s', Pool.Step (threads manager calls) s action s' → ∀ projectId,
      s'.world.node.files (siteFile projectId) ≠ s.world.node.files (siteFile projectId) →
      ∃ thread, action.thread = some thread ∧
        Owns calls thread projectId s.world.node s'.world.node := by
  have safe : AllSafe manager calls s := by
    apply run.invariant (AllSafe manager calls)
    · exact fun s action s' safe stepped completed => allSafe_step safe stepped completed
    · intro thread program running
      cases running
  constructor
  · exact fun thread outcome returned => safe thread _ returned _ .refl
  · exact fun action s' stepped projectId changed => owns_of_change safe stepped changed

/-- The node of a script, with its records. -/
def script (nodes : NodeScript) (thread : ThreadId) : Script Runtime RouteWorld where
  answer h w op := (nodes.answer thread h w.node op).map fun answered =>
    (answered.1, w.record thread answered.2 op)
  leave w op := (nodes.leave w.node op).map fun left => (left.1, { w with node := left.2 })
  fires := nodes.fires

/-- A node that works takes back what it is asked to take back. -/
theorem rollback_answer (nodes : NodeScript) (call : RouteCall) (files : Files) (op : FsOp) :
    call.RollbackSucceeds op (files.answer nodes op).1 := by
  cases op with
  | write path content => exact fun _ => rfl
  | removeFile path =>
      intro _ _ error failed
      simp only [Files.answer] at failed
      split at failed
      · cases failed
      · cases failed
        rfl
  | _ => trivial

theorem script_sound (nodes : NodeScript) (call : RouteCall) (thread : ThreadId) :
    (script nodes thread).Sound (semantics call thread) where
  answer := by
    intro h w op res w' found
    obtain ⟨⟨res, node⟩, answered, same⟩ := Option.map_eq_some_iff.mp found
    cases same
    refine ⟨?_, node, (nodes.sound thread).answer (h := h) answered, rfl⟩
    cases op with
    | file op =>
        cases answered
        exact rollback_answer nodes call w.node.files op
    | _ => trivial
  leave := by
    intro w op outcome w' found
    obtain ⟨⟨outcome, node⟩, left, same⟩ := Option.map_eq_some_iff.mp found
    cases same
    refine ⟨?_, node, (nodes.sound thread).leave left, rfl⟩
    cases op with
    | file op =>
        cases left
        rintro res ⟨⟩
        exact rollback_answer nodes call w.node.files op
    | _ => exact fun _ _ => trivial

/-- An activation, then a deactivation that takes the lock when the activation has given it back. -/
def sampleCalls : ThreadId → RouteCall
  | 0 => .activate (Sample.deployment 1).route
  | _ => .deactivate { projectId := Sample.uuid 1, deploymentId := some (Sample.uuid 1) }

/-- A node without files, on which nothing has happened. -/
def sampleWorld : RouteWorld where
  node := Sample.node
  taken _ _ := none
  given _ _ := none

def sampleEnd : Option (Pool Runtime RouteWorld ThreadId (Except RuntimeError Unit)) :=
  Pool.play (script Sample.script)
    [.start 0 ((sampleCalls 0).run Sample.executor.routes).run,
      .start 1 ((sampleCalls 1).run Sample.executor.routes).run, .go 0 8, .go 1 6]
    (Pool.empty sampleWorld)

/-- Both calls return, and the second has taken away what the first has written. -/
theorem transactions_sample : ∃ s : Pool Runtime RouteWorld ThreadId (Except RuntimeError Unit),
    s.returned 0 = some (.ok ()) ∧ s.returned 1 = some (.ok ()) ∧
    (sampleCalls 0).Transaction (s.world.taken 0) (.ok () : Except RuntimeError Unit)
      (s.world.given 0) ∧
    (sampleCalls 1).Transaction (s.world.taken 1) (.ok () : Except RuntimeError Unit)
      (s.world.given 1) ∧
    s.world.taken 1 (siteFile (Sample.uuid 1)) ≠ none ∧
    s.world.given 1 (siteFile (Sample.uuid 1)) = none := by
  have finished : ∃ s, sampleEnd = some s ∧ decide (s.returned 0 = some (.ok ()) ∧
      s.returned 1 = some (.ok ()) ∧ s.world.taken 1 (siteFile (Sample.uuid 1)) ≠ none ∧
      s.world.given 1 (siteFile (Sample.uuid 1)) = none) = true := by
    apply (Option.any_eq_true ..).mp
    decide +kernel
  obtain ⟨s, played, finished⟩ := finished
  obtain ⟨first, second, changed⟩ := of_decide_eq_true finished
  have run : Pool.Runs (threads Sample.executor.routes sampleCalls) Completed
      (Pool.empty sampleWorld) s := by
    apply Pool.play_sound _ _ _ played
    · rintro s action s' scripted thread rfl
      exact scripted
    · exact fun thread => script_sound Sample.script (sampleCalls thread) thread
    · simp [Pool.Scheduled, threads]
  have transactions := (transactions Sample.executor.routes sampleCalls sampleWorld s run).1
  exact ⟨s, first, second, transactions 0 _ (Pool.program_of_returned first),
    transactions 1 _ (Pool.program_of_returned second), changed⟩

end RouteCalls

end SakalaAgent
