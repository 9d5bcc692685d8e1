/-
Module: SakalaAgent.Proofs.LiveRoutes
Layer: Proofs
Purpose: The cleanup of stale routes beside commands that start workloads and write their routes. A
  cleanup takes away the route of a deployment only if it has found it stale, by a listing it read
  before; so a deployment that runs keeps its route as long as none runs whose route is found stale,
  and none comes up whose route was.
Trusted boundary: containers change their state and are removed at any time.
Main exports: LiveRoutes.View, LiveRoutes.Setup, LiveRoutes.Setup.Current,
  LiveRoutes.safe_cleanupRuntime, LiveRoutes.live_routes_kept
-/
import SakalaAgent.Proofs.FreeSlots
import SakalaAgent.Proofs.RouteTransactions
import SakalaAgent.Proofs.RuntimeRules
import SakalaAgent.Proofs.StaleRoutes

namespace SakalaAgent

open Async

/-- The managed container of the deployment runs. -/
def DockerState.runsDeployment (docker : DockerState) (projectId deploymentId : Uuid) : Bool :=
  docker.containers.any fun container =>
    container.isUp && container.labels.lookup managedLabel.1 = some managedLabel.2 &&
      container.project = some projectId &&
      Uuid.parseText (container.label deploymentIdLabel) = some deploymentId

/-- A container is in another state, or is gone. -/
inductive DockerState.Shifts (docker : DockerState) : DockerState → Prop where
  | status (container : Container) (status : Text) (plain : Plain status) :
      Shifts docker (docker.setStatus container.id status plain)
  | removed (container : Container) : Shifts docker (docker.remove container.id)

/-- The route file of the project begins as one of the deployment. -/
def Files.routesTo (files : Files) (projectId deploymentId : Uuid) : Bool :=
  match files (siteFile projectId) with
  | some (.file content) => Text.startsWith content.text (deploymentPrefix projectId deploymentId)
  | _ => false

/-- What may be taken away for a deployment begins as no route of another one. -/
theorem deployment_of_not_leaves {identity : RouteIdentity} {content : FileContent}
    {deploymentId : Uuid} (taken : identity.leaves content = false)
    (begins : Text.startsWith content.text (deploymentPrefix identity.projectId deploymentId) = true) :
    identity.deploymentId = some deploymentId := by
  obtain ⟨projectId, named⟩ := identity
  obtain ⟨rest, text⟩ := append_of_startsWith begins
  cases named with
  | some other =>
      have taken : Text.startsWith content.text (deploymentPrefix projectId other) = true := by
        simpa [RouteIdentity.leaves] using taken
      obtain ⟨further, same⟩ := append_of_startsWith taken
      rw [text] at same
      simp only [deploymentPrefix, List.append_assoc, List.append_cancel_left_eq] at same
      have unique := List.append_inj_left same (by rw [toText_length, toText_length])
      rw [Uuid.toText_injective unique]
  | none =>
      have taken : Text.startsWith content.text (legacyPrefix projectId) = true := by
        simpa [RouteIdentity.leaves] using taken
      obtain ⟨further, same⟩ := append_of_startsWith taken
      rw [text] at same
      simp only [deploymentPrefix, currentPrefix, legacyPrefix, List.append_assoc,
        List.append_cancel_left_eq] at same
      cases same

namespace LiveRoutes

/-! ### What a cleanup has seen -/

/-- The routes of the workloads that a listing shows to be up. -/
def knownRoutes (result : ProcessResult) : List RouteIdentity :=
  match inspectionOutcome result with
  | .ok report => DockerRuntimeExecutor.routableRoutes report
  | .error _ => []

/-- The deployment named by a route file, unless it is known. -/
def staleRoute (known : List RouteIdentity) (name : Text) (content : FileContent) :
    Option (Uuid × Uuid) := do
  let projectId ← siteProject name
  let deploymentId ← RouteManager.namedDeployment projectId content.text
  if content.invalid.isEmpty && !RouteManager.isKnown known projectId (some deploymentId) then
    some (projectId, deploymentId)
  else none

/-- What the history of a cleanup tells: the routes known from its last listing, whether it holds the
mutation lock, and the deployments whose route files it has read, outside the lock, and not known. -/
structure View where
  known : List RouteIdentity := []
  isLocked : Bool := false
  stale : List (Uuid × Uuid) := []

def View.after (seen : View) : Event Runtime → View
  | .done (.process spec) result =>
      if spec = inspectionListing then { seen with known := knownRoutes result } else seen
  | .done (.lock .routes) _ => { seen with isLocked := true }
  | .done (.release .routes) _ => { seen with isLocked := false }
  | .done (.file (.read (.site name))) (.ok content) =>
      if seen.isLocked then seen
      else { seen with stale := seen.stale ++ (staleRoute seen.known name content).toList }
  | _ => seen

def view (h : History Runtime) : View :=
  h.foldl View.after {}

theorem view_append (h : History Runtime) (event : Event Runtime) :
    view (h ++ [event]) = (view h).after event := by
  simp only [view, List.foldl_append, List.foldl_cons, List.foldl_nil]

/-- What has been found stale stays found. -/
theorem stale_append (h : History Runtime) (event : Event Runtime) :
    (view h).stale ⊆ (view (h ++ [event])).stale := by
  rw [view_append]
  unfold View.after
  split
  · split
    · exact List.Subset.refl _
    · exact List.Subset.refl _
  · exact List.Subset.refl _
  · exact List.Subset.refl _
  · split
    · exact List.Subset.refl _
    · exact List.subset_append_left ..
  · exact List.Subset.refl _

/-- What is newly found stale was read just now, outside the lock. -/
theorem stale_of_append {h : History Runtime} {event : Event Runtime} {pair : Uuid × Uuid}
    (found : pair ∈ (view (h ++ [event])).stale) : pair ∈ (view h).stale ∨
      ∃ name content, event = .done (.file (.read (.site name))) (Except.ok content) ∧
        (view h).isLocked = false ∧ staleRoute (view h).known name content = some pair := by
  rw [view_append] at found
  unfold View.after at found
  split at found
  · left
    split at found
    · exact found
    · exact found
  · exact .inl found
  · exact .inl found
  · rename_i name content
    split at found
    · exact .inl found
    · rename_i unlocked
      rcases List.mem_append.mp found with before | new
      · exact .inl before
      · exact .inr ⟨name, content, rfl, eq_false_of_ne_true unlocked, Option.mem_toList.mp new⟩
  · exact .inl found

/-- Only the mutation lock is looked at. -/
theorem isLocked_append (h : History Runtime) {op : RuntimeOp} (res : op.Res)
    (noLock : op ≠ .lock .routes) (noRelease : op ≠ .release .routes) :
    (view (h ++ [.done op res])).isLocked = (view h).isLocked := by
  rw [view_append]
  unfold View.after
  split
  · split <;> rfl
  · rename_i same
    cases same
    exact absurd rfl noLock
  · rename_i same
    cases same
    exact absurd rfl noRelease
  · split <;> rfl
  · rfl

/-! ### What a thread asserts -/

/-- The route files are touched only inside the lock, and one that cleans up takes away the route of a
deployment only if it has found it stale. -/
structure Permitted (cleans : Prop) (thread : ThreadId) (node : Node) (h : History Runtime)
    (op : RuntimeOp) : Prop where
  guards : node.Guards thread op
  justified : cleans → ∀ projectId deploymentId, op = .file (.removeFile (siteFile projectId)) →
    node.files.routesTo projectId deploymentId = true → (projectId, deploymentId) ∈ (view h).stale

/-- The holder of the lock has the route files for itself. -/
def contract (cleans : Prop) (thread : ThreadId) : Contract Runtime Node where
  rely _ node node' := node.holder .routes = some thread →
    node'.holder .routes = some thread ∧ node.files.SameSites node'.files
  asserts node h op := Permitted cleans thread node h op
  left _ _ := True

def semantics (thread : ThreadId) : Semantics Runtime Node where
  step := Node.step thread
  leave := Node.leave
  drift node node' := node.Lands node' ∨
    ∃ docker, node.docker.Shifts docker ∧ node' = { node with docker }

/-- The operation changes no route file. -/
def KeepsSites (op : RuntimeOp) : Prop :=
  ∀ fsOp, op = .file fsOp → fsOp.keepsSites = true

theorem keepsSites_of_asks {allowed : CommandLine → Prop} (op : RuntimeOp) (asks : Asks allowed op) :
    KeepsSites op :=
  asks.keepsSites

variable {cleans : Prop} {thread : ThreadId} {node : Node} {h : History Runtime} {α : Type}

/-- What changes no route file is permitted. -/
theorem permitted_of_keepsSites {op : RuntimeOp} (keeps : KeepsSites op) :
    Permitted cleans thread node h op where
  guards fsOp isFile := .inl (keeps fsOp isFile)
  justified := by
    rintro _ projectId _ rfl
    cases keeps _ rfl

/-! ### Inside the lock -/

/-- The routes of deployments among these have been found stale. -/
def Found (routes : List RuntimeStaleRoute) (h : History Runtime) : Prop :=
  ∀ route ∈ routes, ∀ deploymentId, route.deploymentId = some deploymentId →
    (route.projectId, deploymentId) ∈ (view h).stale

theorem Found.append {routes : List RuntimeStaleRoute} (found : Found routes h)
    (event : Event Runtime) : Found routes (h ++ [event]) :=
  fun route member deploymentId named => stale_append h event (found route member deploymentId named)

variable {routes : List RuntimeStaleRoute}

/-- The thread holds the lock, and has found routes stale before. -/
structure Inside (thread : ThreadId) (routes : List RuntimeStaleRoute) (node : Node)
    (h : History Runtime) : Prop where
  held : node.holder .routes = some thread
  found : Found routes h

/-- The operation leaves the locks alone, and a cleanup takes no file away by it. -/
structure Within (cleans : Prop) (op : RuntimeOp) : Prop where
  noLock : ∀ which, op ≠ .lock which ∧ op ≠ .release which
  spares : cleans → ∀ path, op ≠ .file (.removeFile path)

theorem within_of_spawns (op : RuntimeOp) {allowed : CommandLine → Prop} (spawns : Spawns allowed op) :
    Within cleans op where
  noLock := RouteGuarded.noLock_of_spawns spawns
  spares := by
    rintro _ path rfl
    exact spawns

theorem Inside.others {node' : Node} (inside : Inside thread routes node h)
    (others : (contract cleans thread).Others h node node') : Inside thread routes node' h :=
  others.keeps (fun node => Inside thread routes node h)
    (fun _ _ inside relied => ⟨(relied inside.held).1, inside.found⟩) inside

theorem Inside.step {op : RuntimeOp} {res : op.Res} {node' : Node}
    (inside : Inside thread routes node h) (noLock : ∀ which, op ≠ .lock which ∧ op ≠ .release which)
    (step : node.step thread op res node') : Inside thread routes node' (h ++ [.done op res]) where
  held := (congrFun (Node.holder_of_step noLock step) _).trans inside.held
  found := inside.found.append _

theorem Inside.file {op : FsOp} {res : op.Res} {node' : Node} (inside : Inside thread routes node h)
    (step : node.step thread (.file op) res node') :
    Inside thread routes node' (h ++ [.done (.file op) res]) :=
  inside.step (fun _ => ⟨nofun, nofun⟩) step

theorem safe_within {p : RuntimeM α} (ops : Fallible.AllOps (Within cleans) p)
    (inside : Inside thread routes node h) :
    p.run.safe (semantics thread) (contract cleans thread)
      (fun _ node h => Inside thread routes node h) node h := by
  have maintained : Prog.Maintains (semantics thread) (contract cleans thread) (Within cleans)
      (Inside thread routes) :=
    { asserts := fun op within node h inside =>
        ⟨fun fsOp isFile => .inr inside.held,
          fun itDoes projectId _ isRemoval => absurd isRemoval (within.spares itDoes _)⟩
      done := fun op within node h res node' inside step => inside.step within.noLock step
      abandoned := fun op within node h outcome node' inside left =>
        ⟨(congrFun (Node.holder_of_leave left) _).trans inside.held, inside.found.append _⟩
      fired := fun which op node h inside => ⟨inside.held, inside.found.append _⟩
      rely := fun node h node' inside relied => ⟨(relied inside.held).1, inside.found⟩ }
  exact Prog.safe_of_allOps maintained ops inside (fun _ _ _ inside => inside) fun _ _ _ => trivial

/-- The thread does not hold the lock, and has found routes stale before. -/
structure Outside (routes : List RuntimeStaleRoute) (h : History Runtime) : Prop where
  unlocked : (view h).isLocked = false
  found : Found routes h

/-- The lock is taken and given back. -/
theorem safe_locked {body : RuntimeM α} (found : Found routes h)
    (verified : ∀ node h, Inside thread routes node h →
      body.run.safe (semantics thread) (contract cleans thread)
        (fun _ node h => Inside thread routes node h) node h) :
    (RouteManager.locked body).run.safe (semantics thread) (contract cleans thread)
      (fun _ _ h => Outside routes h) node h := by
  intro node₀ _
  refine ⟨permitted_of_keepsSites nofun, fun _ _ _ _ => trivial, ?_⟩
  rintro ⟨⟩ node' ⟨_, rfl⟩
  have held : Function.update node₀.holder .routes (some thread) .routes = some thread :=
    Function.update_self ..
  apply Fallible.safe_attempt
  apply Prog.safe_mono (verified _ _ ⟨held, found.append _⟩)
  intro outcome node h inside node₁ _
  refine ⟨permitted_of_keepsSites nofun, fun _ _ _ _ => trivial, ?_⟩
  rintro ⟨⟩ node₂ _ node₃ _
  exact ⟨by rw [view_append]; rfl, inside.found.append _⟩

/-! ### A cleanup -/

/-- The operation changes no route file, and is none of the mutation lock. -/
structure Looks (op : RuntimeOp) : Prop where
  keeps : KeepsSites op
  noLock : op ≠ .lock .routes
  noRelease : op ≠ .release .routes

theorem Outside.append {op : RuntimeOp} (outside : Outside routes h) (looks : Looks op)
    (res : op.Res) : Outside routes (h ++ [.done op res]) where
  unlocked := (isLocked_append h res looks.noLock looks.noRelease).trans outside.unlocked
  found := outside.found.append _

theorem Outside.left {more : List RuntimeStaleRoute} (outside : Outside (routes ++ more) h) :
    Outside routes h where
  unlocked := outside.unlocked
  found route member := outside.found route (List.mem_append_left _ member)

theorem looks_of_spawns {allowed : CommandLine → Prop} (op : RuntimeOp) (spawns : Spawns allowed op) :
    Looks op where
  keeps := keepsSites_of_asks op spawns.asks
  noLock := (RouteGuarded.noLock_of_spawns spawns .routes).1
  noRelease := (RouteGuarded.noLock_of_spawns spawns .routes).2

theorem looks_file {op : FsOp} (keeps : op.keepsSites = true) : Looks (.file op) where
  keeps := by
    rintro _ ⟨⟩
    exact keeps
  noLock := nofun
  noRelease := nofun

theorem isLocked_abandoned (h : History Runtime) (op : RuntimeOp) (outcome : Option op.Res) :
    (view (h ++ [.abandoned op outcome])).isLocked = (view h).isLocked := by
  rw [view_append]
  rfl

theorem safe_looks {p : RuntimeM α} (ops : Fallible.AllOps Looks p) (outside : Outside routes h) :
    p.run.safe (semantics thread) (contract cleans thread) (fun _ _ h => Outside routes h) node h := by
  have maintained : Prog.Maintains (semantics thread) (contract cleans thread) Looks
      (fun _ h => Outside routes h) :=
    { asserts := fun op looks node h _ => permitted_of_keepsSites looks.keeps
      done := fun op looks node h res node' outside _ => outside.append looks res
      abandoned := fun op looks node h outcome node' outside _ =>
        ⟨(isLocked_abandoned h op outcome).trans outside.unlocked, outside.found.append _⟩
      fired := fun which op node h outside =>
        ⟨(by rw [view_append]; exact outside.unlocked), outside.found.append _⟩
      rely := fun node h node' outside _ => outside }
  exact Prog.safe_of_allOps maintained ops outside (fun _ _ _ outside => outside) fun _ _ _ => trivial

/-- A future that looks before another one. -/
theorem safe_looks_bind {β : Type} {p : RuntimeM α} {f : α → RuntimeM β}
    {Q : Except RuntimeError β → Node → History Runtime → Prop} (ops : Fallible.AllOps Looks p)
    (outside : Outside routes h)
    (failed : ∀ error node h, Outside routes h → Q (.error error) node h)
    (rest : ∀ value node h, Outside routes h →
      (f value).run.safe (semantics thread) (contract cleans thread) Q node h) :
    (p >>= f).run.safe (semantics thread) (contract cleans thread) Q node h := by
  apply Fallible.safe_bind
  apply Prog.safe_mono (safe_looks ops outside)
  rintro (error | value) node h outside
  · exact fun node' _ => failed error node' h outside
  · exact rest value node h outside

/-- The listing tells the routes that are known. -/
theorem safe_detectOrphans (outside : Outside routes h) :
    ContainerEngine.detectOrphans.run.safe (semantics thread) (contract cleans thread)
      (fun outcome _ h => Outside routes h ∧ ∀ report, outcome = .ok report →
        (view h).known = DockerRuntimeExecutor.routableRoutes report) node h := by
  have looks : Looks (.process inspectionListing) := ⟨nofun, nofun, nofun⟩
  rw [detectOrphans_eq]
  intro node₀ _
  refine ⟨permitted_of_keepsSites looks.keeps, fun _ _ _ _ => trivial, ?_⟩
  intro result node' _ node₁ _
  refine ⟨outside.append looks result, fun report read => ?_⟩
  have read : inspectionOutcome result = .ok report := read
  have known : knownRoutes result = DockerRuntimeExecutor.routableRoutes report := by
    unfold knownRoutes
    rw [read]
  rw [view_append, View.after, if_pos rfl]
  exact known

variable {known : List RouteIdentity} {name : Text}

/-- A route file whose deployment is not known is found stale. -/
theorem mem_staleRoute {projectId deploymentId : Uuid} {content : FileContent}
    (stem : siteProject name = some projectId) (valid : content.invalid.isEmpty = true)
    (named : RouteManager.namedDeployment projectId content.text = some deploymentId)
    (unknown : RouteManager.isKnown known projectId (some deploymentId) ≠ true) :
    (projectId, deploymentId) ∈ (staleRoute known name content).toList := by
  rw [Option.mem_toList]
  simp [staleRoute, stem, named, valid, eq_false_of_ne_true unknown]

/-- A cleanup between its listing and its last reading of a route file. -/
structure Searching (routes : List RuntimeStaleRoute) (known : List RouteIdentity)
    (h : History Runtime) : Prop where
  outside : Outside routes h
  listed : (view h).known = known

/-- What a route file was found to name is stale unless it is known. -/
def Told (known : List RouteIdentity) (name text : Text) (h : History Runtime) : Prop :=
  ∀ projectId deploymentId, siteProject name = some projectId →
    RouteManager.namedDeployment projectId text = some deploymentId →
    RouteManager.isKnown known projectId (some deploymentId) ≠ true →
    (projectId, deploymentId) ∈ (view h).stale

theorem safe_read {Q : Except RuntimeError FileContent → Node → History Runtime → Prop}
    (hQ : ∀ (res : (FsOp.read (.site name)).Res) node,
      Q (res.mapError .filesystem) node (h ++ [.done (.file (.read (.site name))) res])) :
    (fileOp (.read (.site name))).run.safe (semantics thread) (contract cleans thread) Q node h := by
  intro node₀ _
  refine ⟨permitted_of_keepsSites (looks_file rfl).keeps, fun _ _ _ _ => trivial, ?_⟩
  intro res node' _
  cases res with
  | error error => exact fun node₁ _ => hQ (.error error) node₁
  | ok content => exact fun node₁ _ => hQ (.ok content) node₁

theorem safe_readToString (searching : Searching routes known h) :
    (RouteManager.readToString (.site name)).run.safe (semantics thread) (contract cleans thread)
      (fun outcome _ h => Searching routes known h ∧
        ∀ text, outcome = .ok text → Told known name text h) node h := by
  apply Fallible.safe_bind
  apply safe_read
  intro res node
  have looks : Looks (.file (.read (.site name))) := looks_file rfl
  have outside : Outside routes (h ++ [.done (.file (.read (.site name))) res]) :=
    searching.outside.append looks res
  cases res with
  | error error =>
      have searching : Searching routes known
          (h ++ [.done (.file (.read (.site name))) (Except.error error)]) :=
        ⟨outside, by rw [view_append]; exact searching.listed⟩
      exact fun _ _ => ⟨searching, nofun⟩
  | ok content =>
      have seen : view (h ++ [.done (.file (.read (.site name))) (Except.ok content)]) =
          { view h with
            stale := (view h).stale ++ (staleRoute (view h).known name content).toList } := by
        rw [view_append]
        exact if_neg (Bool.eq_false_iff.mp searching.outside.unlocked)
      have searching : Searching routes known
          (h ++ [.done (.file (.read (.site name))) (Except.ok content)]) :=
        ⟨outside, by rw [seen]; exact searching.listed⟩
      change Prog.safe _ _ _ (ExceptT.run (if content.invalid.isEmpty then _ else _)) _ _
      split
      · rename_i valid
        refine fun _ _ => ⟨searching, ?_⟩
        rintro _ ⟨⟩ projectId deploymentId stem named unknown
        rw [seen]
        apply List.mem_append_right
        rw [← searching.listed, seen] at unknown
        exact mem_staleRoute stem valid named unknown
      · exact fun _ _ => ⟨searching, nofun⟩

/-- One entry of the directory is looked at. -/
theorem safe_inspectEntry (manager : RouteManager) (kind : FileKind)
    (searching : Searching routes known h) :
    (manager.inspectEntry known name kind).run.safe (semantics thread) (contract cleans thread)
      (fun outcome _ h => Searching routes known h ∧
        ∀ found, outcome = .ok found → Found found.toList h) node h := by
  unfold RouteManager.inspectEntry
  split
  · rename_i projectId stem
    apply Fallible.safe_bind
    apply Prog.safe_mono (safe_readToString searching)
    rintro (error | text) node h ⟨searching, told⟩
    · exact fun _ _ => ⟨searching, nofun⟩
    dsimp only
    split
    · refine fun _ _ => ⟨searching, ?_⟩
      rintro _ ⟨⟩ route member
      cases member
    · split
      · refine fun _ _ => ⟨searching, ?_⟩
        rintro _ ⟨⟩ route member
        cases member
      · rename_i unknown
        refine fun _ _ => ⟨searching, ?_⟩
        rintro _ ⟨⟩ route member deploymentId named
        obtain rfl := List.mem_singleton.mp member
        have named : RouteManager.namedDeployment projectId text = some deploymentId := named
        rw [named] at unknown
        exact told text rfl projectId deploymentId stem named unknown
  · refine fun _ _ => ⟨searching, ?_⟩
    rintro _ ⟨⟩ route member
    cases member

/-- The whole directory is looked through. -/
theorem safe_inspectEntries (manager : RouteManager) (entries : List (Text × FileKind))
    (searching : Searching routes known h) :
    (manager.inspectEntries known entries).run.safe (semantics thread) (contract cleans thread)
      (fun outcome _ h => Outside routes h ∧ ∀ found, outcome = .ok found →
        Found (routes ++ found) h) node h := by
  induction entries generalizing node h routes with
  | nil =>
      refine fun _ _ => ⟨searching.outside, ?_⟩
      rintro _ ⟨⟩
      rw [List.append_nil]
      exact searching.outside.found
  | cons entry entries ih =>
      obtain ⟨name, kind⟩ := entry
      apply Fallible.safe_bind
      apply Prog.safe_mono (safe_inspectEntry manager kind searching)
      rintro (error | first) node h ⟨searching, found⟩
      · exact fun _ _ => ⟨searching.outside, nofun⟩
      have more : Searching (routes ++ first.toList) known h :=
        { outside :=
            { unlocked := searching.outside.unlocked
              found := fun route member => (List.mem_append.mp member).elim
                (searching.outside.found route) (found first rfl route) }
          listed := searching.listed }
      apply Fallible.safe_bind
      apply Prog.safe_mono (ih more)
      rintro (error | rest) node h ⟨outside, found⟩
      · exact fun _ _ => ⟨outside.left, nofun⟩
      · refine fun _ _ => ⟨outside.left, ?_⟩
        rintro _ ⟨⟩
        rw [← List.append_assoc]
        exact found rest rfl

/-! ### Taking a route away -/

/-- The holder of the lock finds a route file as it has left it. -/
theorem Inside.site_others {projectId : Uuid} {entry : Option FileEntry} {node' : Node}
    (inside : Inside thread routes node h) (is : node.files (siteFile projectId) = entry)
    (others : (contract cleans thread).Others h node node') :
    Inside thread routes node' h ∧ node'.files (siteFile projectId) = entry := by
  apply others.keeps (fun node => Inside thread routes node h ∧
    node.files (siteFile projectId) = entry) _ ⟨inside, is⟩
  intro node node' ⟨inside, is⟩ relied
  obtain ⟨held, same⟩ := relied inside.held
  exact ⟨⟨held, inside.found⟩, (same _).trans is⟩

theorem permitted_inside {op : RuntimeOp} (inside : Inside thread routes node h)
    (spares : ∀ path, op ≠ .file (.removeFile path)) : Permitted cleans thread node h op where
  guards _ _ := .inr inside.held
  justified _ _ _ isRemoval := absurd isRemoval (spares _)

theorem safe_readIfPresent {projectId : Uuid} (inside : Inside thread routes node h) :
    (readIfPresent (siteFile projectId)).run.safe (semantics thread) (contract cleans thread)
      (fun outcome node h => Inside thread routes node h ∧ ∀ content, outcome = .ok (some content) →
        node.files (siteFile projectId) = some (.file content)) node h := by
  intro node₀ others
  have before := inside.others others
  refine ⟨permitted_inside before nofun, fun _ _ _ _ => trivial, ?_⟩
  intro res node' step
  have after := before.file step
  cases res with
  | error error =>
      change Prog.safe _ _ _ (ExceptT.run (if error.notFound then _ else _)) _ _
      split
      · exact fun node₁ others => ⟨after.others others, nofun⟩
      · exact fun node₁ others => ⟨after.others others, nofun⟩
  | ok content =>
      obtain ⟨files, ⟨rfl, present⟩, rfl⟩ := step
      intro node₁ others
      obtain ⟨inside, is⟩ := after.site_others present others
      refine ⟨inside, ?_⟩
      rintro _ ⟨⟩
      exact is

variable {route : RuntimeStaleRoute}

def identityOf (route : RuntimeStaleRoute) : RouteIdentity where
  projectId := route.projectId
  deploymentId := route.deploymentId

/-- A file is taken away only if it begins as the route that was found stale. -/
theorem safe_removeRoute (manager : RouteManager) (member : route ∈ routes)
    (inside : Inside thread routes node h) :
    (manager.removeRoute (identityOf route)).run.safe (semantics thread) (contract cleans thread)
      (fun outcome node h => Inside thread routes node h ∧ ∀ snapshot, outcome = .ok snapshot →
        snapshot.changed = true → ∃ content, snapshot.previous = some content) node h := by
  apply Fallible.safe_bind
  apply Prog.safe_mono (safe_readIfPresent inside)
  rintro (error | _ | content) node h ⟨inside, present⟩
  · exact fun node' others => ⟨inside.others others, nofun⟩
  · refine fun node' others => ⟨inside.others others, ?_⟩
    rintro _ ⟨⟩ ⟨⟩
  dsimp only
  split
  · exact fun node' others => ⟨inside.others others, nofun⟩
  split
  · refine fun node' others => ⟨inside.others others, ?_⟩
    rintro _ ⟨⟩ ⟨⟩
  rename_i taken
  intro node₀ others
  obtain ⟨before, is⟩ := inside.site_others (present content rfl) others
  refine ⟨⟨fun _ _ => .inr before.held, ?_⟩, fun _ _ _ _ => trivial, ?_⟩
  · -- The file is still the one that was read under the lock.
    intro _ projectId deploymentId isRemoval begins
    have own : siteFile route.projectId = siteFile projectId := by
      injection isRemoval with isRemoval
      injection isRemoval
    obtain rfl := siteFile_injective own
    have is : node₀.files (siteFile route.projectId) = some (.file content) := is
    rw [Files.routesTo, is] at begins
    have named := deployment_of_not_leaves (eq_false_of_ne_true taken) begins
    exact before.found route member deploymentId named
  · intro res node' step
    have after := before.file step
    cases res with
    | error error => exact fun node₁ others => ⟨after.others others, nofun⟩
    | ok _ =>
        refine fun node₁ others => ⟨after.others others, ?_⟩
        rintro _ ⟨⟩ _
        exact ⟨content, rfl⟩

/-- What puts a file back takes none away. -/
theorem within_restore {snapshot : RouteSnapshot} {content : FileContent}
    (previous : snapshot.previous = some content) :
    Fallible.AllOps (Within cleans) snapshot.restore := by
  have within : Within cleans (.file (.write snapshot.path content)) :=
    ⟨fun _ => ⟨nofun, nofun⟩, fun _ _ => nofun⟩
  simp only [RouteSnapshot.restore, previous]
  exact Fallible.allOps_bind (Fallible.allOps_perform within) fun _ => trivial

theorem safe_deactivate (manager : RouteManager) (member : route ∈ routes)
    (outside : Outside routes h) :
    (manager.deactivate (identityOf route)).run.safe (semantics thread) (contract cleans thread)
      (fun _ _ h => Outside routes h) node h := by
  apply safe_locked outside.found
  intro node h inside
  apply Fallible.safe_bind
  apply Prog.safe_mono (safe_removeRoute manager member inside)
  rintro (error | snapshot) node h ⟨inside, changed⟩
  · exact fun node' others => inside.others others
  dsimp only
  split
  · rename_i isChanged
    obtain ⟨content, previous⟩ := changed snapshot rfl isChanged
    apply safe_within _ inside
    exact Fallible.allOps_bind (allOps_reloadOrRestore (fun op spawns => within_of_spawns op spawns)
      manager (within_restore previous)) fun _ => trivial
  · exact fun node' others => inside.others others

theorem safe_removeStaleRoutes (manager : RouteManager) (rest : List RuntimeStaleRoute)
    (subset : rest ⊆ routes) (outside : Outside routes h) :
    (manager.removeStaleRoutes rest).run.safe (semantics thread) (contract cleans thread)
      (fun _ _ h => Outside routes h) node h := by
  induction rest generalizing node h with
  | nil => exact fun _ _ => outside
  | cons route rest ih =>
      apply Fallible.safe_bind
      apply Prog.safe_mono (safe_deactivate manager (subset List.mem_cons_self) outside)
      rintro (error | removed) node h outside
      · exact fun _ _ => outside
      apply Fallible.safe_bind
      apply Prog.safe_mono (ih (fun _ member => subset (List.mem_cons_of_mem _ member)) outside)
      rintro (error | cleaned) node h outside
      · exact fun _ _ => outside
      · exact fun _ _ => outside

theorem safe_inspectListing (manager : RouteManager)
    (listing : Except IoError (List (Text × FileKind))) (searching : Searching [] known h) :
    (inspectListing manager known listing).run.safe (semantics thread) (contract cleans thread)
      (fun outcome _ h => Outside [] h ∧ ∀ found, outcome = .ok found → Found found h) node h := by
  cases listing with
  | ok entries => exact safe_inspectEntries manager entries searching
  | error error =>
      simp only [inspectListing]
      split
      · refine fun _ _ => ⟨searching.outside, ?_⟩
        rintro _ ⟨⟩ route member
        cases member
      · exact fun _ _ => ⟨searching.outside, nofun⟩

/-- A cleanup takes a route away only if it has found it stale. -/
theorem safe_cleanupRoutes (executor : DockerRuntimeExecutor) (outside : Outside [] h) :
    executor.cleanupRoutes.run.safe (semantics thread) (contract cleans thread)
      (fun _ _ h => Outside [] h) node h := by
  apply Fallible.safe_bind
  apply Prog.safe_mono (safe_detectOrphans outside)
  rintro (error | discovered) node h ⟨outside, listed⟩
  · exact fun _ _ => outside
  dsimp only
  rw [cleanupStaleRoutes_eq]
  intro node₀ _
  have looks : Looks (.file (.readDir .sites)) := looks_file rfl
  refine ⟨permitted_of_keepsSites looks.keeps, fun _ _ _ _ => trivial, ?_⟩
  intro listing node' _
  have searching : Searching [] (DockerRuntimeExecutor.routableRoutes discovered)
      (h ++ [.done (.file (.readDir .sites)) listing]) :=
    { outside := outside.append looks listing
      listed := by rw [view_append]; exact listed discovered rfl }
  apply Fallible.safe_bind
  apply Prog.safe_mono (safe_inspectListing executor.routes listing searching)
  rintro (error | stale) node h ⟨outside, found⟩
  · exact fun _ _ => outside
  have outside : Outside stale h := ⟨outside.unlocked, found stale rfl⟩
  apply Prog.safe_mono (safe_removeStaleRoutes executor.routes stale (List.Subset.refl _) outside)
  exact fun _ _ _ outside => show Outside [] _ from Outside.left outside

theorem looks_tryFileOp {op : FsOp} (keeps : op.keepsSites = true) :
    Fallible.AllOps Looks (tryFileOp op) :=
  ⟨looks_file keeps, fun _ => trivial⟩

theorem looks_fileOp {op : FsOp} (keeps : op.keepsSites = true) :
    Fallible.AllOps Looks (fileOp op) :=
  Fallible.allOps_bind (looks_tryFileOp keeps) fun _ => trivial

theorem looks_cleanupEntry (minimumAge : Nat) (name : Text) (kind : FileKind) :
    Fallible.AllOps Looks (WorkspaceManager.cleanupEntry minimumAge name kind) := by
  unfold WorkspaceManager.cleanupEntry
  split
  · apply Fallible.allOps_bind (looks_fileOp rfl)
    intro age
    split
    · exact Fallible.allOps_pure _
    · exact Fallible.allOps_bind (looks_fileOp rfl) fun _ => trivial
  · exact Fallible.allOps_pure _

theorem looks_cleanupStale (minimumAge : Nat) :
    Fallible.AllOps Looks (WorkspaceManager.cleanupStale minimumAge) := by
  apply Fallible.allOps_bind (looks_tryFileOp rfl)
  rintro (error | entries)
  · dsimp only
    split <;> trivial
  · induction entries with
    | nil => trivial
    | cons entry entries ih =>
        apply Fallible.allOps_bind (looks_cleanupEntry minimumAge entry.1 entry.2)
        exact fun gone => Fallible.allOps_bind ih fun _ => trivial

theorem looks_cleanupStaleImages (engine : ContainerEngine) (maxAgeSeconds : Nat) :
    Fallible.AllOps Looks (engine.cleanupStaleImages maxAgeSeconds) := by
  apply Fallible.allOps_bind
    ((@spawns_runProcess (fun _ => True) _ trivial _).mono looks_of_spawns)
  intro output
  split <;> trivial

theorem safe_cleanupTarget (executor : DockerRuntimeExecutor)
    (totals : DockerRuntimeExecutor.CleanupTotals) (target : RuntimeCleanupTarget)
    (outside : Outside [] h) :
    (executor.cleanupTarget totals target).run.safe (semantics thread) (contract cleans thread)
      (fun _ _ h => Outside [] h) node h := by
  have looks : Fallible.AllOps Looks
      (Fallible.perform (I := Runtime) (ε := RuntimeError) .isCancelled) :=
    Fallible.allOps_perform ⟨nofun, nofun, nofun⟩
  apply safe_looks_bind looks outside (fun _ _ _ outside => outside)
  intro isCancelled node h outside
  cases isCancelled with
  | true => exact fun _ _ => outside
  | false =>
      cases target with
      | staleWorkspaces =>
          apply safe_looks _ outside
          exact Fallible.allOps_bind (looks_cleanupStale _) fun _ => trivial
      | staleImages =>
          apply safe_looks _ outside
          exact Fallible.allOps_bind (looks_cleanupStaleImages _ _) fun _ => trivial
      | staleRoutes =>
          apply Fallible.safe_bind
          apply Prog.safe_mono (safe_cleanupRoutes executor outside)
          rintro (error | cleaned) node h outside
          · exact fun _ _ => outside
          · exact fun _ _ => outside

theorem safe_cleanupTargets (executor : DockerRuntimeExecutor)
    (totals : DockerRuntimeExecutor.CleanupTotals) (targets : List RuntimeCleanupTarget)
    (outside : Outside [] h) :
    (executor.cleanupTargets totals targets).run.safe (semantics thread) (contract cleans thread)
      (fun _ _ h => Outside [] h) node h := by
  induction targets generalizing totals node h with
  | nil => exact fun _ _ => outside
  | cons target targets ih =>
      apply Fallible.safe_bind
      apply Prog.safe_mono (safe_cleanupTarget executor totals target outside)
      rintro (error | totals) node h outside
      · exact fun _ _ => outside
      · exact ih totals outside

theorem safe_cleanupRuntime (executor : DockerRuntimeExecutor) (request : CleanupRuntimeRequest)
    (outside : Outside [] h) :
    (executor.cleanupRuntime request).run.safe (semantics thread) (contract cleans thread)
      (fun _ _ _ => True) node h := by
  unfold DockerRuntimeExecutor.cleanupRuntime
  split
  · exact fun _ _ => trivial
  · apply Fallible.safe_bind
    apply Prog.safe_mono (safe_cleanupTargets executor {} request.targets outside)
    rintro (error | totals) node h _
    · exact fun _ _ => trivial
    · exact fun _ _ => trivial

/-! ### The other commands -/

section Other

variable (other : ¬cleans)
include other

theorem upholds : Upholds (semantics thread) (contract cleans thread) (fun _ => True) where
  blind :=
    { rely := fun _ _ => rfl
      asserts := fun _ _ => ⟨fun permitted => ⟨permitted.guards, fun does => absurd does other⟩,
        fun permitted => ⟨permitted.guards, fun does => absurd does other⟩⟩
      left := fun _ _ => .rfl }
  rely _ _ := trivial
  left := .rfl
  flag := permitted_of_keepsSites nofun
  reads step := step.2

omit other in
theorem safe_keepsSites {p : RuntimeM α} (ops : Fallible.AllOps KeepsSites p) :
    p.run.safe (semantics thread) (contract cleans thread) (fun _ _ _ => True) node h := by
  have maintained : Prog.Maintains (semantics thread) (contract cleans thread) KeepsSites
      (fun _ _ => True) :=
    { asserts := fun op keeps _ _ _ => permitted_of_keepsSites keeps
      done := fun _ _ _ _ _ _ _ _ => trivial
      abandoned := fun _ _ _ _ _ _ _ _ => trivial
      fired := fun _ _ _ _ _ => trivial
      rely := fun _ _ _ _ _ => trivial }
  exact Prog.safe_of_allOps maintained ops trivial (fun _ _ _ _ => trivial) fun _ _ _ => trivial

omit other in
theorem safe_asks {p : RuntimeM α} (asks : Fallible.AllOps (Asks fun _ => True) p) :
    p.run.safe (semantics thread) (contract cleans thread) (fun _ _ _ => True) node h :=
  safe_keepsSites (asks.mono keepsSites_of_asks)

omit other in
theorem anything (line : CommandLine) (_ : line.isQuiet = true) : True :=
  trivial

/-- An activation touches the route files, inside the lock. -/
theorem safe_activate (manager : RouteManager) (route : RouteSpec) :
    (manager.activate route).run.safe (semantics thread) (contract cleans thread)
      (fun _ _ _ => True) node h := by
  have admits : AdmitsRouteFiles (Within cleans) :=
    { file := fun op _ => ⟨fun _ => ⟨nofun, nofun⟩, fun does => absurd does other⟩
      spawns := fun op spawns => within_of_spawns op spawns }
  have found : Found [] h := fun _ member => (List.not_mem_nil member).elim
  apply Prog.safe_mono (safe_locked found _)
  · exact fun _ _ _ _ => trivial
  · intro node h inside
    exact safe_within (Fallible.allOps_bind (admits.writeRoute route)
      fun snapshot => admits.reloadOrRestore manager snapshot) inside

theorem safe_deployInner (executor : DockerRuntimeExecutor) (deployment : Deployment) :
    (executor.deployInner deployment).run.safe (semantics thread) (contract cleans thread)
      (fun _ _ _ => True) node h := by
  apply (upholds other).safe_bind
    (safe_asks (asks_buildImage anything executor fun _ _ _ _ => trivial))
  intro builder node h _
  apply (upholds other).safe_bind
    (safe_asks (asks_startCandidate anything executor fun _ _ => trivial))
  intro _ node h _
  apply (upholds other).safe_bind (safe_activate other executor.routes _)
  intro _ node h _
  apply safe_keepsSites
  refine ⟨nofun, fun _ => ⟨nofun, fun _ => ?_⟩⟩
  have tame : ∀ line : CommandLine, line.isTame = true → True := fun _ _ => trivial
  exact (asks_finalizeDeployment tame deployment builder).mono keepsSites_of_asks

theorem safe_runDeployment (executor : DockerRuntimeExecutor) (request : DeployProjectRequest) :
    (executor.runDeployment request).run.safe (semantics thread) (contract cleans thread)
      (fun _ _ _ => True) node h := by
  apply (upholds other).safe_bind (safe_asks (asks_prepareDeployment anything executor request))
  intro prepared node h _ node₀ _
  refine ⟨permitted_of_keepsSites nofun, fun _ _ _ _ => trivial, fun _ node' _ => ?_⟩
  apply (upholds other).safe_bind
  · apply (upholds other).safe_untilCancelled
    exact safe_deployInner other executor _
  · intro result node h _
    exact safe_asks (asks_afterDeployment executor trivial trivial result)

theorem safe_activateWorkload (executor : DockerRuntimeExecutor) (workload : ManagedWorkload) :
    (executor.activateWorkload workload).run.safe (semantics thread) (contract cleans thread)
      (fun _ _ _ => True) node h := by
  apply (upholds other).safe_bind (safe_asks (asks_waitUntilReady anything _ _))
  exact fun _ node h _ => safe_activate other executor.routes _

omit other in
theorem asks_workloadOf (request : WorkloadLifecycleRequest) :
    Fallible.AllOps (Asks fun _ => True) (DockerRuntimeExecutor.workload request) := by
  apply Fallible.allOps_bind (asks_workload anything _ _)
  exact fun found => Fallible.allOps_ofExcept _

theorem safe_runWake (executor : DockerRuntimeExecutor) (request : WorkloadLifecycleRequest) :
    (executor.runWake request).run.safe (semantics thread) (contract cleans thread)
      (fun _ _ _ => True) node h := by
  apply (upholds other).safe_bind (safe_asks (asks_workloadOf request))
  intro workload node h _
  apply (upholds other).safe_bind
  · unfold ContainerEngine.startExisting
    split
    · exact safe_asks (Fallible.allOps_pure _)
    · exact safe_asks (asks_runContainerCommand trivial _)
  intro _ node h _
  apply (upholds other).safe_bind (safe_activateWorkload other executor workload)
  intro _ node h _
  apply safe_asks
  exact Fallible.allOps_bind (asks_emitEvent _ _ _) fun _ => trivial

theorem safe_runRestart (executor : DockerRuntimeExecutor) (request : WorkloadLifecycleRequest) :
    (executor.runRestart request).run.safe (semantics thread) (contract cleans thread)
      (fun _ _ _ => True) node h := by
  apply (upholds other).safe_bind (safe_asks (asks_workloadOf request))
  intro workload node h _
  split
  · exact safe_asks (Fallible.allOps_throw _)
  apply (upholds other).safe_bind (safe_asks (asks_runContainerCommand trivial _))
  intro _ node h _
  apply (upholds other).safe_bind (safe_activateWorkload other executor workload)
  intro _ node h _
  apply safe_asks
  exact Fallible.allOps_bind (asks_emitEvent _ _ _) fun _ => trivial

omit other in
theorem asks_restartLogFollower (workload : ManagedWorkload) (reporterFactory : Bool) :
    Fallible.AllOps (Asks fun _ => True)
      (DockerRuntimeExecutor.restartLogFollower workload reporterFactory) := by
  unfold DockerRuntimeExecutor.restartLogFollower
  split
  · exact Fallible.allOps_throw _
  · split
    · exact Fallible.allOps_throw _
    · split
      · exact Fallible.allOps_throw _
      · exact Fallible.allOps_bind (Fallible.allOps_perform trivial) fun _ => Fallible.allOps_pure _

omit other in
theorem asks_cleanupFailedCandidate (workload : ManagedWorkload) :
    Fallible.AllOps (Asks fun _ => True)
      (DockerRuntimeExecutor.cleanupFailedCandidate workload) := by
  unfold DockerRuntimeExecutor.cleanupFailedCandidate
  split
  · exact Fallible.allOps_throw _
  · exact Fallible.allOps_bind (asks_runContainerCommand trivial _) fun _ => Fallible.allOps_pure _

theorem safe_restoreRoute (executor : DockerRuntimeExecutor) (workload : ManagedWorkload) :
    (executor.restoreRoute workload).run.safe (semantics thread) (contract cleans thread)
      (fun _ _ _ => True) node h := by
  unfold DockerRuntimeExecutor.restoreRoute
  split
  · exact safe_asks (Fallible.allOps_throw _)
  · apply (upholds other).safe_bind (safe_activateWorkload other executor workload)
    exact fun _ _ _ _ => safe_asks (Fallible.allOps_pure _)

omit other in
theorem asks_isCancelled : Fallible.AllOps (Asks fun _ => True)
    (Fallible.perform (I := Runtime) (ε := RuntimeError) .isCancelled) :=
  asks_perform trivial

theorem safe_applyAction (executor : DockerRuntimeExecutor) (request : ReconcileWorkloadRequest)
    (found : Option ManagedWorkload) (action : ReconcileWorkloadAction) :
    (executor.applyAction request found action).run.safe (semantics thread) (contract cleans thread)
      (fun _ _ _ => True) node h := by
  apply (upholds other).safe_bind (safe_asks asks_isCancelled)
  intro isCancelled node h _
  cases isCancelled with
  | true => exact safe_asks (Fallible.allOps_throw _)
  | false =>
      cases found with
      | none => exact safe_asks (Fallible.allOps_throw _)
      | some workload =>
          cases action with
          | restartLogFollower => exact safe_asks (asks_restartLogFollower workload _)
          | cleanupFailedCandidate => exact safe_asks (asks_cleanupFailedCandidate workload)
          | restoreRoute => exact safe_restoreRoute other executor workload

theorem safe_applyActions (executor : DockerRuntimeExecutor) (request : ReconcileWorkloadRequest)
    (found : Option ManagedWorkload) (actions : List ReconcileWorkloadAction) :
    (executor.applyActions request found actions).run.safe (semantics thread) (contract cleans thread)
      (fun _ _ _ => True) node h := by
  induction actions generalizing node h with
  | nil => exact safe_asks (Fallible.allOps_pure _)
  | cons action actions ih =>
      apply (upholds other).safe_bind (safe_applyAction other executor request found action)
      intro applied node h _
      apply (upholds other).safe_bind ih
      exact fun _ _ _ _ => safe_asks (Fallible.allOps_pure _)

theorem safe_reconcileWorkload (executor : DockerRuntimeExecutor)
    (request : ReconcileWorkloadRequest) :
    (executor.reconcileWorkload request).run.safe (semantics thread) (contract cleans thread)
      (fun _ _ _ => True) node h := by
  apply (upholds other).safe_bind (safe_asks asks_isCancelled)
  intro isCancelled node h _
  cases isCancelled with
  | true => exact safe_asks (Fallible.allOps_throw _)
  | false =>
      apply (upholds other).safe_bind (safe_asks (asks_workload anything _ _))
      intro found node h _
      apply (upholds other).safe_bind (safe_applyActions other executor request found request.actions)
      exact fun _ _ _ _ => safe_asks (Fallible.allOps_pure _)

end Other

/-! ### Commands side by side -/

/-- A cleanup of the node, or a command that makes a workload run and writes its route. -/
inductive RouteCommand where
  | cleanup (request : CleanupRuntimeRequest)
  | deploy (request : DeployProjectRequest)
  | wake (request : WorkloadLifecycleRequest)
  | restart (request : WorkloadLifecycleRequest)
  | reconcile (request : ReconcileWorkloadRequest)

/-- An executor, and the command of each of its threads. -/
structure Setup where
  executor : DockerRuntimeExecutor
  command : ThreadId → RouteCommand

/-- The agent while it runs. -/
abbrev Commands : Type :=
  Pool Runtime Node ThreadId (Except RuntimeError CommandOutput)

namespace Setup

def future (setup : Setup) (thread : ThreadId) : RuntimeM CommandOutput :=
  match setup.command thread with
  | .cleanup request => setup.executor.cleanupRuntime request
  | .deploy request => setup.executor.runDeployment request
  | .wake request => setup.executor.runWake request
  | .restart request => setup.executor.runRestart request
  | .reconcile request => setup.executor.reconcileWorkload request

def Cleans (setup : Setup) (thread : ThreadId) : Prop :=
  ∃ request, setup.command thread = .cleanup request

/-- Any number of commands; the future of each can be dropped. -/
def threads (setup : Setup) :
    Threads Runtime Node ThreadId (Except RuntimeError CommandOutput) where
  semantics := semantics
  starts thread program := program = (setup.future thread).run
  onDrop _ := (DockerRuntimeExecutor.dropDeployment >>= fun _ => throw .cancelled).run

/-- A deployment that runs while a cleanup reads its route file is among the workloads of the listing of
the cleanup; and until a cleanup that has found a deployment stale has returned, it does not come up. -/
structure Current (setup : Setup) (s : Commands)
    (action : Pool.Action Runtime ThreadId (Except RuntimeError CommandOutput)) (s' : Commands) :
    Prop where
  listed : ∀ cleanup name content projectId deploymentId, setup.Cleans cleanup →
    action = .act cleanup (.done (.file (.read (.site name))) (Except.ok content)) →
    (view (s.history cleanup)).isLocked = false →
    staleRoute (view (s.history cleanup)).known name content = some (projectId, deploymentId) →
    s.world.docker.runsDeployment projectId deploymentId = false
  down : ∀ cleanup projectId deploymentId, setup.Cleans cleanup → s.returned cleanup = none →
    (projectId, deploymentId) ∈ (view (s.history cleanup)).stale →
    s'.world.docker.runsDeployment projectId deploymentId = true →
    s.world.docker.runsDeployment projectId deploymentId = true

end Setup

section Kept

variable {setup : Setup} {s s' : Commands}
  {action : Pool.Action Runtime ThreadId (Except RuntimeError CommandOutput)}

theorem safe_future (node : Node) : (setup.future thread).run.safe (semantics thread)
    (contract (setup.Cleans thread) thread) (fun _ _ _ => True) node [] := by
  by_cases cleans : setup.Cleans thread
  · obtain ⟨request, same⟩ := cleans
    unfold Setup.future
    rw [same]
    exact safe_cleanupRuntime setup.executor request ⟨rfl, fun _ member => nomatch member⟩
  · unfold Setup.future
    split
    · rename_i request same
      exact absurd ⟨request, same⟩ cleans
    · exact safe_runDeployment cleans _ _
    · exact safe_runWake cleans _ _
    · exact safe_runRestart cleans _ _
    · exact safe_reconcileWorkload cleans _ _

/-! ### The invariant -/

/-- No deployment that a cleanup has found stale runs before the cleanup has returned. -/
def Down (setup : Setup) (s : Commands) : Prop :=
  ∀ cleanup projectId deploymentId, setup.Cleans cleanup → s.returned cleanup = none →
    (projectId, deploymentId) ∈ (view (s.history cleanup)).stale →
    s.world.docker.runsDeployment projectId deploymentId = false

/-- The threads keep to their contracts, and what is found stale is down. -/
structure Kept (setup : Setup) (s : Commands) : Prop where
  safe : Pool.Safe setup.threads (fun thread => contract (setup.Cleans thread) thread)
    (fun _ _ _ _ => True) s
  fresh : ∀ thread, s.program thread = none → s.history thread = []
  down : Down setup s

theorem down_step (down : Down setup s) (stepped : Pool.Step setup.threads s action s')
    (current : setup.Current s action s') : Down setup s' := by
  intro cleanup projectId deploymentId cleans unreturned stale
  have before : s.returned cleanup = none := by
    cases ended : s.returned cleanup with
    | none => rfl
    | some value => rw [stepped.returned ended] at unreturned; cases unreturned
  have stays : (projectId, deploymentId) ∈ (view (s.history cleanup)).stale →
      s'.world.docker.runsDeployment projectId deploymentId = false := by
    intro stale
    apply Bool.eq_false_of_not_eq_true
    intro runs
    have ran := current.down cleanup projectId deploymentId cleans before stale runs
    rw [down cleanup projectId deploymentId cleans before stale] at ran
    cases ran
  rcases stepped.history cleanup with same | ⟨event, rfl, grown⟩
  · exact stays (same ▸ stale)
  · rw [grown] at stale
    rcases stale_of_append stale with old | ⟨name, content, rfl, unlocked, found⟩
    · exact stays old
    · -- The route file was read just now, which changes no container.
      have isDown := current.listed cleanup name content projectId deploymentId cleans rfl unlocked
        found
      cases stepped with
      | done running step =>
          obtain ⟨files, _, rfl⟩ := step
          exact isDown

/-- What others do is relied on. -/
theorem relied {other : ThreadId}
    (safe : Pool.Safe setup.threads (fun thread => contract (setup.Cleans thread) thread)
      (fun _ _ _ _ => True) s) (stepped : Pool.Step setup.threads s action s')
    (still : action.thread ≠ some other) :
    (contract (setup.Cleans other) other).rely (s.history other) s.world s'.world ∨
      s'.world = s.world := by
  cases Pool.Step.world safe stepped with
  | same unchanged => exact .inr unchanged
  | done permitted step =>
      exact .inl fun held =>
        Node.sites_of_step (fun same => still (same ▸ rfl)) permitted.guards held step
  | abandoned permitted left =>
      exact .inl fun held =>
        Node.sites_of_leave (fun same => still (same ▸ rfl)) permitted.guards held left
  | drift drift =>
      refine .inl fun held => ?_
      rcases drift with lands | ⟨docker, _, moved⟩
      · exact Node.sites_of_lands held lands
      · rw [moved]
        exact ⟨held, fun _ => rfl⟩

theorem kept_step (kept : Kept setup s) (stepped : Pool.Step setup.threads s action s')
    (current : setup.Current s action s') : Kept setup s' where
  safe := by
    apply kept.safe.step stepped
    case started =>
      rintro thread program rfl starts
      obtain rfl : program = (setup.future thread).run := starts
      have fresh : s.program thread = none := by
        cases stepped with
        | start fresh _ => exact fresh
      rw [kept.fresh thread fresh]
      exact safe_future s.world
    case dropped =>
      intro thread _ node h _
      apply safe_keepsSites
      exact ⟨nofun, fun _ => ⟨nofun, fun _ => ⟨nofun, fun _ => trivial⟩⟩⟩
    case relied => exact fun other still _ => relied kept.safe stepped still
  fresh := stepped.fresh kept.fresh
  down := down_step kept.down stepped current

/-- However cleanups take turns with commands that make workloads run: as long as each deployment that
runs is listed by a cleanup that reads its route file, and none comes up that a cleanup has found
stale, no cleanup takes away the route file of a deployment that runs. -/
theorem live_routes_kept (setup : Setup) (start : Node) {s s' : Commands}
    (run : Pool.Runs setup.threads setup.Current (Pool.empty start) s) {cleanup : ThreadId}
    (cleans : setup.Cleans cleanup) {event : Event Runtime}
    (stepped : Pool.Step setup.threads s (.act cleanup event) s') {projectId deploymentId : Uuid}
    (removes : event.asked = some (.file (.removeFile (siteFile projectId))))
    (names : s.world.files.routesTo projectId deploymentId = true) :
    s.world.docker.runsDeployment projectId deploymentId = false := by
  have kept : Kept setup s := by
    apply run.invariant (Kept setup)
    · exact fun s action s' kept stepped current => kept_step kept stepped current
    · exact
        { safe := fun thread program running => nomatch running
          fresh := fun _ _ => rfl
          down := fun cleanup _ _ _ _ stale => nomatch stale }
  have found : s.returned cleanup = none ∧
      (projectId, deploymentId) ∈ (view (s.history cleanup)).stale := by
    cases stepped with
    | done running step =>
        obtain rfl := Option.some.inj removes
        have permitted := (kept.safe cleanup _ running _ .refl).1
        exact ⟨by simp [Pool.returned, running], permitted.justified cleans _ _ rfl names⟩
    | abandoned running left =>
        obtain rfl := Option.some.inj removes
        have permitted := (kept.safe cleanup _ running _ .refl).1
        exact ⟨by simp [Pool.returned, running], permitted.justified cleans _ _ rfl names⟩
    | fired running => cases removes
  exact kept.down cleanup projectId deploymentId cleans found.1 found.2

end Kept

/-! ### Two runs -/

/-- What is asked for next is to remove the file. -/
def removesNext {α : Type} (path : FilePath) : Option (Prog Runtime α) → Bool
  | some (.call (.file (.removeFile other)) _) => other = path
  | _ => false

theorem exists_of_removesNext {setup : Setup} {path : FilePath} {s : Commands} {thread : ThreadId}
    (next : removesNext path (s.program thread) = true) : ∃ event s',
      Pool.Step setup.threads s (.act thread event) s' ∧
        event.asked = some (.file (.removeFile path)) := by
  unfold removesNext at next
  split at next
  · rename_i other rest running
    obtain rfl := of_decide_eq_true next
    have step := Files.answer_step Sample.script s.world.files (.removeFile other)
    exact ⟨_, _, .done running ⟨_, step, rfl⟩, rfl⟩
  · cases next

theorem sound (script : NodeScript) (thread : ThreadId) :
    (script.script thread).Sound (semantics thread) where
  answer := (script.sound thread).answer
  leave := (script.sound thread).leave

namespace Crossing

/-- A cleanup on thread 0, and deployments on all others. -/
def command : ThreadId → RouteCommand
  | 0 => .cleanup { commandId := Sample.uuid 2, approved := true, targets := [.staleRoutes] }
  | _ => .deploy (Sample.deployment 1)

def setup : Setup where
  executor := Sample.executor
  command := command

/-- A node that works; its listings tell of the route file of one project. -/
def script (project : Fin 16) : NodeScript :=
  { Sample.script with names := [siteName (Sample.uuid project)] }

/-- The cleanup reads its listing of workloads; a deployment starts one and writes its route; then the
cleanup lists the directory. -/
def moves : List (Pool.Move Runtime Node ThreadId (Except RuntimeError CommandOutput)) :=
  [.start 0 (setup.future 0).run, .go 0 2, .start 1 (setup.future 1).run, .go 1 400, .go 0 4]

/-- A deployment comes up behind the listing, and its route is taken away. -/
theorem live_route_removed : ∃ (s s' : Commands) (event : Event Runtime),
    Pool.Runs setup.threads (fun _ _ _ => True) (Pool.empty Sample.node) s ∧ setup.Cleans 0 ∧
      Pool.Step setup.threads s (.act 0 event) s' ∧
      event.asked = some (.file (.removeFile (siteFile (Sample.uuid 1)))) ∧
      s.world.files.routesTo (Sample.uuid 1) (Sample.uuid 1) = true ∧
      s.world.docker.runsDeployment (Sample.uuid 1) (Sample.uuid 1) = true := by
  have played : ((Pool.empty Sample.node).play (script 1).script moves).any (fun s =>
      removesNext (siteFile (Sample.uuid 1)) (s.program 0) &&
        (s.world.files.routesTo (Sample.uuid 1) (Sample.uuid 1) &&
          s.world.docker.runsDeployment (Sample.uuid 1) (Sample.uuid 1))) = true := by
    decide +kernel
  obtain ⟨s, played, found⟩ := (Option.any_eq_true ..).mp played
  obtain ⟨next, names, runs⟩ :
      removesNext (siteFile (Sample.uuid 1)) (s.program 0) = true ∧
        s.world.files.routesTo (Sample.uuid 1) (Sample.uuid 1) = true ∧
          s.world.docker.runsDeployment (Sample.uuid 1) (Sample.uuid 1) = true := by
    simpa only [Bool.and_eq_true] using found
  obtain ⟨event, s', stepped, removes⟩ := exists_of_removesNext next
  refine ⟨s, s', event, ?_, ⟨_, rfl⟩, stepped, removes, names, runs⟩
  apply Pool.play_sound (fun _ _ _ _ => trivial) (sound (script 1)) _ played
  intro move member
  simp only [moves, List.mem_cons, List.not_mem_nil, or_false] at member
  rcases member with rfl | rfl | rfl | rfl | rfl
  · rfl
  · trivial
  · rfl
  · trivial
  · trivial

/-! ### A route left behind -/

/-- A node without containers, and the route file of a deployment that is gone. -/
def leftover : Node :=
  { Sample.node with
    files := fun path =>
      if path = siteFile (Sample.uuid 3) then
        some (.file { text := routeContent (Sample.deployment 3).route })
      else none }

/-- A deployment is checked out beside the cleanup. -/
def movesLeftover : List (Pool.Move Runtime Node ThreadId (Except RuntimeError CommandOutput)) :=
  [.start 0 (setup.future 0).run, .go 0 2, .start 1 (setup.future 1).run, .go 1 10, .go 0 4]

/-- The containers are left as they are. -/
def isCalm : RuntimeOp → Bool
  | .process spec => spec.line.isQuiet
  | _ => true

def calm (thread : ThreadId) : Script Runtime Node :=
  ((script 3).script thread).guarded fun _ op => isCalm op

theorem sound_calm (thread : ThreadId) : (calm thread).Sound (setup.threads.semantics thread) where
  answer answered := (((sound (script 3) thread).guarded _).answer answered).1
  leave left := (sound (script 3) thread).leave left

/-- A step of the script leaves the containers as they are. -/
theorem docker_of_scripted {s s' : Commands}
    {action : Pool.Action Runtime ThreadId (Except RuntimeError CommandOutput)}
    (stepped : Pool.Step setup.threads s action s') (scripted : Pool.Scripted calm s s' action) :
    s'.world.docker = s.world.docker := by
  cases stepped with
  | @done thread op next res world running step =>
      have answered : (calm thread).answer (s.history thread) s.world op = some (res, world) := scripted
      obtain ⟨step, isCalm⟩ := ((sound (script 3) thread).guarded _).answer answered
      by_cases process : ∃ spec, op = .process spec
      · obtain ⟨spec, rfl⟩ := process
        exact Node.Settled.docker_of_isQuiet isCalm step.2
      · exact Node.docker_of_step (fun spec same => process ⟨spec, same⟩) step
  | abandoned running left => exact Node.docker_of_leave left
  | start | fired | quiet => rfl
  | drop | drift => exact absurd scripted id

theorem runs_of_noContainers {docker : DockerState} (none : docker.containers = [])
    (projectId deploymentId : Uuid) : docker.runsDeployment projectId deploymentId = false := by
  simp [DockerState.runsDeployment, none]

/-- A cleanup takes away what a deployment has left behind. -/
theorem live_routes_kept_leftover : ∃ (s s' : Commands) (event : Event Runtime),
    Pool.Step setup.threads s (.act 0 event) s' ∧
      event.asked = some (.file (.removeFile (siteFile (Sample.uuid 3)))) ∧
      s.world.files.routesTo (Sample.uuid 3) (Sample.uuid 3) = true ∧
      s.world.docker.runsDeployment (Sample.uuid 3) (Sample.uuid 3) = false := by
  have played : ((Pool.empty leftover).play calm movesLeftover).any (fun s =>
      removesNext (siteFile (Sample.uuid 3)) (s.program 0) &&
        s.world.files.routesTo (Sample.uuid 3) (Sample.uuid 3)) = true := by
    decide +kernel
  obtain ⟨s, played, found⟩ := (Option.any_eq_true ..).mp played
  obtain ⟨next, names⟩ := Bool.and_eq_true_iff.mp found
  obtain ⟨event, s', stepped, removes⟩ := exists_of_removesNext next
  have scripted : Pool.Runs setup.threads (fun s action s' => Pool.Scripted calm s s' action)
      (Pool.empty leftover) s := by
    apply Pool.play_sound (fun _ _ _ scripted => scripted) sound_calm _ played
    intro move member
    simp only [movesLeftover, List.mem_cons, List.not_mem_nil, or_false] at member
    rcases member with rfl | rfl | rfl | rfl | rfl
    · rfl
    · trivial
    · rfl
    · trivial
    · trivial
  have run : Pool.Runs setup.threads setup.Current (Pool.empty leftover) s := by
    apply scripted.strengthen fun s => s.world.docker.containers = []
    · intro s action s' none stepped scripted
      rw [docker_of_scripted stepped scripted]
      exact none
    · intro s action s' none stepped scripted
      have after : s'.world.docker.containers = [] := by
        rw [docker_of_scripted stepped scripted]
        exact none
      exact
        { listed := fun _ _ _ _ _ _ _ _ _ => runs_of_noContainers none _ _
          down := fun _ _ _ _ _ _ up => by
            rw [runs_of_noContainers after] at up
            cases up }
    · rfl
  exact ⟨s, s', event, stepped, removes, names,
    live_routes_kept setup leftover run ⟨_, rfl⟩ stepped removes names⟩

end Crossing

end LiveRoutes

end SakalaAgent
