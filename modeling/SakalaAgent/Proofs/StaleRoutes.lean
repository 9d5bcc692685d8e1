/-
Module: SakalaAgent.Proofs.StaleRoutes
Layer: Proofs
Purpose: The search for stale routes reports exactly the route files that belong to no known workload,
  and their cleanup takes exactly those away and counts them, whatever else is in the directory.
Trusted boundary: the surroundings that oblige, and a listing that shows the whole directory.
Main exports: SiteContent, Files.Orderly, Files.StaleExactly, Browses, stale_routes_exact
-/
import Mathlib.Data.Set.Finite.Basic
import SakalaAgent.Proofs.RouteFile
import SakalaAgent.Proofs.Stopping

namespace SakalaAgent

open Async RouteManager

/-! ### Two generations of route files -/

theorem append_of_startsWith {text start : Text} (starts : Text.startsWith text start = true) :
    ∃ rest, text = start ++ rest := by
  obtain ⟨rest, rfl⟩ := List.isPrefixOf_iff_prefix.mp starts
  exact ⟨rest, rfl⟩

theorem startsWith_append (start rest : Text) : Text.startsWith (start ++ rest) start = true :=
  List.isPrefixOf_iff_prefix.mpr (List.prefix_append start rest)

/-- A route file begins with the marker of its deployment. -/
theorem routeContent_eq (route : RouteSpec) : ∃ rest, routeContent route =
    deploymentPrefix route.projectId route.deploymentId ++ '\n' :: rest :=
  ⟨_, rfl⟩

theorem startsWith_deploymentPrefix (route : RouteSpec) : Text.startsWith (routeContent route)
    (deploymentPrefix route.projectId route.deploymentId) = true := by
  obtain ⟨rest, content⟩ := routeContent_eq route
  rw [content]
  exact startsWith_append _ _

theorem startsWith_currentPrefix (route : RouteSpec) :
    Text.startsWith (routeContent route) (currentPrefix route.projectId) = true := by
  obtain ⟨rest, content⟩ := append_of_startsWith (startsWith_deploymentPrefix route)
  rw [content, deploymentPrefix, List.append_assoc]
  exact startsWith_append _ _

/-- Both generations begin with the marker of their project. -/
theorem startsWith_ownedPrefix (route : RouteSpec) :
    Text.startsWith (routeContent route) (ownedPrefix route.projectId) = true := by
  obtain ⟨rest, content⟩ := append_of_startsWith (startsWith_currentPrefix route)
  rw [content, currentPrefix, List.append_assoc]
  exact startsWith_append _ _

theorem startsWith_ownedPrefix_of_legacy {projectId : Uuid} {content : Text}
    (marked : Text.startsWith content (legacyPrefix projectId) = true) :
    Text.startsWith content (ownedPrefix projectId) = true := by
  obtain ⟨rest, rfl⟩ := append_of_startsWith marked
  rw [legacyPrefix, List.append_assoc]
  exact startsWith_append _ _

/-- A route file that was written names its deployment. -/
theorem namedDeployment_routeContent (route : RouteSpec) :
    namedDeployment route.projectId (routeContent route) = some route.deploymentId := by
  obtain ⟨rest, content⟩ := routeContent_eq route
  have feed : '\n' ∉ deploymentPrefix route.projectId route.deploymentId :=
    not_mem_deploymentPrefix rfl (by decide) (by decide) _ _
  have carriage : '\r' ∉ deploymentPrefix route.projectId route.deploymentId :=
    not_mem_deploymentPrefix rfl (by decide) (by decide) _ _
  have line : (Text.lines (routeContent route)).head? = some (currentPrefix route.projectId ++
      (route.deploymentId.toText ++ ".".toList)) := by
    rw [content, Text.lines_append feed carriage, List.head?_cons]
    rfl
  rw [namedDeployment, line]
  simp only [Option.bind_eq_bind, Option.bind_some, Text.stripStart_append]
  rw [show ['.'] = ".".toList from rfl, Text.stripEnd_append]
  exact Uuid.parseText_toText route.deploymentId

/-- A file from before routes named deployments names none. -/
theorem namedDeployment_of_legacy {projectId : Uuid} {content : Text}
    (marked : Text.startsWith content (legacyPrefix projectId) = true) :
    namedDeployment projectId content = none := by
  obtain ⟨rest, rfl⟩ := append_of_startsWith marked
  have absent : ∀ character, Text.isWhiteSpace character = true → character ∉ managedRoutePrefix →
      character ∉ legacyPrefix projectId := by
    intro character space marker member
    rcases List.mem_append.mp member with owned | dot
    · exact not_mem_ownedPrefix space marker projectId owned
    · obtain rfl := List.mem_singleton.mp dot
      cases space
  have written : legacyPrefix projectId ≠ [] := by simp [legacyPrefix]
  obtain ⟨more, line⟩ := Text.head?_lines_append written (absent '\n' rfl (by decide))
    (absent '\r' rfl (by decide)) rest
  have other : Text.stripStart (legacyPrefix projectId ++ more) (currentPrefix projectId) = none := by
    cases stripped : Text.stripStart (legacyPrefix projectId ++ more) (currentPrefix projectId) with
    | none => rfl
    | some value =>
        -- behind the marker stands a dot in the one, and a blank in the other
        have same := Text.append_of_stripStart stripped
        rw [legacyPrefix, currentPrefix, List.append_assoc, List.append_assoc] at same
        cases List.append_cancel_left same
  rw [namedDeployment, line]
  simp only [Option.bind_eq_bind, Option.bind_some, other, Option.bind_none]

/-! ### The directory -/

/-- What is in the file of a project: a route that was written, the marker from before routes named
deployments, or a text of somebody else. -/
inductive SiteContent (projectId : Uuid) : Text → Prop where
  | modern (route : RouteSpec) (own : route.projectId = projectId) :
      SiteContent projectId (routeContent route)
  | legacy {content : Text} (marked : Text.startsWith content (legacyPrefix projectId) = true) :
      SiteContent projectId content
  | foreign {content : Text} (unmarked : Text.startsWith content (ownedPrefix projectId) = false) :
      SiteContent projectId content

/-- The project that the name of a file stands for. -/
def siteProject (name : Text) : Option Uuid :=
  (Text.stripEnd name siteSuffix).bind Uuid.parseText

theorem siteProject_siteName (projectId : Uuid) : siteProject (siteName projectId) = some projectId := by
  rw [siteProject, siteName, Text.stripEnd_append, Option.bind_some, Uuid.parseText_toText]

theorem siteName_injective {first second : Uuid} (same : siteName first = siteName second) :
    first = second := by
  have read := siteProject_siteName first
  rw [same, siteProject_siteName] at read
  exact (Option.some.inj read).symm

namespace Files

/-- A directory of sites: it has finitely many entries, and each file named after a project has the name
that is given to it and one of the known contents. Anything may be under the other names, and anything
but a file under these. -/
structure Orderly (files : Files) : Prop where
  finite : {name | files (.site name) ≠ none}.Finite
  named : ∀ name content projectId, files (.site name) = some (.file content) →
    siteProject name = some projectId → name = siteName projectId
  known : ∀ content projectId, files (siteFile projectId) = some (.file content) →
    content.invalid = [] ∧ SiteContent projectId content.text

/-- The file of the project is that of the deployment, or one from before routes named deployments. -/
def HoldsRoute (files : Files) (projectId : Uuid) : Option Uuid → Prop
  | some deploymentId => ∃ route : RouteSpec, route.projectId = projectId ∧
      route.deploymentId = deploymentId ∧
        files (siteFile projectId) = some (.file { text := routeContent route })
  | none => ∃ content : FileContent, files (siteFile projectId) = some (.file content) ∧
      Text.startsWith content.text (legacyPrefix projectId) = true

/-- The search tells what a file holds. -/
theorem Orderly.holdsRoute_iff {files : Files} (orderly : files.Orderly) {projectId : Uuid}
    {content : FileContent} (found : files (siteFile projectId) = some (.file content))
    (deploymentId : Option Uuid) : files.HoldsRoute projectId deploymentId ↔
      Text.startsWith content.text (ownedPrefix projectId) = true ∧
        namedDeployment projectId content.text = deploymentId := by
  obtain ⟨text, invalid⟩ := content
  obtain ⟨valid, known⟩ := orderly.known _ _ found
  dsimp only at valid known ⊢
  subst valid
  constructor
  · intro holds
    cases deploymentId with
    | some deploymentId =>
        obtain ⟨route, rfl, rfl, present⟩ := holds
        cases Option.some.inj (found.symm.trans present)
        exact ⟨startsWith_ownedPrefix route, namedDeployment_routeContent route⟩
    | none =>
        obtain ⟨content, present, marked⟩ := holds
        cases Option.some.inj (found.symm.trans present)
        exact ⟨startsWith_ownedPrefix_of_legacy marked, namedDeployment_of_legacy marked⟩
  · rintro ⟨owned, rfl⟩
    cases known with
    | modern route own =>
        subst own
        rw [namedDeployment_routeContent]
        exact ⟨route, rfl, rfl, found⟩
    | legacy marked =>
        rw [namedDeployment_of_legacy marked]
        exact ⟨_, found, marked⟩
    | foreign unmarked =>
        rw [unmarked] at owned
        cases owned

theorem HoldsRoute.exists_file {files : Files} {projectId : Uuid} {deploymentId : Option Uuid}
    (holds : files.HoldsRoute projectId deploymentId) :
    ∃ content : FileContent, files (siteFile projectId) = some (.file content) := by
  cases deploymentId with
  | some deploymentId =>
      obtain ⟨route, _, _, present⟩ := holds
      exact ⟨_, present⟩
  | none =>
      obtain ⟨content, present, _⟩ := holds
      exact ⟨content, present⟩

end Files

/-- The workload of the route is known, or some workload of the project is. -/
def KnownRoute (known : List RouteIdentity) (projectId : Uuid) : Option Uuid → Prop
  | some deploymentId => { projectId, deploymentId := some deploymentId } ∈ known
  | none => ∃ identity ∈ known, identity.projectId = projectId

theorem isKnown_iff (known : List RouteIdentity) (projectId : Uuid) (deploymentId : Option Uuid) :
    isKnown known projectId deploymentId = true ↔ KnownRoute known projectId deploymentId := by
  cases deploymentId with
  | some deploymentId => exact List.contains_iff_mem
  | none => simp [isKnown, KnownRoute]

namespace Files

/-- A stale route: it is in its file, and its workload is not known. -/
structure IsStale (files : Files) (manager : RouteManager) (known : List RouteIdentity)
    (route : RuntimeStaleRoute) : Prop where
  path : route.path = manager.display (siteName route.projectId)
  holds : files.HoldsRoute route.projectId route.deploymentId
  unknown : ¬KnownRoute known route.projectId route.deploymentId

/-- The stale routes, each of them once. -/
structure StaleExactly (files : Files) (manager : RouteManager) (known : List RouteIdentity)
    (stale : List RuntimeStaleRoute) : Prop where
  distinct : (stale.map RuntimeStaleRoute.projectId).Nodup
  exact : ∀ route, route ∈ stale ↔ files.IsStale manager known route

/-- The sites are those there were, but for the ones of these routes. -/
def SitesWithout (files files' : Files) (routes : List RuntimeStaleRoute) : Prop :=
  ∀ name, files' (.site name) =
    if ∃ route ∈ routes, siteName route.projectId = name then none else files (.site name)

/-- A listing that shows the directory of the sites as it is. -/
def Lists (files : Files) : Except IoError (List (Text × FileKind)) → Prop
  | .ok entries => (entries.map Prod.fst).Nodup ∧
      ∀ name, files (.site name) ≠ none → name ∈ entries.map Prod.fst
  | .error error => error.notFound = true ∧ ∀ name, files (.site name) = none

/-- What happens begins with a listing that shows the directory of the sites as it is. -/
def ShownFirst (files : Files) (h : History Runtime) : Prop :=
  ∃ res, h.head? = some (.done (.file (.readDir .sites)) res) ∧ files.Lists res

end Files

/-! ### The search -/

section Search

variable {thread : ThreadId} {node node' : Node} {h : History Runtime} {manager : RouteManager}
  {known : List RouteIdentity}

/-- A file that is there is read, if it is a text. -/
theorem wp_readToString {path : FilePath} {content : FileContent}
    (found : node.files path = some (.file content)) (valid : content.invalid = [])
    (alone : node.inFlight = []) :
    Prog.wp (obliging thread) (fun outcome node' _ => outcome = .ok content.text ∧ node' = node)
      (fun _ _ => True) (readToString path).run node h := by
  apply Fallible.wp_bind.mpr
  apply wp_obliging alone
  rintro (error | read) node' step obliges _
  · exact absurd found (obliges.2 content)
  · obtain ⟨files, ⟨rfl, present⟩, rfl⟩ := step
    cases Option.some.inj (found.symm.trans present)
    have isText : content.invalid.isEmpty = true := by rw [valid, List.isEmpty_nil]
    show Prog.wp (obliging thread) _ _ (if content.invalid.isEmpty then pure content.text
      else throw _ : RuntimeM Text).run _ _
    rw [if_pos isText]
    exact ⟨rfl, rfl⟩

/-- One entry of the directory is stale, or nothing is reported of it. -/
theorem wp_inspectEntry (orderly : node.files.Orderly) (alone : node.inFlight = []) {name : Text}
    {kind : FileKind} (listed : (node.files (.site name)).map FileEntry.kind = some kind) :
    Prog.wp (obliging thread) (fun outcome node' _ => node' = node ∧ ∃ found, outcome = .ok found ∧
        ∀ route, found = some route ↔
          node.files.IsStale manager known route ∧ siteName route.projectId = name)
      (fun _ _ => True) (manager.inspectEntry known name kind).run node h := by
  unfold inspectEntry
  split
  · rename_i projectId stem
    obtain ⟨content, present⟩ : ∃ content : FileContent,
        node.files (.site name) = some (.file content) := by
      obtain ⟨entry, present, regular⟩ := Option.map_eq_some_iff.mp listed
      cases entry with
      | file content => exact ⟨content, present⟩
      | directory | other => cases regular
    obtain rfl := orderly.named name content projectId present stem
    have valid := (orderly.known content projectId present).1
    have holds := orderly.holdsRoute_iff present
    -- a route of this name is one of this project
    have ofProject : ∀ route : RuntimeStaleRoute, siteName route.projectId = siteName projectId →
        route.projectId = projectId := fun route => siteName_injective
    apply Fallible.wp_bind.mpr
    apply Prog.wp_mono (wp_readToString present valid alone)
    · rintro outcome after h ⟨rfl, rfl⟩
      dsimp only
      split
      · rename_i unowned
        refine ⟨rfl, none, rfl, fun route => ⟨nofun, ?_⟩⟩
        rintro ⟨stale, same⟩
        obtain rfl := ofProject route same
        have owned := ((holds _).mp stale.holds).1
        rw [owned] at unowned
        cases unowned
      · rename_i notUnowned
        have owned : Text.startsWith content.text (ownedPrefix projectId) = true := by
          simpa using notUnowned
        split
        · rename_i isKnown
          refine ⟨rfl, none, rfl, fun route => ⟨nofun, ?_⟩⟩
          rintro ⟨stale, same⟩
          obtain rfl := ofProject route same
          have named := ((holds _).mp stale.holds).2
          rw [named] at isKnown
          exact absurd ((isKnown_iff ..).mp isKnown) stale.unknown
        · rename_i unknown
          refine ⟨rfl, _, rfl, fun route => ⟨?_, ?_⟩⟩
          · intro same
            cases same
            exact ⟨⟨rfl, (holds _).mpr ⟨owned, rfl⟩, fun isKnown =>
              unknown ((isKnown_iff ..).mpr isKnown)⟩, rfl⟩
          · rintro ⟨⟨path, held, _⟩, same⟩
            obtain ⟨display, project, deployment⟩ := route
            obtain rfl : project = projectId := siteName_injective same
            have printed : display = manager.display (siteName project) := path
            have named : namedDeployment project content.text = deployment := ((holds _).mp held).2
            rw [printed, named]
    · exact fun _ _ _ => trivial
  · rename_i other
    refine ⟨rfl, none, rfl, fun route => ⟨nofun, ?_⟩⟩
    rintro ⟨stale, rfl⟩
    obtain ⟨content, present⟩ := stale.holds.exists_file
    rw [show FilePath.site (siteName route.projectId) = siteFile route.projectId from rfl, present]
      at listed
    cases listed
    exact absurd (siteProject_siteName route.projectId) (other route.projectId rfl)

/-- The stale routes among the entries of a listing. -/
theorem wp_inspectEntries (orderly : node.files.Orderly) (alone : node.inFlight = [])
    {entries : List (Text × FileKind)} (distinct : (entries.map Prod.fst).Nodup)
    (listed : ∀ name kind, (name, kind) ∈ entries →
      (node.files (.site name)).map FileEntry.kind = some kind) :
    Prog.wp (obliging thread) (fun outcome node' _ => node' = node ∧ ∃ stale, outcome = .ok stale ∧
        (stale.map RuntimeStaleRoute.projectId).Nodup ∧ ∀ route, route ∈ stale ↔
          node.files.IsStale manager known route ∧
            siteName route.projectId ∈ entries.map Prod.fst)
      (fun _ _ => True) (manager.inspectEntries known entries).run node h := by
  induction entries generalizing h with
  | nil =>
      refine ⟨rfl, [], rfl, List.nodup_nil, fun route => ⟨nofun, ?_⟩⟩
      rintro ⟨_, member⟩
      cases member
  | cons entry entries ih =>
      obtain ⟨name, kind⟩ := entry
      obtain ⟨fresh, distinct⟩ := List.nodup_cons.mp distinct
      apply Fallible.wp_bind.mpr
      apply Prog.wp_mono (wp_inspectEntry orderly alone (listed name kind List.mem_cons_self))
      · rintro outcome after h ⟨rfl, found, rfl, exact⟩
        apply Fallible.wp_bind.mpr
        apply Prog.wp_mono (ih distinct fun name kind member =>
          listed name kind (List.mem_cons_of_mem _ member))
        · rintro outcome after h ⟨rfl, rest, rfl, once, others⟩
          refine ⟨rfl, found.toList ++ rest, rfl, ?_, ?_⟩
          · cases found with
            | none => exact once
            | some route =>
                have named := ((exact route).mp rfl).2
                apply List.nodup_cons.mpr
                refine ⟨fun member => ?_, once⟩
                obtain ⟨other, isRest, same⟩ := List.mem_map.mp member
                have again := ((others other).mp isRest).2
                rw [same, named] at again
                exact fresh again
          · intro route
            rw [List.mem_append, Option.mem_toList, exact, others, List.map_cons, List.mem_cons]
            exact and_or_left.symm
        · exact fun _ _ _ => trivial
      · exact fun _ _ _ => trivial

/-- What the search makes of a listing. -/
def inspectListing (manager : RouteManager) (known : List RouteIdentity) :
    Except IoError (List (Text × FileKind)) → RuntimeM (List RuntimeStaleRoute)
  | .ok entries => manager.inspectEntries known entries
  | .error error => if error.notFound then return [] else throw (.filesystem error)

theorem discoverStaleRoutes_eq : manager.discoverStaleRoutes known =
    Fallible.perform (I := Runtime) (.file (.readDir .sites)) >>= inspectListing manager known :=
  rfl

theorem cleanupStaleRoutes_eq : manager.cleanupStaleRoutes known =
    Fallible.perform (I := Runtime) (.file (.readDir .sites)) >>= fun res =>
      inspectListing manager known res >>= manager.removeStaleRoutes :=
  rfl

/-- What follows a listing that shows the whole directory. -/
theorem wp_inspectListing (orderly : node.files.Orderly) (alone : node.inFlight = [])
    {res : Except IoError (List (Text × FileKind))} (lists : node.files.Lists res)
    (step : node.step thread (.file (.readDir .sites)) res node') :
    Prog.wp (obliging thread) (fun outcome node' _ => node' = node ∧ ∃ stale, outcome = .ok stale ∧
        node.files.StaleExactly manager known stale)
      (fun _ _ => True) (inspectListing manager known res).run node' h := by
  obtain ⟨files, listing, rfl⟩ := step
  cases res with
  | error error =>
      obtain ⟨missing, empty⟩ := lists
      obtain rfl : files = node.files := listing
      unfold inspectListing
      dsimp only
      rw [if_pos missing]
      refine ⟨rfl, [], rfl, List.nodup_nil, fun route => ⟨nofun, fun stale => ?_⟩⟩
      obtain ⟨content, present⟩ := stale.holds.exists_file
      rw [siteFile, empty] at present
      cases present
  | ok entries =>
      obtain ⟨distinct, complete⟩ := lists
      obtain ⟨rfl, listed⟩ := listing
      apply Prog.wp_mono (wp_inspectEntries orderly alone distinct listed)
      · rintro outcome after h ⟨rfl, stale, rfl, once, exact⟩
        refine ⟨rfl, stale, rfl, once, fun route => (exact route).trans ⟨And.left, ?_⟩⟩
        intro isStale
        obtain ⟨content, present⟩ := isStale.holds.exists_file
        refine ⟨isStale, complete _ fun absent => ?_⟩
        rw [siteFile, absent] at present
        cases present
      · exact fun _ _ _ => trivial

/-! ### The cleanup -/

theorem Files.HoldsRoute.of_same {files files' : Files} {projectId : Uuid}
    {deploymentId : Option Uuid} (holds : files.HoldsRoute projectId deploymentId)
    (same : files' (siteFile projectId) = files (siteFile projectId)) :
    files'.HoldsRoute projectId deploymentId := by
  cases deploymentId with
  | some deploymentId =>
      obtain ⟨route, own, names, present⟩ := holds
      exact ⟨route, own, names, same.trans present⟩
  | none =>
      obtain ⟨content, present, marked⟩ := holds
      exact ⟨content, same.trans present, marked⟩

/-- The route manager takes a file with the route away: it is owned, and it is still the one. -/
theorem Files.HoldsRoute.isTaken {files : Files} {projectId : Uuid} {deploymentId : Option Uuid}
    (holds : files.HoldsRoute projectId deploymentId) :
    ∃ content : FileContent, files (siteFile projectId) = some (.file content) ∧
      (!Text.startsWith content.text (legacyPrefix projectId) &&
        !Text.startsWith content.text (currentPrefix projectId)) = false ∧
      RouteIdentity.leaves { projectId, deploymentId } content = false := by
  cases deploymentId with
  | some deploymentId =>
      obtain ⟨route, rfl, rfl, present⟩ := holds
      refine ⟨_, present, ?_, ?_⟩
      · rw [startsWith_currentPrefix, Bool.not_true, Bool.and_false]
      · simp only [RouteIdentity.leaves, startsWith_deploymentPrefix, Bool.not_true]
  | none =>
      obtain ⟨content, present, marked⟩ := holds
      refine ⟨content, present, ?_, ?_⟩
      · rw [marked, Bool.not_true, Bool.false_and]
      · simp only [RouteIdentity.leaves, marked, Bool.not_true]

theorem wp_removeRoute_held {projectId : Uuid} {deploymentId : Option Uuid}
    (holds : node.files.HoldsRoute projectId deploymentId) (alone : node.inFlight = []) :
    Prog.wp (obliging thread) (fun outcome node' _ => node'.inFlight = [] ∧
        node'.files = Function.update node.files (siteFile projectId) none ∧
        ∃ snapshot : RouteSnapshot, outcome = .ok snapshot ∧ snapshot.changed = true)
      (fun _ _ => True) (manager.removeRoute { projectId, deploymentId }).run node h := by
  obtain ⟨content, present, owned, same⟩ := holds.isTaken
  apply Fallible.wp_bind.mpr
  apply Prog.wp_mono (wp_readIfPresent_obliging _ alone)
  · rintro (error | found) after h ⟨alone, _, files, read⟩
    · obtain ⟨entry, isEntry, noFile⟩ := read
      obtain rfl := Option.some.inj (isEntry.symm.trans present)
      exact absurd rfl (noFile content)
    · obtain rfl : found = some content := by
        have read : node.files (siteFile projectId) = found.map .file := read
        rw [present] at read
        obtain ⟨other, rfl, same⟩ := Option.map_eq_some_iff.mp read.symm
        cases same
        rfl
      dsimp only
      rw [owned, if_neg Bool.false_ne_true, same, if_neg Bool.false_ne_true]
      apply Fallible.wp_bind.mpr
      apply wp_obliging alone
      rintro (error | removed) last step obliges alone
      · have absent : after.files (siteFile projectId) = none := obliges
        rw [files, present] at absent
        cases absent
      · obtain ⟨_, ⟨_, rfl⟩, rfl⟩ := step
        exact ⟨alone, by rw [files], _, rfl, rfl⟩
  · exact fun _ _ _ => trivial

/-- A route that is still in its file is taken away, and nothing else. -/
theorem wp_deactivate_held {route : RuntimeStaleRoute}
    (holds : node.files.HoldsRoute route.projectId route.deploymentId) (alone : node.inFlight = []) :
    Prog.wp (obliging thread) (fun outcome node' _ => node'.inFlight = [] ∧ outcome = .ok true ∧
        node.files.SitesWithout node'.files [route])
      (fun _ _ => True)
      (manager.deactivate
        { projectId := route.projectId, deploymentId := route.deploymentId }).run node h := by
  apply wp_obliging alone
  rintro _ locked ⟨_, isLocked⟩ _ alone
  have same : locked.files = node.files := by rw [isLocked]
  have inside : locked.files.HoldsRoute route.projectId route.deploymentId :=
    holds.of_same (congrFun same _)
  apply Fallible.wp_attempt.mpr
  apply Fallible.wp_bind.mpr
  apply Prog.wp_mono (wp_removeRoute_held inside alone)
  · rintro outcome taken h ⟨alone, files, snapshot, rfl, changed⟩
    dsimp only
    rw [if_pos changed]
    apply Fallible.wp_bind.mpr
    apply Fallible.wp_attempt.mpr
    apply Prog.wp_mono (wp_validateAndReload manager alone)
    · rintro outcome after h ⟨beside, rfl, _⟩
      apply wp_obliging beside.alone
      intro _ given step _ alone
      obtain rfl : given = _ := step
      refine ⟨alone, rfl, fun name => ?_⟩
      have site : after.files (.site name) = taken.files (.site name) := beside.sites name
      simp only [List.mem_singleton, exists_eq_left]
      refine site.trans ?_
      rw [files, same]
      by_cases same : siteName route.projectId = name
      · subst same
        rw [if_pos rfl]
        exact Function.update_self ..
      · rw [if_neg same]
        apply Function.update_of_ne
        intro isSite
        cases isSite
        exact same rfl
    · exact fun _ _ _ => trivial
  · exact fun _ _ _ => trivial

theorem wp_removeStaleRoutes {routes : List RuntimeStaleRoute}
    (distinct : (routes.map RuntimeStaleRoute.projectId).Nodup)
    (holds : ∀ route ∈ routes, node.files.HoldsRoute route.projectId route.deploymentId)
    (alone : node.inFlight = []) :
    Prog.wp (obliging thread) (fun outcome node' _ => outcome = .ok routes.length ∧
        node.files.SitesWithout node'.files routes)
      (fun _ _ => True) (manager.removeStaleRoutes routes).run node h := by
  induction routes generalizing node h with
  | nil => exact ⟨rfl, fun name => by simp⟩
  | cons route routes ih =>
      obtain ⟨fresh, distinct⟩ := List.nodup_cons.mp distinct
      apply Fallible.wp_bind.mpr
      apply Prog.wp_mono (wp_deactivate_held (holds route List.mem_cons_self) alone)
      · rintro outcome after h ⟨alone, rfl, without⟩
        -- the files of the other routes are as they were
        have others : ∀ other ∈ routes,
            after.files.HoldsRoute other.projectId other.deploymentId := by
          intro other member
          apply (holds other (List.mem_cons_of_mem _ member)).of_same
          refine (without _).trans (if_neg ?_)
          rintro ⟨removed, isRoute, same⟩
          obtain rfl := List.mem_singleton.mp isRoute
          rw [siteName_injective same] at fresh
          exact fresh (List.mem_map_of_mem member)
        apply Fallible.wp_bind.mpr
        apply Prog.wp_mono (ih distinct others alone)
        · rintro outcome last h ⟨rfl, rest⟩
          refine ⟨rfl, fun name => ?_⟩
          rw [rest name, without name]
          by_cases later : ∃ other ∈ routes, siteName other.projectId = name
          · obtain ⟨other, member, same⟩ := later
            rw [if_pos ⟨other, member, same⟩,
              if_pos ⟨other, List.mem_cons_of_mem _ member, same⟩]
          · rw [if_neg later]
            simp only [List.mem_singleton, exists_eq_left, List.exists_mem_cons_iff, later, or_false]
        · exact fun _ _ _ => trivial
      · exact fun _ _ _ => trivial

/-! ### Runs that there are -/

theorem free_inspectEntry (name : Text) (kind : FileKind) :
    Fallible.AllOps IsFree (manager.inspectEntry known name kind) := by
  unfold inspectEntry
  split
  · apply Fallible.allOps_bind
    · apply Fallible.allOps_bind (free_fileOp _)
      intro content
      split <;> trivial
    · intro content
      dsimp only
      split
      · trivial
      · split <;> trivial
  · trivial

theorem free_inspectEntries (entries : List (Text × FileKind)) :
    Fallible.AllOps IsFree (manager.inspectEntries known entries) := by
  induction entries with
  | nil => trivial
  | cons entry entries ih =>
      apply Fallible.allOps_bind (free_inspectEntry entry.1 entry.2)
      intro found
      exact Fallible.allOps_bind ih fun rest => trivial

theorem runs_removeStaleRoutes (thread : ThreadId) (routes : List RuntimeStaleRoute)
    (unheld : node.holder .routes = none) (h : History Runtime) : ∃ outcome node' h',
      Exec (obliging thread) (manager.removeStaleRoutes routes).run node h outcome node' h' ∧
        node'.holder .routes = none := by
  induction routes generalizing node h with
  | nil => exact ⟨_, node, h, .ret _ _ _, unheld⟩
  | cons route routes ih =>
      apply Fallible.exists_exec_bind (runs_deactivate manager _ thread unheld h) _
        fun _ holds => holds
      intro removed after h unheld
      apply Fallible.exists_exec_bind (ih unheld h) _ fun _ holds => holds
      exact fun cleaned last h unheld => ⟨_, last, h, .ret _ _ _, unheld⟩

/-- An orderly directory can be listed. -/
theorem Files.Orderly.exists_listing {files : Files} (orderly : files.Orderly) :
    ∃ entries, files.Lists (.ok entries) ∧ files.Step files (.readDir .sites) (.ok entries) := by
  let names : List Text := orderly.finite.toFinset.toList
  have shown : ∀ name, name ∈ names ↔ files (.site name) ≠ none := by
    intro name
    rw [Finset.mem_toList, Set.Finite.mem_toFinset, Set.mem_ofPred_eq]
  let kind (name : Text) : FileKind := ((files (.site name)).map FileEntry.kind).getD .other
  have first : (names.map fun name => (name, kind name)).map Prod.fst = names := by
    rw [List.map_map]
    exact List.map_id names
  refine ⟨names.map fun name => (name, kind name), ⟨?_, ?_⟩, rfl, ?_⟩
  · rw [first]
    exact Finset.nodup_toList _
  · intro name present
    rw [first]
    exact (shown name).mpr present
  · intro name listed member
    obtain ⟨other, isShown, same⟩ := List.mem_map.mp member
    cases same
    obtain ⟨entry, present⟩ := Option.ne_none_iff_exists'.mp ((shown name).mp isShown)
    simp only [Files.child, kind, present, Option.map_some, Option.getD_some]

end Search

/-! ### Exactness -/

/-- When the surroundings oblige and nothing else runs, a future comes to an end, and wherever it does
after a listing that showed the whole directory the condition holds. -/
def Browses {α : Type} (thread : ThreadId) (node : Node) (future : RuntimeM α)
    (P : Except RuntimeError α → Node → Prop) : Prop :=
  (∃ outcome node' h, Exec (obliging thread) future.run node [] outcome node' h ∧
      node.files.ShownFirst h) ∧
    ∀ outcome node' h, Exec (obliging thread) future.run node [] outcome node' h →
      node.files.ShownFirst h → P outcome node'

/-- A future that begins with the listing. -/
theorem browses_of_listed {α : Type} {thread : ThreadId} {node : Node}
    {f : Except IoError (List (Text × FileKind)) → RuntimeM α}
    {P : Except RuntimeError α → Node → Prop} (orderly : node.files.Orderly)
    (alone : node.inFlight = [])
    (runs : ∀ entries h, ∃ outcome node' h',
      Exec (obliging thread) (f (.ok entries)).run node h outcome node' h')
    (ends : ∀ res node' h, node.files.Lists res →
      node.step thread (.file (.readDir .sites)) res node' →
        Prog.wp (obliging thread) (fun outcome node' _ => P outcome node') (fun _ _ => True)
          (f res).run node' h) :
    Browses thread node (Fallible.perform (I := Runtime) (.file (.readDir .sites)) >>= f) P := by
  have begins : ∀ {res : Except IoError (List (Text × FileKind))} {h : History Runtime},
      [.done (.file (.readDir .sites)) res] <+: h →
        h.head? = some (.done (.file (.readDir .sites)) res) := by
    rintro res h ⟨rest, rfl⟩
    rfl
  constructor
  · obtain ⟨entries, lists, step⟩ := orderly.exists_listing
    obtain ⟨outcome, node', h, rest⟩ :=
      runs entries [.done (.file (.readDir .sites)) (.ok entries)]
    refine ⟨outcome, node', h, ?_, .ok entries, begins (Prog.prefix_of_exec rest), lists⟩
    exact .call (.refl node) (.ok entries) ⟨⟨node.files, step, rfl⟩, trivial⟩ rest
  · rintro outcome node' h run ⟨_, head, lists⟩
    obtain ⟨node₀, res, node₁, drifts, step, rest⟩ := Prog.exec_call run
    obtain rfl := Node.eq_of_drifts rfl alone drifts
    have first := begins (Prog.prefix_of_exec rest)
    rw [first] at head
    cases head
    exact Prog.wp_sound _ rest (ends _ node₁ _ lists step.1)

/-- The search for stale routes reports each of them, once, and nothing else; their cleanup takes away
exactly their files, and returns how many there are. -/
theorem stale_routes_exact (manager : RouteManager) (known : List RouteIdentity) (thread : ThreadId)
    (node : Node) (orderly : node.files.Orderly) (alone : node.inFlight = [])
    (unheld : node.holder .routes = none) :
    Browses thread node (manager.discoverStaleRoutes known) (fun outcome node' => node' = node ∧
      ∃ stale, outcome = .ok stale ∧ node.files.StaleExactly manager known stale) ∧
    Browses thread node (manager.cleanupStaleRoutes known) (fun outcome node' =>
      ∃ stale, node.files.StaleExactly manager known stale ∧ outcome = .ok stale.length ∧
        node.files.SitesWithout node'.files stale) := by
  have searched : ∀ entries h, ∃ outcome node' h', Exec (obliging thread)
      (inspectListing manager known (.ok entries)).run node h outcome node' h' ∧
        node'.holder .routes = none := by
    intro entries h
    have free : Fallible.AllOps IsFree (inspectListing manager known (.ok entries)) :=
      free_inspectEntries entries
    obtain ⟨outcome, node', h', run, same⟩ := runs_of_free free thread node h
    exact ⟨outcome, node', h', run, by rw [same, unheld]⟩
  constructor
  · rw [discoverStaleRoutes_eq]
    apply browses_of_listed orderly alone
    · intro entries h
      obtain ⟨outcome, node', h', run, _⟩ := searched entries h
      exact ⟨outcome, node', h', run⟩
    · exact fun res node' h lists step => wp_inspectListing orderly alone lists step
  · rw [cleanupStaleRoutes_eq]
    apply browses_of_listed orderly alone
    · intro entries h
      have cleaned : ∃ outcome node' h', Exec (obliging thread)
          (inspectListing manager known (.ok entries) >>= manager.removeStaleRoutes).run node h
            outcome node' h' ∧ node'.holder .routes = none :=
        Fallible.exists_exec_bind (searched entries h)
          (fun stale _ h unheld => runs_removeStaleRoutes thread stale unheld h) fun _ holds => holds
      obtain ⟨outcome, node', h', run, _⟩ := cleaned
      exact ⟨outcome, node', h', run⟩
    · intro res node' h lists step
      apply Fallible.wp_bind.mpr
      apply Prog.wp_mono (wp_inspectListing orderly alone lists step)
      · rintro outcome after h ⟨rfl, stale, rfl, exactly⟩
        have holds : ∀ route ∈ stale,
            after.files.HoldsRoute route.projectId route.deploymentId :=
          fun route member => ((exactly.exact route).mp member).holds
        apply Prog.wp_mono (wp_removeStaleRoutes exactly.distinct holds alone)
        · exact fun _ _ _ ⟨count, without⟩ => ⟨stale, exactly, count, without⟩
        · exact fun _ _ _ => trivial
      · exact fun _ _ _ => trivial

namespace Sample

/-- A route, and the file of somebody else. -/
def sites : Files
  | .site name =>
      if name = siteName (uuid 1) then some (.file { text := routeContent (deployment 1).route })
      else if name = siteName (uuid 2) then
        some (.file { text := "# owned by another system\n".toList })
      else none
  | _ => none

theorem sites_present {name : Text} {entry : FileEntry} (present : sites (.site name) = some entry) :
    (name = siteName (uuid 1) ∧ entry = .file { text := routeContent (deployment 1).route }) ∨
      (name = siteName (uuid 2) ∧ entry = .file { text := "# owned by another system\n".toList }) := by
  simp only [sites] at present
  split at present
  · rename_i first
    exact .inl ⟨first, (Option.some.inj present).symm⟩
  · split at present
    · rename_i second
      exact .inr ⟨second, (Option.some.inj present).symm⟩
    · cases present

theorem orderly_sites : sites.Orderly where
  finite := by
    apply Set.Finite.subset (Set.toFinite {siteName (uuid 1), siteName (uuid 2)})
    intro name there
    obtain ⟨entry, present⟩ := Option.ne_none_iff_exists'.mp there
    rcases sites_present present with ⟨first, _⟩ | ⟨second, _⟩
    · exact .inl first
    · exact .inr second
  named := by
    intro name content projectId present stem
    rcases sites_present present with ⟨rfl, _⟩ | ⟨rfl, _⟩
    · rw [siteProject_siteName] at stem
      rw [Option.some.inj stem]
    · rw [siteProject_siteName] at stem
      rw [Option.some.inj stem]
  known := by
    intro content projectId present
    rcases sites_present present with ⟨first, same⟩ | ⟨second, same⟩
    · cases same
      obtain rfl := siteName_injective first
      exact ⟨rfl, .modern (deployment 1).route rfl⟩
    · cases same
      obtain rfl := siteName_injective second
      exact ⟨rfl, .foreign (by decide)⟩

theorem sites_first : sites (siteFile (uuid 1)) =
    some (.file { text := routeContent (deployment 1).route }) := by
  simp only [sites, siteFile, if_true]

theorem sites_second : sites (siteFile (uuid 2)) =
    some (.file { text := "# owned by another system\n".toList }) := by
  have other : siteName (uuid 2) ≠ siteName (uuid 1) := by decide
  simp only [sites, siteFile, if_neg other, if_true]

theorem stale_sites : sites.IsStale executor.routes []
    { path := executor.routes.display (siteName (uuid 1))
      projectId := uuid 1
      deploymentId := some (uuid 1) } where
  path := rfl
  holds := ⟨(deployment 1).route, rfl, rfl, sites_first⟩
  unknown := nofun

end Sample

/-- The route without a workload is taken away, and the other file is left. -/
theorem stale_routes_exact_sample :
    Browses 0 { Sample.node with files := Sample.sites }
      (Sample.executor.routes.cleanupStaleRoutes []) fun outcome node' => outcome.isOk = true ∧
        node'.files (siteFile (Sample.uuid 1)) = none ∧
        node'.files (siteFile (Sample.uuid 2)) = Sample.sites (siteFile (Sample.uuid 2)) := by
  obtain ⟨_, runs, ends⟩ := stale_routes_exact Sample.executor.routes [] 0
    { Sample.node with files := Sample.sites } Sample.orderly_sites rfl rfl
  refine ⟨runs, fun outcome node' h run shown => ?_⟩
  obtain ⟨stale, exactly, rfl, without⟩ := ends outcome node' h run shown
  have removed := (exactly.exact _).mpr Sample.stale_sites
  have spared : ¬∃ route ∈ stale, siteName route.projectId = siteName (Sample.uuid 2) := by
    rintro ⟨route, member, same⟩
    obtain ⟨path, project, deployment⟩ := route
    obtain rfl : project = Sample.uuid 2 := siteName_injective same
    have holds := ((exactly.exact _).mp member).holds
    have owned := ((Sample.orderly_sites.holdsRoute_iff Sample.sites_second _).mp holds).1
    cases owned
  exact ⟨rfl, (without _).trans (if_pos ⟨_, removed, rfl⟩), (without _).trans (if_neg spared)⟩

end SakalaAgent
