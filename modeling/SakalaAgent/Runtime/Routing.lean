/-
Module: SakalaAgent.Runtime.Routing
Layer: Runtime
Purpose: The routes of the node: one file for each project, written, taken away and looked over by
  the route manager, and the reloads that make the router read them.
Trusted boundary: the entries of the directory are listed in one piece; the code reads them in
  chunks while it reads the files.
Main exports: RouteIdentity, RouteSpec, RouteManager, RouteManager.activate,
  RouteManager.deactivate, RouteManager.cleanupStaleRoutes
-/
import SakalaAgent.Runtime.Containers

namespace SakalaAgent

open Async

/-- A route is that of a deployment, or the one of a project from before routes named deployments. -/
structure RouteIdentity where
  projectId : Uuid
  deploymentId : Option Uuid
deriving DecidableEq

structure RouteSpec where
  projectId : Uuid
  deploymentId : Uuid
  domain : String
  upstream : Text
  port : UInt16

/-- A route file that belongs to no known workload. -/
structure RuntimeStaleRoute where
  path : String
  projectId : Uuid
  deploymentId : Option Uuid
deriving DecidableEq

/-! ### Route files -/

def managedRoutePrefix : Text := "# Managed by sakala-agent for project ".toList

def siteSuffix : Text := ".Caddyfile".toList

/-- The name of the route file of a project. -/
def siteName (projectId : Uuid) : Text :=
  projectId.toText ++ siteSuffix

def siteFile (projectId : Uuid) : FilePath :=
  .site (siteName projectId)

/-- Where a route file is written before it takes its place. -/
def temporarySiteFile (projectId : Uuid) : FilePath :=
  .site ('.' :: (siteName projectId ++ ".tmp".toList))

/-- What the route files of a project begin with. -/
def ownedPrefix (projectId : Uuid) : Text :=
  managedRoutePrefix ++ projectId.toText

def legacyPrefix (projectId : Uuid) : Text :=
  ownedPrefix projectId ++ ".".toList

def currentPrefix (projectId : Uuid) : Text :=
  ownedPrefix projectId ++ " deployment ".toList

/-- What the route file of a deployment begins with. -/
def deploymentPrefix (projectId deploymentId : Uuid) : Text :=
  currentPrefix projectId ++ (deploymentId.toText ++ ".".toList)

/-- The content of a route file. -/
def routeContent (route : RouteSpec) : Text :=
  deploymentPrefix route.projectId route.deploymentId ++ ('\n' :: (route.domain.toList ++
    (":80 \x7b\n\treverse_proxy ".toList ++ (route.upstream ++
      (':' :: (natText route.port.toNat ++ "\n\x7d\n".toList))))))

/-- What has to be put back when a change of a route file is not accepted. -/
structure RouteSnapshot where
  path : FilePath
  previous : Option FileContent
  changed : Bool

/-- The content of a file, if there is one. -/
def readIfPresent (path : FilePath) : RuntimeM (Option FileContent) := do
  let content : Except IoError FileContent ← tryFileOp (.read path)
  match content with
  | .ok content => return some content
  | .error error => if error.notFound then return none else throw (.filesystem error)

def writeRoute (route : RouteSpec) : RuntimeM RouteSnapshot := do
  fileOp (.createDirAll .sites)
  let previous ← readIfPresent (siteFile route.projectId)
  fileOp (.write (temporarySiteFile route.projectId) { text := routeContent route })
  fileOp (.rename (temporarySiteFile route.projectId) (siteFile route.projectId))
  return { path := siteFile route.projectId, previous, changed := true }

def RouteSnapshot.restore (snapshot : RouteSnapshot) : RuntimeM Unit :=
  match snapshot.previous with
  | some content => fileOp (.write snapshot.path content)
  | none => do
      let removed : Except IoError Unit ← tryFileOp (.removeFile snapshot.path)
      match removed with
      | .ok _ => return ()
      | .error error => if error.notFound then return () else throw (.filesystem error)

/-- The file is not the one a route is to be taken away from. A legacy route found stale can have
been replaced since: no deployment means that it is still a legacy route. -/
def RouteIdentity.leaves (identity : RouteIdentity) (content : FileContent) : Bool :=
  match identity.deploymentId with
  | some deploymentId =>
      !Text.startsWith content.text (deploymentPrefix identity.projectId deploymentId)
  | none => !Text.startsWith content.text (legacyPrefix identity.projectId)

/-! ### The route manager -/

/-- The route manager: the path of the directory of the sites as it is printed, and the container of
the router. -/
structure RouteManager where
  sitesDir : String
  container : Text

namespace RouteManager

/-- A path in the directory of the sites as it is printed. -/
def display (manager : RouteManager) (name : Text) : String :=
  manager.sitesDir ++ "/" ++ String.ofList name

/-- A command for the router. -/
def command (manager : RouteManager) (action : String) : CommandSpec :=
  ContainerEngine.docker (.exec manager.container
    ["caddy", action, "--config", "/etc/caddy/Caddyfile", "--adapter", "caddyfile"])

def validateAndReload (manager : RouteManager) : RuntimeM Unit :=
  forM ["validate", "reload"] fun action => do
    let _ ← runChecked (manager.command action) ("caddy-" ++ action)
    return ()

def reloadAfterRollback (manager : RouteManager) : RuntimeM Unit := do
  let _ ← Fallible.attempt (ε := RuntimeError) (runProcess (manager.command "reload") .null)
  return ()

/-- The router has to accept a changed file, or the change is taken back. -/
def reloadOrRestore (manager : RouteManager) (snapshot : RouteSnapshot) : RuntimeM Unit := do
  let reloaded : Except RuntimeError Unit ← Fallible.attempt manager.validateAndReload
  match reloaded with
  | .ok _ => return ()
  | .error error => do
      snapshot.restore
      manager.reloadAfterRollback
      throw error

/-- A future under the mutation lock, which is given back however the future ends. -/
def locked {α : Type} (body : RuntimeM α) : RuntimeM α := do
  Fallible.perform (I := Runtime) (.lock .routes)
  let outcome : Except RuntimeError α ← Fallible.attempt body
  Fallible.perform (I := Runtime) (.release .routes)
  .ofExcept outcome

def activate (manager : RouteManager) (route : RouteSpec) : RuntimeM Unit :=
  locked do
    let snapshot ← writeRoute route
    manager.reloadOrRestore snapshot

def removeRoute (manager : RouteManager) (identity : RouteIdentity) : RuntimeM RouteSnapshot := do
  let path := siteFile identity.projectId
  let previous ← readIfPresent path
  match previous with
  | none => return { path, previous, changed := false }
  | some content =>
      if !Text.startsWith content.text (legacyPrefix identity.projectId) &&
          !Text.startsWith content.text (currentPrefix identity.projectId) then
        throw (.routing
          s!"refusing to delete route {manager.display (siteName identity.projectId)} because it is not owned by Sakala")
      else if identity.leaves content then return { path, previous, changed := false }
      else do
        fileOp (.removeFile path)
        return { path, previous, changed := true }

/-- Whether a route was taken away. -/
def deactivate (manager : RouteManager) (identity : RouteIdentity) : RuntimeM Bool :=
  locked do
    let snapshot ← manager.removeRoute identity
    if snapshot.changed then
      manager.reloadOrRestore snapshot
      return true
    else return false

/-! ### Stale routes -/

/-- A workload that is known keeps its route, and a known workload of the project keeps a route
that names no deployment. -/
def isKnown (known : List RouteIdentity) (projectId : Uuid) (deploymentId : Option Uuid) : Bool :=
  match deploymentId with
  | some deploymentId => known.contains { projectId, deploymentId := some deploymentId }
  | none => known.any fun identity => identity.projectId = projectId

/-- The deployment in the first line of a route file. -/
def namedDeployment (projectId : Uuid) (content : Text) : Option Uuid := do
  let line ← (Text.lines content).head?
  let value ← Text.stripStart line (currentPrefix projectId)
  let name ← Text.stripEnd value ['.']
  Uuid.parseText name

def readToString (path : FilePath) : RuntimeM Text := do
  let content : FileContent ← fileOp (.read path)
  if content.invalid.isEmpty then return content.text
  else throw (.filesystem ⟨false, "stream did not contain valid UTF-8"⟩)

/-- One entry of the directory of the sites. -/
def inspectEntry (manager : RouteManager) (known : List RouteIdentity) (name : Text)
    (kind : FileKind) : RuntimeM (Option RuntimeStaleRoute) :=
  match kind, (Text.stripEnd name siteSuffix).bind Uuid.parseText with
  | .regular, some projectId => do
      let content ← readToString (.site name)
      if !Text.startsWith content (ownedPrefix projectId) then return none
      else
        let deploymentId := namedDeployment projectId content
        if isKnown known projectId deploymentId then return none
        else return some { path := manager.display name, projectId, deploymentId }
  | _, _ => return none

def inspectEntries (manager : RouteManager) (known : List RouteIdentity) :
    List (Text × FileKind) → RuntimeM (List RuntimeStaleRoute)
  | [] => return []
  | (name, kind) :: entries => do
      let found ← manager.inspectEntry known name kind
      let rest ← manager.inspectEntries known entries
      return found.toList ++ rest

def discoverStaleRoutes (manager : RouteManager) (known : List RouteIdentity) :
    RuntimeM (List RuntimeStaleRoute) := do
  let entries : Except IoError (List (Text × FileKind)) ← tryFileOp (.readDir .sites)
  match entries with
  | .ok entries => manager.inspectEntries known entries
  | .error error => if error.notFound then return [] else throw (.filesystem error)

/-- How many of the stale routes were taken away. -/
def removeStaleRoutes (manager : RouteManager) : List RuntimeStaleRoute → RuntimeM Nat
  | [] => return 0
  | route :: routes => do
      let removed ← manager.deactivate
        { projectId := route.projectId, deploymentId := route.deploymentId }
      let cleaned ← manager.removeStaleRoutes routes
      return cleaned + if removed then 1 else 0

def cleanupStaleRoutes (manager : RouteManager) (known : List RouteIdentity) : RuntimeM Nat := do
  let stale ← manager.discoverStaleRoutes known
  manager.removeStaleRoutes stale

end RouteManager

end SakalaAgent
