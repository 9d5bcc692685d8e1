/-
Module: SakalaAgent.Proofs.Isolation
Layer: Proofs
Purpose: Projects are kept apart. However the commands of an executor take turns, fail, are cancelled
  and are dropped: as long as none of them concerns a project, the containers of that project, the tags
  of its images and its route stay as they are.
Trusted boundary: none
Main exports: Isolation.Concerns, DockerState.Identifies, Isolation.Intact, Isolation.Harmless,
  Isolation.given_perform, Isolation.projects_isolated
-/
import SakalaAgent.Async.Answers
import SakalaAgent.Proofs.PreviousContainers
import SakalaAgent.Proofs.RuntimeLocks
import SakalaAgent.Proofs.StaleRoutes
import SakalaAgent.Proofs.Workloads

namespace SakalaAgent

open Async

/-! ### Ids that tell containers apart -/

namespace DockerState

/-- The id that is printed of a container is not blank, and names no other. -/
def Identified (docker : DockerState) : Prop :=
  ∀ container ∈ docker.containers, Text.isBlank container.shortId = false ∧
    ∀ other ∈ docker.containers, other.Answers container.shortId → other = container

instance (docker : DockerState) : Decidable docker.Identified :=
  inferInstanceAs (Decidable (∀ container ∈ docker.containers, _ ∧ _))

/-- If the process lists containers, their ids tell them apart, and a listing of nothing but ids is not
cut off. -/
def Identifies (docker : DockerState) : CommandLine → Prop
  | .docker (.ps all true filters columns) => docker.Identified ∧
      Text.byteLength (docker.psOutput all true filters columns) ≤ maxCaptureBytes
  | .docker (.ps _ false _ _) => docker.Identified
  | _ => True

instance (docker : DockerState) (line : CommandLine) : Decidable (docker.Identifies line) := by
  unfold Identifies
  split <;> infer_instance

variable {docker : DockerState} {container : Container}

/-- A row that begins with an id is read with the id in front, whatever the labels behind it are. -/
theorem Identified.head_contentLines (identified : docker.Identified) {all : Bool}
    {filters : List LabelFilter} {column : PsColumn} {columns : List PsColumn}
    (first : (docker.listed all filters).head? = some container) :
    ∃ rest, (contentLines (captured
      (docker.psLines all false filters (.id :: column :: columns)))).head? =
        some (container.shortId ++ '\t' :: rest) := by
  have present : container ∈ docker.containers := List.mem_of_mem_filter (List.mem_of_head? first)
  have absent : ∀ character, character ∉ container.id → character ≠ '\t' →
      character ∉ container.shortId ++ ['\t'] := by
    intro character missing noTab member
    rcases List.mem_append.mp member with inside | last
    · exact missing (List.mem_of_mem_take inside)
    · exact noTab (List.mem_singleton.mp last)
  have noFeed := absent '\n' container.plainId.2.1 (by decide)
  have noReturn := absent '\r' container.plainId.2.2 (by decide)
  have written : container.shortId ++ ['\t'] ≠ [] := by simp
  obtain ⟨more, printed⟩ : ∃ more, docker.psOutput all false filters (.id :: column :: columns) =
      (container.shortId ++ ['\t']) ++ more := by
    obtain ⟨others, listed⟩ := List.head?_eq_some_iff.mp first
    rw [psOutput, listed, List.flatMap_cons, if_neg Bool.false_ne_true, psRow, List.map_cons,
      List.map_cons, List.intercalate_cons_cons]
    simp only [PsColumn.print, List.append_assoc]
    exact ⟨_, rfl⟩
  obtain ⟨tail, line⟩ := Text.head?_lines_append written noFeed noReturn more
  obtain ⟨lines, split⟩ := List.head?_eq_some_iff.mp line
  have short : Text.byteLength (container.shortId ++ ['\t']) ≤ maxCaptureBytes := by
    have length : (container.shortId ++ ['\t']).length ≤ 13 := by simp [Container.shortId]
    have bytes := Text.byteLength_le (container.shortId ++ ['\t'])
    have room : 52 ≤ maxCaptureBytes := by decide
    omega
  obtain ⟨further, kept⟩ := captured_begins short (List.prefix_append _ tail) lines
  obtain ⟨rest, read⟩ := Text.head?_lines_append written noFeed noReturn further
  obtain ⟨others, whole⟩ := List.head?_eq_some_iff.mp read
  have solid : Text.isBlank (container.shortId ++ ['\t'] ++ rest) = false := by
    have own := (identified container present).1
    simp only [Text.isBlank] at own ⊢
    rw [List.append_assoc, List.all_append, own, Bool.false_and]
  refine ⟨rest, ?_⟩
  rw [psLines, printed, split, kept, contentLines, whole,
    List.filter_cons_of_pos (by rw [solid]; rfl), List.head?_cons, List.append_assoc]
  rfl

/-- The workload a command finds has the id of a container with the label of the project. -/
theorem Identified.parseWorkload (identified : docker.Identified) {projectId deploymentId : Uuid}
    {workload : ManagedWorkload}
    (found : parseWorkload (captured (docker.psLines true false
      (workloadFilters projectId deploymentId) workloadColumns)) projectId deploymentId =
        .ok (some workload)) :
    ∃ container ∈ docker.containers, container.project = some projectId ∧
      workload.containerId = container.shortId := by
  cases first : (docker.listed true (workloadFilters projectId deploymentId)).head? with
  | none =>
      have nothing : docker.psLines true false (workloadFilters projectId deploymentId)
          workloadColumns = [] := by
        rw [psLines, psOutput, List.head?_eq_none_iff.mp first]
        rfl
      rw [nothing] at found
      cases found
  | some container =>
      have listed := List.mem_of_head? first
      have present : container ∈ docker.containers := List.mem_of_mem_filter listed
      have labelled := (List.mem_filter.mp listed).2
      simp only [workloadFilters, List.all_cons, Bool.and_eq_true, decide_eq_true_eq,
        Bool.true_or, true_and, List.all_nil, and_true] at labelled
      obtain ⟨_, named, _⟩ := labelled
      have project : container.project = some projectId := by
        rw [Container.project, Container.label, named, Option.getD_some, Uuid.parseText_toText]
      have noTab : '\t' ∉ container.shortId :=
        fun member => container.plainId.1 (List.mem_of_mem_take member)
      obtain ⟨rest, head⟩ := identified.head_contentLines first
      rw [SakalaAgent.parseWorkload, workloadColumns, head] at found
      dsimp only at found
      rw [Text.splitOn_append _ noTab] at found
      split at found
      · cases found
      · split at found
        · cases found
        · cases found
          exact ⟨container, present, project, rfl⟩

end DockerState

/-! ### Files that are left alone -/

/-- Whatever the operation is answered, the path is as it was. -/
def FsOp.Spares (path : FilePath) (op : FsOp) : Prop :=
  ∀ (files files' : Files) (res : op.Res), files.Step files' op res → files' path = files path

theorem Files.below_self (path : FilePath) : Files.below path path = true := by
  cases path <;> simp [Files.below]

/-- An operation touches nothing outside the paths it names and what lies below them. -/
theorem FsOp.spares_of_outside {op : FsOp} {path : FilePath}
    (outside : ∀ other ∈ op.paths, Files.below other path = false) : op.Spares path := by
  have apart : ∀ other ∈ op.paths, path ≠ other := by
    rintro other member rfl
    cases (outside path member).symm.trans (Files.below_self path)
  intro files files' res step
  cases op with
  | createDirAll other =>
      rcases step with rfl | ⟨_, rfl⟩
      · rfl
      · exact Function.update_of_ne (apart other List.mem_cons_self) ..
  | tryExists other | read other | readDir other =>
      cases res with
      | ok _ => rw [step.1]
      | error error => first | rw [step.1] | rw [show files' = files from step]
  | setPermissions other mode | age other => rw [show files' = files from step]
  | write other content =>
      have own := apart other List.mem_cons_self
      cases res with
      | ok _ => rw [show files' = _ from step, Function.update_of_ne own]
      | error error =>
          obtain ⟨left, rfl⟩ := step
          exact Function.update_of_ne own ..
  | createNew other =>
      cases res with
      | ok _ => rw [step.2, Function.update_of_ne (apart other List.mem_cons_self)]
      | error error => rw [show files' = files from step]
  | append other content =>
      obtain ⟨left, rfl⟩ := step
      exact Function.update_of_ne (apart other List.mem_cons_self) ..
  | rename source target =>
      cases res with
      | ok _ =>
          obtain ⟨entry, _, rfl⟩ := step
          rw [Function.update_of_ne (apart target (by simp [FsOp.paths])),
            Function.update_of_ne (apart source (by simp [FsOp.paths]))]
      | error error => rw [show files' = files from step]
  | removeFile other =>
      cases res with
      | ok _ => rw [step.2, Function.update_of_ne (apart other List.mem_cons_self)]
      | error error => rw [step.1]
  | removeDirAll other => exact step.1 path (outside other List.mem_cons_self)

namespace Isolation

variable {projectId other : Uuid}

theorem spares_of_keepsSites {op : FsOp} (keeps : op.keepsSites = true) :
    op.Spares (siteFile projectId) :=
  fun _ _ _ step => Files.Step.sameSites keeps step _

theorem spares_of_inWorkspace {name : Text} {op : FsOp} (inside : op.inWorkspace name = true) :
    op.Spares (siteFile projectId) := by
  apply FsOp.spares_of_outside
  intro path member
  have own := List.all_eq_true.mp inside path member
  cases path with
  | workspace other | within other relative => rfl
  | sites | site other | builds => cases own

theorem spares_of_sweeps {op : FsOp} (sweeps : op.sweeps = true) : op.Spares (siteFile projectId) := by
  intro files files' res step
  cases op with
  | readDir path | read path =>
      cases res with
      | ok _ => rw [step.1]
      | error error => first | rw [step.1] | rw [show files' = files from step]
  | age path => rw [show files' = files from step]
  | removeDirAll path =>
      cases path with
      | workspace name => exact step.1 _ rfl
      | _ => cases sweeps
  | _ => cases sweeps

theorem temporarySiteFile_ne (projectId other : Uuid) :
    temporarySiteFile other ≠ siteFile projectId := by
  intro same
  have named : '.' :: (siteName other ++ ".tmp".toList) = siteName projectId :=
    FilePath.site.inj same
  obtain ⟨first, rest, begins⟩ := List.exists_cons_of_ne_nil (toText_ne_nil projectId)
  have printed : siteName projectId = first :: (rest ++ siteSuffix) := by
    rw [siteName, begins, List.cons_append]
  have isDot : '.' = first := (List.cons.inj (named.trans printed)).1
  have member : '.' ∈ projectId.toText := by
    rw [isDot, begins]
    exact List.mem_cons_self
  have noDigit : ∀ digit, '.' ≠ Uuid.hexDigit digit := by decide
  rcases Uuid.mem_toText member with dash | ⟨digit, isDigit⟩
  · cases dash
  · exact noDigit digit isDigit

theorem spares_of_inRoute {op : FsOp} (apart : other ≠ projectId)
    (inside : op.inRoute other = true) : op.Spares (siteFile projectId) := by
  simp only [FsOp.inRoute, Bool.or_eq_true, List.all_eq_true, decide_eq_true_eq] at inside
  rcases inside with rfl | paths
  · exact spares_of_keepsSites rfl
  apply FsOp.spares_of_outside
  intro path member
  rcases paths path member with rfl | rfl
  · have ne : siteName other ≠ siteName projectId := fun same => apart (siteName_injective same)
    simp [Files.below, siteFile, ne]
  · have ne := temporarySiteFile_ne projectId other
    simpa [Files.below, siteFile, temporarySiteFile] using ne

/-! ### What belongs to a project -/

/-- The command may change what belongs to the project. A cleanup of stale routes looks over those of all
projects. -/
def Concerns (projectId : Uuid) : RuntimeCommand → Prop
  | .inspectProject _ | .healthCheck _ => False
  | .deployProject request => request.projectId = projectId
  | .restartProject request | .stopProject request | .sleepProject request | .wakeProject request
  | .refreshRoute request => request.projectId = projectId
  | .reconcileWorkload request => request.projectId = projectId
  | .cleanupRuntime request => .staleRoutes ∈ request.targets

/-- What the image tags of a project begin with. -/
def imagePrefix (projectId : Uuid) : Text :=
  "sakala/project-".toList ++ (projectId.toText ++ [':'])

/-- The containers and the images of the project are still there, and as they were. -/
structure Keeps (projectId : Uuid) (docker docker' : DockerState) : Prop where
  containers : ∀ container ∈ docker.containers, container.project = some projectId →
    container ∈ docker'.containers
  tags : ∀ tag ∈ docker.tags, Text.startsWith tag (imagePrefix projectId) = true →
    tag ∈ docker'.tags

/-- Nothing that belongs to the project has changed. -/
structure Intact (projectId : Uuid) (start node : Node) : Prop where
  docker : Keeps projectId start.docker node.docker
  route : node.files (siteFile projectId) = start.files (siteFile projectId)

/-- No container of the project goes by the reference. -/
def Spared (docker : DockerState) (projectId : Uuid) (reference : Text) : Prop :=
  ∀ container ∈ docker.containers, container.project = some projectId →
    ¬container.Answers reference

/-- The process leaves alone what belongs to the project. -/
def Harmless (docker : DockerState) (projectId : Uuid) : CommandLine → Prop
  | .docker (.start reference) | .docker (.restart _ reference) | .docker (.stop _ reference)
  | .docker (.rm _ reference) => Spared docker projectId reference
  | .docker (.imageRemove tag) => Text.startsWith tag (imagePrefix projectId) = false
  | _ => True

variable {docker docker' first : DockerState} {start node node' : Node} {line : CommandLine}

theorem harmless_of_isQuiet (quiet : line.isQuiet = true) : Harmless docker projectId line := by
  cases line with
  | docker command => cases command <;> trivial
  | git | railpack | df => trivial

theorem harmless_of_builds (builds : line.builds = true) : Harmless docker projectId line := by
  cases line with
  | docker command => cases command <;> trivial
  | git | railpack | df => trivial

theorem colon_not_mem_toText (uuid : Uuid) : ':' ∉ uuid.toText := by
  intro member
  have noDigit : ∀ digit, ':' ≠ Uuid.hexDigit digit := by decide
  rcases Uuid.mem_toText member with dash | ⟨digit, isDigit⟩
  · cases dash
  · exact noDigit digit isDigit

/-- The image of a deployment of another project is no image of the project. -/
theorem startsWith_imageName (apart : other ≠ projectId) (deploymentId : Uuid) (commitSha : Text) :
    Text.startsWith (imageName other deploymentId commitSha) (imagePrefix projectId) = false := by
  rw [Bool.eq_false_iff]
  intro begins
  obtain ⟨rest, same⟩ := append_of_startsWith begins
  have regroup : ∀ start id : Text, start ++ (id ++ [':']) ++ rest = start ++ (id ++ ':' :: rest) := by
    intro start id
    simp only [List.append_assoc, List.singleton_append]
  have printed := (List.append_assoc ..).symm.trans (same.trans (regroup _ _))
  have ids := Text.append_cons_unique (List.append_cancel_left printed) (colon_not_mem_toText other)
    (colon_not_mem_toText projectId)
  exact apart (Uuid.toText_injective ids.1)

/-! ### What a process does -/

/-- A container of the project is not the one a spared reference names. -/
theorem Keeps.id_ne (kept : Keeps projectId first docker) {reference : Text}
    (spared : Spared first projectId reference) {named container : Container}
    (found : docker.resolve reference = some named) (present : container ∈ first.containers)
    (own : container.project = some projectId) : container.id ≠ named.id := by
  intro same
  obtain ⟨member, answers⟩ := DockerState.resolve_answers found
  obtain rfl := DockerState.eq_of_id member (kept.containers container present own) same
  exact spared container present own answers

theorem Keeps.setStatus (kept : Keeps projectId first docker) {reference : Text}
    (spared : Spared first projectId reference) {named : Container} {status : Text}
    {plain : Plain status} (found : docker.resolve reference = some named) :
    Keeps projectId first (docker.setStatus named.id status plain) where
  containers container present own := by
    have other := kept.id_ne spared found present own
    exact List.mem_map.mpr ⟨container, kept.containers container present own, if_neg other⟩
  tags := kept.tags

theorem Keeps.effect (kept : Keeps projectId first docker) {command : DockerCommand}
    (harmless : Harmless first projectId (.docker command)) (effect : docker.Effect command docker') :
    Keeps projectId first docker' := by
  cases effect with
  | run => exact ⟨fun container present own =>
      List.mem_cons_of_mem _ (kept.containers container present own), kept.tags⟩
  | start reference named status plain found => exact kept.setStatus harmless found
  | restart graceSeconds reference named status plain found => exact kept.setStatus harmless found
  | stop graceSeconds reference named status plain found => exact kept.setStatus harmless found
  | rm isForced reference named found =>
      refine ⟨fun container present own => ?_, kept.tags⟩
      have other := kept.id_ne harmless found present own
      exact List.mem_filter.mpr ⟨kept.containers container present own, decide_eq_true other⟩
  | buildx => exact ⟨kept.containers, fun tag present own =>
      List.mem_cons_of_mem _ (kept.tags tag present own)⟩
  | imageRemove reference =>
      refine ⟨kept.containers, fun tag present own => ?_⟩
      have other : tag ≠ reference := by
        rintro rfl
        cases own.symm.trans harmless
      exact List.mem_filter.mpr ⟨kept.tags tag present own, decide_eq_true other⟩
  | ps | logs | inspect | imagePrune | exec => exact kept

theorem Intact.settled (intact : Intact projectId start node) {succeeded : Bool}
    (harmless : Harmless start.docker projectId line) (settled : node.Settled line succeeded node') :
    Intact projectId start node' := by
  obtain ⟨files, docker, sites, rfl, outcome⟩ := settled
  refine ⟨?_, (sites _).trans intact.route⟩
  cases line with
  | docker command =>
      rcases outcome with effect | ⟨_, rfl⟩
      · exact intact.docker.effect harmless effect
      · exact intact.docker
  | git | railpack | df =>
      obtain rfl : docker = node.docker := outcome
      exact intact.docker

/-! ### What a command asks for -/

/-- The operation leaves alone what belongs to the project. -/
def Allowed (docker : DockerState) (projectId : Uuid) : RuntimeOp → Prop
  | .process spec => Harmless docker projectId spec.line
  | .file op => op.Spares (siteFile projectId)
  | _ => True

def previousListing (projectId : Uuid) : CommandSpec :=
  ContainerEngine.docker (.ps true true (DockerState.previousFilters projectId) [])

/-- A command for another project takes the reference from its listing. -/
inductive Refers (projectId : Uuid) (spec : CommandSpec) (output : ProcessOutput) : Text → Prop where
  | workload {other deploymentId : Uuid} {workload : ManagedWorkload} (apart : other ≠ projectId)
      (listing : spec = workloadListing other deploymentId)
      (found : parseWorkload output.stdout other deploymentId = .ok (some workload)) :
      Refers projectId spec output workload.containerId
  | previous {other : Uuid} {reference : Text} (apart : other ≠ projectId)
      (listing : spec = previousListing other) (listed : reference ∈ contentLines output.stdout) :
      Refers projectId spec output reference

/-- What a command for another project takes from a listing is no container of the project. -/
def Good (docker : DockerState) (projectId : Uuid) : (op : RuntimeOp) → op.Res → Prop
  | .process spec, result => ∀ output reference, processOutcome spec result = .ok output →
      output.success = true → Refers projectId spec output reference →
        Spared docker projectId reference
  | _, _ => True

theorem admits_allowed : Admits (Allowed docker projectId) where
  process _ quiet _ := harmless_of_isQuiet quiet
  log _ := trivial
  event _ := trivial
  sleep := trivial
  isCancelled := trivial

theorem allowed_of_asks {op : RuntimeOp} (asks : Asks (Harmless docker projectId) op) :
    Allowed docker projectId op := by
  cases op with
  | process spec => exact asks
  | file op => exact spares_of_keepsSites asks
  | _ => trivial

theorem allowed_quiet (line : CommandLine) (quiet : line.isQuiet = true) :
    Harmless docker projectId line :=
  harmless_of_isQuiet quiet

/-- The future is allowed as far as the listings it reads are good; `P` holds of its values. -/
abbrev Harms (docker : DockerState) (projectId : Uuid) {α : Type} (P : α → Prop) (p : RuntimeM α) :
    Prop :=
  Fallible.Given (Good docker projectId) (Allowed docker projectId) P p

variable {α β : Type} {P : α → Prop}

/-- A listing, and what is made of it. -/
theorem given_listing {spec : CommandSpec} {read : ProcessOutput → RuntimeM α}
    (quiet : spec.line.isQuiet = true)
    (rest : ∀ output, (output.success = true → ∀ reference, Refers projectId spec output reference →
      Spared docker projectId reference) → Harms docker projectId P (read output)) :
    Harms docker projectId P (runProcess spec .null >>= read) := by
  rw [runProcess_null, bind_assoc]
  apply Fallible.given_perform (harmless_of_isQuiet quiet)
  intro result isGood
  cases outcome : processOutcome spec result with
  | error error => exact Fallible.given_throw error
  | ok output =>
      exact rest output fun success reference => isGood output reference outcome success

theorem projectId_of_parseWorkload {output : Text} {deploymentId : Uuid} {workload : ManagedWorkload}
    (found : parseWorkload output projectId deploymentId = .ok (some workload)) :
    workload.projectId = projectId := by
  unfold parseWorkload at found
  split at found
  · cases found
  · dsimp only at found
    split at found
    · cases found
    · split at found
      · cases found
      · cases found
        rfl

theorem given_workload (apart : other ≠ projectId) (deploymentId : Uuid) :
    Harms docker projectId (fun found => ∀ workload, found = some workload →
        Spared docker projectId workload.containerId ∧ workload.projectId = other)
      (ContainerEngine.workload other deploymentId) := by
  apply given_listing rfl
  intro output spared
  split
  · rename_i success
    cases found : parseWorkload output.stdout other deploymentId with
    | error error => exact Fallible.given_throw error
    | ok found =>
        apply Fallible.given_pure
        rintro workload rfl
        exact ⟨spared success _ (.workload apart rfl found), projectId_of_parseWorkload found⟩
  · exact Fallible.given_throw _

theorem given_cleanupPrevious (apart : other ≠ projectId) (current : Text) :
    Harms docker projectId (fun _ => True) (ContainerEngine.cleanupPrevious other current) := by
  apply given_listing rfl
  intro output spared
  split
  · exact Fallible.given_throw _
  · rename_i success
    apply Fallible.given_forM
    intro containerId listed
    have harmless : Spared docker projectId containerId :=
      spared (by simpa using success) _ (.previous apart rfl listed)
    exact Fallible.given_of_allOps
      (admits_allowed.cleanupPreviousContainer harmless harmless current)

/-! ### Commands for other projects -/

theorem allOps_locked {body : RuntimeM α} (ops : Fallible.AllOps (Allowed docker projectId) body) :
    Fallible.AllOps (Allowed docker projectId) (RouteManager.locked body) := by
  apply Fallible.allOps_bind (Fallible.allOps_perform trivial)
  intro _
  apply Fallible.allOps_bind (Fallible.allOps_attempt ops)
  intro outcome
  exact Fallible.allOps_bind (Fallible.allOps_perform trivial) fun _ => Fallible.allOps_ofExcept _

theorem allOps_activate (manager : RouteManager) {route : RouteSpec}
    (apart : route.projectId ≠ projectId) :
    Fallible.AllOps (Allowed docker projectId) (manager.activate route) :=
  allOps_locked (admits_allowed.activation (fun _ inside => spares_of_inRoute apart inside) manager rfl)

theorem allOps_deactivate (manager : RouteManager) {identity : RouteIdentity}
    (apart : identity.projectId ≠ projectId) :
    Fallible.AllOps (Allowed docker projectId) (manager.deactivate identity) :=
  allOps_locked
    (admits_allowed.deactivation (fun _ inside => spares_of_inRoute apart inside) manager rfl)

theorem given_emitEvent_return (eventType message : String) (metadata : Json) (value : α) :
    Harms docker projectId (fun _ => True) (do
      emitEvent eventType message metadata
      return value) :=
  Fallible.given_of_allOps
    (Fallible.allOps_bind (admits_allowed.emitEvent _ _ _) fun _ => Fallible.allOps_pure _)

theorem allOps_activateWorkload (executor : DockerRuntimeExecutor) {workload : ManagedWorkload}
    (apart : workload.projectId ≠ projectId) :
    Fallible.AllOps (Allowed docker projectId) (executor.activateWorkload workload) :=
  Fallible.allOps_bind (admits_allowed.waitUntilReady _ _) fun _ => allOps_activate _ apart

/-- A workload that a command works on is one of its own project. -/
theorem given_workloadOf {request : WorkloadLifecycleRequest} (apart : request.projectId ≠ projectId) :
    Harms docker projectId (fun workload => Spared docker projectId workload.containerId ∧
        workload.projectId ≠ projectId) (DockerRuntimeExecutor.workload request) := by
  apply Fallible.given_bind (given_workload apart _)
  intro found own
  cases found with
  | none => exact Fallible.given_throw _
  | some workload =>
      obtain ⟨spared, same⟩ := own workload rfl
      exact Fallible.given_pure ⟨spared, same ▸ apart⟩

theorem given_runRestart (executor : DockerRuntimeExecutor) {request : WorkloadLifecycleRequest}
    (apart : request.projectId ≠ projectId) :
    Harms docker projectId (fun _ => True) (executor.runRestart request) := by
  apply Fallible.given_bind (given_workloadOf apart)
  rintro workload ⟨spared, own⟩
  split
  · exact Fallible.given_throw _
  · have restarts : StartsDocker (Allowed docker projectId) (.restart 10 workload.containerId) := spared
    apply Fallible.given_allOps_bind (admits_allowed.runContainerCommand restarts _)
    intro _
    apply Fallible.given_allOps_bind (allOps_activateWorkload executor own)
    exact fun _ => given_emitEvent_return _ _ _ _

theorem given_stopWorkload (executor : DockerRuntimeExecutor) {workload : ManagedWorkload}
    (spared : Spared docker projectId workload.containerId) (own : workload.projectId ≠ projectId)
    (remove : Bool) :
    Harms docker projectId (fun _ => True) (executor.stopWorkload workload remove) := by
  apply Fallible.given_allOps_bind (admits_allowed.stop spared)
  intro _
  apply Fallible.given_allOps_bind (allOps_deactivate _ own)
  intro _
  have removes : StartsDocker (Allowed docker projectId) (.rm false workload.containerId) := spared
  apply Fallible.given_allOps_bind
    (Admits.onlyIf remove (admits_allowed.runContainerCommand removes _))
  exact fun _ => given_emitEvent_return _ _ _ _

theorem given_runStop (executor : DockerRuntimeExecutor) {request : WorkloadLifecycleRequest}
    (apart : request.projectId ≠ projectId) (remove : Bool) :
    Harms docker projectId (fun _ => True) (executor.runStop request remove) := by
  apply Fallible.given_bind (given_workload apart _)
  intro found own
  cases found with
  | some workload =>
      obtain ⟨spared, same⟩ := own workload rfl
      exact given_stopWorkload executor spared (same ▸ apart) remove
  | none =>
      apply Fallible.given_of_allOps
      dsimp only
      split
      · exact Fallible.allOps_throw _
      · exact Fallible.allOps_bind (allOps_deactivate _ apart) fun _ => Fallible.allOps_pure _

theorem given_runWake (executor : DockerRuntimeExecutor) {request : WorkloadLifecycleRequest}
    (apart : request.projectId ≠ projectId) :
    Harms docker projectId (fun _ => True) (executor.runWake request) := by
  apply Fallible.given_bind (given_workloadOf apart)
  rintro workload ⟨spared, own⟩
  apply Fallible.given_allOps_bind (admits_allowed.startExisting spared)
  intro _
  apply Fallible.given_allOps_bind (allOps_activateWorkload executor own)
  exact fun _ => given_emitEvent_return _ _ _ _

theorem given_runRefreshRoute (executor : DockerRuntimeExecutor) {request : WorkloadLifecycleRequest}
    (apart : request.projectId ≠ projectId) :
    Harms docker projectId (fun _ => True) (executor.runRefreshRoute request) := by
  apply Fallible.given_bind (given_workloadOf apart)
  rintro workload ⟨_, own⟩
  apply Fallible.given_of_allOps
  split
  · exact Fallible.allOps_throw _
  · exact Fallible.allOps_bind (allOps_activateWorkload executor own) fun _ => Fallible.allOps_pure _

theorem allOps_applyAction (executor : DockerRuntimeExecutor) (request : ReconcileWorkloadRequest)
    {found : Option ManagedWorkload} (own : ∀ workload, found = some workload →
      Spared docker projectId workload.containerId ∧ workload.projectId ≠ projectId)
    (action : ReconcileWorkloadAction) :
    Fallible.AllOps (Allowed docker projectId) (executor.applyAction request found action) := by
  apply admits_allowed.cancellable
  intro isCancelled
  cases isCancelled with
  | true => exact Fallible.allOps_throw _
  | false =>
      cases found with
      | none => exact Fallible.allOps_throw _
      | some workload =>
          obtain ⟨spared, apart⟩ := own workload rfl
          cases action with
          | restartLogFollower => exact Admits.restartLogFollower (fun _ => trivial) workload _
          | cleanupFailedCandidate => exact admits_allowed.cleanupFailedCandidate spared
          | restoreRoute =>
              show Fallible.AllOps _ (executor.restoreRoute workload)
              unfold DockerRuntimeExecutor.restoreRoute
              split
              · exact Fallible.allOps_throw _
              · exact Fallible.allOps_bind (allOps_activateWorkload executor apart)
                  fun _ => Fallible.allOps_pure _

theorem given_reconcileWorkload (executor : DockerRuntimeExecutor)
    {request : ReconcileWorkloadRequest} (apart : request.projectId ≠ projectId) :
    Harms docker projectId (fun _ => True) (executor.reconcileWorkload request) := by
  apply Fallible.given_allOps_bind (Fallible.allOps_perform trivial)
  intro isCancelled
  split
  · exact Fallible.given_throw _
  · apply Fallible.given_bind (given_workload apart _)
    intro found own
    have own : ∀ workload, found = some workload →
        Spared docker projectId workload.containerId ∧ workload.projectId ≠ projectId := by
      intro workload same
      obtain ⟨spared, named⟩ := own workload same
      exact ⟨spared, named ▸ apart⟩
    have applied : ∀ actions : List ReconcileWorkloadAction,
        Fallible.AllOps (Allowed docker projectId) (executor.applyActions request found actions) := by
      intro actions
      induction actions with
      | nil => exact Fallible.allOps_pure _
      | cons action actions ih =>
          apply Fallible.allOps_bind (allOps_applyAction executor request own action)
          exact fun _ => Fallible.allOps_bind ih fun _ => Fallible.allOps_pure _
    exact Fallible.given_of_allOps
      (Fallible.allOps_bind (applied request.actions) fun _ => Fallible.allOps_pure _)

theorem allOps_cleanupTarget (executor : DockerRuntimeExecutor)
    (totals : DockerRuntimeExecutor.CleanupTotals) {target : RuntimeCleanupTarget}
    (noRoutes : target ≠ .staleRoutes) :
    Fallible.AllOps (Allowed docker projectId) (executor.cleanupTarget totals target) := by
  apply admits_allowed.cancellable
  intro isCancelled
  cases isCancelled with
  | true => exact Fallible.allOps_throw _
  | false =>
      cases target with
      | staleWorkspaces =>
          exact Fallible.allOps_bind (Admits.cleanupStale (fun _ => spares_of_sweeps) _)
            fun _ => Fallible.allOps_pure _
      | staleImages =>
          exact Fallible.allOps_bind (admits_allowed.cleanupStaleImages _ _)
            fun _ => Fallible.allOps_pure _
      | staleRoutes => exact absurd rfl noRoutes

theorem allOps_cleanupRuntime (executor : DockerRuntimeExecutor) {request : CleanupRuntimeRequest}
    (noRoutes : .staleRoutes ∉ request.targets) :
    Fallible.AllOps (Allowed docker projectId) (executor.cleanupRuntime request) := by
  have cleaned : ∀ (targets : List RuntimeCleanupTarget)
      (totals : DockerRuntimeExecutor.CleanupTotals), .staleRoutes ∉ targets →
      Fallible.AllOps (Allowed docker projectId) (executor.cleanupTargets totals targets) := by
    intro targets
    induction targets with
    | nil => exact fun _ _ => Fallible.allOps_pure _
    | cons target targets ih =>
        intro totals absent
        obtain ⟨other, rest⟩ := List.ne_and_not_mem_of_not_mem_cons absent
        apply Fallible.allOps_bind (allOps_cleanupTarget executor totals (Ne.symm other))
        exact fun totals => ih totals rest
  unfold DockerRuntimeExecutor.cleanupRuntime
  split
  · exact Fallible.allOps_throw _
  · exact Fallible.allOps_bind (cleaned request.targets {} noRoutes) fun _ => Fallible.allOps_pure _

/-! ### Deployments of other projects -/

theorem given_finalizeDeployment {deployment : Deployment}
    (apart : deployment.request.projectId ≠ projectId) (builder : DeploymentBuilder) :
    Harms docker projectId (fun _ => True)
      (DockerRuntimeExecutor.finalizeDeployment deployment builder) := by
  apply Fallible.given_allOps_bind (Fallible.allOps_attempt
    (Fallible.allOps_bind (admits_allowed.runChecked rfl rfl _) fun _ => Fallible.allOps_pure _))
  intro logged
  apply Fallible.given_allOps_bind (admits_allowed.warnOnError _ _)
  intro _
  apply Fallible.given_bind
    (Fallible.given_attempt (given_cleanupPrevious apart _) fun _ => trivial)
  intro cleaned _
  apply Fallible.given_of_allOps
  apply Fallible.allOps_bind (admits_allowed.warnOnError _ _)
  intro _
  apply Fallible.allOps_bind (Fallible.allOps_attempt (admits_allowed.emitEvent _ _ _))
  intro _
  exact Fallible.allOps_bind (Fallible.allOps_perform trivial) fun _ => Fallible.allOps_ofExcept _

theorem given_deployInner (executor : DockerRuntimeExecutor) {deployment : Deployment}
    (apart : deployment.request.projectId ≠ projectId) :
    Harms docker projectId (fun _ => True) (executor.deployInner deployment) := by
  have built : Fallible.AllOps (Allowed docker projectId) (executor.buildImage deployment) :=
    (asks_buildImage allowed_quiet executor fun _ _ _ _ => trivial).mono fun _ => allowed_of_asks
  have started : Fallible.AllOps (Allowed docker projectId) (executor.startCandidate deployment) :=
    (asks_startCandidate allowed_quiet executor fun _ _ => trivial).mono fun _ => allowed_of_asks
  apply Fallible.given_allOps_bind built
  intro builder
  apply Fallible.given_allOps_bind started
  intro _
  apply Fallible.given_allOps_bind (allOps_activate executor.routes apart)
  intro _
  apply Fallible.given_allOps_bind (Fallible.allOps_perform trivial)
  intro _
  apply Fallible.given_allOps_bind (Fallible.allOps_perform trivial)
  exact fun _ => given_finalizeDeployment apart builder

/-- A cancellation drops the future, or waits for it. -/
theorem given_untilCancelled {future : RuntimeM Unit}
    (given : Harms docker projectId (fun _ => True) future) :
    Harms docker projectId (fun _ => True) (untilCancelled future) := by
  apply Prog.given_bind (P := fun _ => True)
  · apply Prog.given_race given
    · intro rest remains
      refine ⟨trivial, fun activated _ => ?_⟩
      cases activated with
      | true => exact Prog.Given.mono remains fun _ _ => trivial
      | false => exact Prog.given_drop remains trivial
    · exact fun _ _ => trivial
  · exact fun _ _ _ _ => trivial

theorem given_runDeployment (executor : DockerRuntimeExecutor) {request : DeployProjectRequest}
    (apart : request.projectId ≠ projectId) (named : Spared docker projectId request.container) :
    Harms docker projectId (fun _ => True) (executor.runDeployment request) := by
  have prepared : Fallible.AllOps (Allowed docker projectId) (executor.prepareDeployment request) :=
    (asks_prepareDeployment allowed_quiet executor request).mono fun _ => allowed_of_asks
  apply Fallible.given_allOps_bind prepared
  intro prepared
  apply Fallible.given_allOps_bind (Fallible.allOps_perform trivial)
  intro _
  apply Fallible.given_bind (given_untilCancelled (given_deployInner executor apart))
  intro result _
  have image : Harmless docker projectId
      (.docker (.imageRemove (⟨request, prepared⟩ : Deployment).image)) :=
    startsWith_imageName apart _ _
  have after := @asks_afterDeployment (Harmless docker projectId) executor ⟨request, prepared⟩ named
    image result
  exact Fallible.given_of_allOps (after.mono fun _ => allowed_of_asks)

/-- A command that does not concern the project leaves alone what belongs to it. -/
theorem given_perform (executor : DockerRuntimeExecutor) (inspector : RailpackProjectInspector)
    {command : RuntimeCommand} (apart : ¬Concerns projectId command)
    (named : ∀ request, command = .deployProject request → Spared docker projectId request.container) :
    Harms docker projectId (fun _ => True)
      (executor.perform inspector.toProjectInspector command) := by
  cases command with
  | inspectProject request =>
      exact Fallible.given_of_allOps (admits_allowed.runInspection executor inspector request
        fun _ _ => spares_of_inWorkspace)
  | healthCheck request => exact Fallible.given_of_allOps (admits_allowed.runHealthCheck executor request)
  | deployProject request => exact given_runDeployment executor apart (named request rfl)
  | restartProject request => exact given_runRestart executor apart
  | stopProject request => exact given_runStop executor apart true
  | sleepProject request => exact given_runStop executor apart false
  | wakeProject request => exact given_runWake executor apart
  | refreshRoute request => exact given_runRefreshRoute executor apart
  | reconcileWorkload request => exact given_reconcileWorkload executor apart
  | cleanupRuntime request => exact Fallible.given_of_allOps (allOps_cleanupRuntime executor apart)

/-! ### Commands side by side -/

open RuntimeLocks (Setup Commands)

/-- The commands of an executor, on a node on which nothing else changes containers or files. -/
def threads (setup : Setup) : Threads Runtime Node ThreadId (Except RuntimeError CommandOutput) :=
  { setup.threads with semantics := runtimeSemantics }

/-- A process that lists containers is answered while their ids tell them apart. -/
def Identifying (s : Commands) (action : Pool.Action Runtime ThreadId (Except RuntimeError CommandOutput))
    (_ : Commands) : Prop :=
  ∀ thread spec result, action = .act thread (.done (.process spec) result) →
    s.world.docker.Identifies spec.line

theorem Keeps.spared (kept : Keeps projectId first docker) (identified : docker.Identified)
    {container : Container} (present : container ∈ docker.containers)
    (foreign : container.project ≠ some projectId) : Spared first projectId container.shortId := by
  intro own member project answers
  obtain rfl := (identified container present).2 own (kept.containers own member project) answers
  exact foreign project

/-- A listing that is answered truthfully is good. -/
theorem good_of_truthful {spec : CommandSpec} {result : ProcessResult}
    (kept : Keeps projectId first docker) (identifies : docker.Identifies spec.line)
    (truthful : node.Truthful spec.line result) (same : node.docker = docker) :
    Good first projectId (.process spec) result := by
  subst same
  intro output reference outcome succeeded refers
  obtain ⟨success, printed⟩ := output_of_processOutcome outcome
  cases refers with
  | @workload other deploymentId workload apart listing found =>
      subst listing
      have identified : node.docker.Identified := identifies
      have listed : result.stdout = node.docker.psLines true false
        (workloadFilters other deploymentId) workloadColumns := truthful (success ▸ succeeded)
      rw [printed, listed] at found
      obtain ⟨container, present, project, same⟩ := identified.parseWorkload found
      rw [same]
      apply kept.spared identified present
      rw [project]
      exact fun own => apart (Option.some.inj own)
  | @previous other reference apart listing listed =>
      subst listing
      obtain ⟨identified, fits⟩ : node.docker.Identified ∧ _ := identifies
      have lines : result.stdout = node.docker.psLines true true
        (DockerState.previousFilters other) [] := truthful (success ▸ succeeded)
      rw [printed, lines, DockerState.listing_of_fits _ fits] at listed
      · obtain ⟨container, member, rfl⟩ := List.mem_map.mp listed
        obtain ⟨present, labelled, _⟩ := DockerState.mem_previous.mp member
        apply kept.spared identified present
        rw [Container.project, Container.label, labelled, Option.getD_some, Uuid.parseText_toText]
        exact fun own => apart (Option.some.inj own)
      · intro container member
        exact (identified container (DockerState.mem_previous.mp member).1).1

/-- Nothing of the project has changed, and nothing is in flight that could change it. -/
structure Calm (projectId : Uuid) (start node : Node) : Prop where
  intact : Intact projectId start node
  flying : ∀ spec ∈ node.inFlight, Harmless start.docker projectId spec.line

variable {thread : ThreadId} {op : RuntimeOp}

theorem Calm.file {op : FsOp} {res : op.Res} {files : Files} (calm : Calm projectId start node)
    (spares : op.Spares (siteFile projectId)) (step : node.files.Step files op res) :
    Calm projectId start { node with files } where
  intact := ⟨calm.intact.docker, (spares _ _ res step).trans calm.intact.route⟩
  flying := calm.flying

theorem Calm.step {res : op.Res} (calm : Calm projectId start node)
    (allowed : Allowed start.docker projectId op) (step : node.step thread op res node') :
    Calm projectId start node' := by
  cases op with
  | process spec =>
      have same := Node.inFlight_of_step step
      exact ⟨calm.intact.settled allowed step.2, same ▸ calm.flying⟩
  | file op =>
      obtain ⟨files, stepped, rfl⟩ := step
      exact calm.file allowed stepped
  | acquireBuildPermit =>
      rcases step with ⟨_, _, rfl⟩ | ⟨_, rfl⟩
      · exact ⟨⟨calm.intact.docker, calm.intact.route⟩, calm.flying⟩
      · exact calm
  | lock which =>
      obtain ⟨_, rfl⟩ := step
      exact ⟨⟨calm.intact.docker, calm.intact.route⟩, calm.flying⟩
  | routeActivated =>
      obtain ⟨_, rfl⟩ := step
      exact calm
  | _ =>
      obtain rfl : node' = _ := step
      exact ⟨⟨calm.intact.docker, calm.intact.route⟩, calm.flying⟩

theorem Calm.leave {outcome : Option op.Res} (calm : Calm projectId start node)
    (allowed : Allowed start.docker projectId op) (left : node.leave op outcome node') :
    Calm projectId start node' := by
  cases op with
  | process spec =>
      obtain ⟨_, rfl⟩ := left
      refine ⟨⟨calm.intact.docker, calm.intact.route⟩, fun other member => ?_⟩
      rcases List.mem_cons.mp member with rfl | flying
      · exact allowed
      · exact calm.flying other flying
  | file op =>
      obtain ⟨res, files, _, stepped, rfl⟩ := left
      exact calm.file allowed stepped
  | _ =>
      obtain ⟨_, rfl⟩ := left
      exact calm

theorem Calm.lands (calm : Calm projectId start node) (lands : node.Lands node') :
    Calm projectId start node' := by
  refine ⟨?_, fun spec member => calm.flying spec (Node.inFlight_of_lands lands member)⟩
  obtain ⟨before, spec, after, flying, settled⟩ := lands
  have harmless : Harmless start.docker projectId spec.line := by
    apply calm.flying
    rw [flying]
    exact List.mem_append_right _ List.mem_cons_self
  have intact : Intact projectId start { node with inFlight := before ++ after } :=
    ⟨calm.intact.docker, calm.intact.route⟩
  exact intact.settled harmless settled

/-- What holds wherever a run has come. -/
structure Apart (projectId : Uuid) (start : Node) (s : Commands) : Prop where
  calm : Calm projectId start s.world
  given : s.Given (Good start.docker projectId) (Allowed start.docker projectId)

theorem Apart.step {setup : Setup} {s s' : Commands}
    {action : Pool.Action Runtime ThreadId (Except RuntimeError CommandOutput)}
    (others : ∀ thread, ¬Concerns projectId (setup.command thread))
    (named : ∀ thread request, setup.command thread = .deployProject request →
      Spared start.docker projectId request.container)
    (apart : Apart projectId start s) (stepped : Pool.Step (threads setup) s action s')
    (identifying : Identifying s action s') : Apart projectId start s' := by
  constructor
  · cases apart.given.changes stepped with
    | same _ unchanged => exact unchanged ▸ apart.calm
    | done allowed step => exact apart.calm.step allowed step
    | abandoned allowed left => exact apart.calm.leave allowed left
    | drift lands => exact apart.calm.lands lands
  apply apart.given.step stepped
  · rintro thread op res rfl
    cases op with
    | process spec =>
        cases stepped with
        | done running step =>
            exact good_of_truthful apart.calm.intact.docker (identifying thread spec res rfl) step.1 rfl
    | _ => trivial
  · rintro thread program rfl
    exact Prog.Given.mono (given_perform setup.executor setup.inspector (others thread) (named thread))
      fun _ _ => trivial
  · intro thread
    have dropped : Fallible.AllOps (Allowed start.docker projectId)
        (DockerRuntimeExecutor.dropDeployment >>= fun _ => throw (.cancelled : RuntimeError) :
          RuntimeM CommandOutput) := by
      apply Fallible.allOps_bind (asks_dropDeployment.mono fun _ => allowed_of_asks)
      exact fun _ => Fallible.allOps_throw _
    exact Prog.given_of_allOps dropped

/-! ### A project between two others -/

namespace Neighbours

theorem plain_up : Plain "Up 3 hours".toList := by
  decide

/-- The container of a deployment of the project of the given digit. -/
def container (project : Fin 16) : Container where
  id := List.replicate 64 (Uuid.hexDigit project)
  name := (Sample.deployment project).container
  status := "Up 3 hours".toList
  labels := [managedLabel, (projectIdLabel, (Sample.uuid project).toText),
    (deploymentIdLabel, (Sample.uuid project).toText), (domainLabel, "app.run.sakala.dev".toList),
    (portLabel, "80".toList)]
  plainId := by
    revert project
    decide
  plainStatus := plain_up

/-- Two projects are deployed. -/
def sharedNode : Node :=
  { Sample.node with
    files := fun path =>
      if path = siteFile (Sample.uuid 1) then
        some (.file { text := routeContent (Sample.deployment 1).route })
      else if path = siteFile (Sample.uuid 2) then
        some (.file { text := routeContent (Sample.deployment 2).route })
      else none
    docker := {
      containers := [container 1, container 2]
      tags := [(Sample.deployment 1).image, (Sample.deployment 2).image]
      distinctIds := by decide
      distinctNames := by decide } }

/-- One command stops the second project, and all others deploy a third one. -/
def command : ThreadId → RuntimeCommand
  | 0 => .stopProject
      { commandId := Sample.uuid 4, projectId := Sample.uuid 2, deploymentId := Sample.uuid 2 }
  | _ => .deployProject (Sample.deployment 3)

def commands : Setup where
  executor :=
    { Sample.executor with
      containers := { Sample.executor.containers with maxActiveContainers := 2 } }
  inspector := RuntimeLocks.Queue.inspector
  command := command

def future (thread : ThreadId) : Prog Runtime (Except RuntimeError CommandOutput) :=
  (commands.executor.perform commands.inspector.toProjectInspector (commands.command thread)).run

/-- The third project is deployed while the second one is stopped. -/
def moves : List (Pool.Move Runtime Node ThreadId (Except RuntimeError CommandOutput)) :=
  [.start 0 (future 0), .go 0 20, .start 1 (future 1), .go 1 20, .go 0 100, .go 1 200]

/-- The containers can be told apart. -/
def isIdentifying (node : Node) : RuntimeOp → Bool
  | .process spec => decide (node.docker.Identifies spec.line)
  | _ => true

def script (thread : ThreadId) : Script Runtime Node :=
  (Sample.script.script thread).guarded isIdentifying

theorem sound (thread : ThreadId) : (script thread).Sound (runtimeSemantics thread) where
  answer answered := (((Sample.script.sound thread).guarded isIdentifying).answer answered).1
  leave left := (Sample.script.sound thread).leave left

theorem identifying_of_scripted {s s' : Commands}
    {action : Pool.Action Runtime ThreadId (Except RuntimeError CommandOutput)}
    (scripted : Pool.Scripted script s s' action) : Identifying s action s' := by
  rintro thread spec result rfl
  have guarded := (((Sample.script.sound thread).guarded isIdentifying).answer scripted).2
  exact of_decide_eq_true guarded

/-- The containers that are there in the end are those of the first and the third project. -/
def isDone (s : Commands) : Bool :=
  s.world.docker.containers.map Container.name =
    [(Sample.deployment 3).container, (Sample.deployment 1).container]

/-- The second project is gone, and the third one is there. -/
theorem played : ∃ s : Commands, Pool.Runs (threads commands) Identifying (Pool.empty sharedNode) s ∧
    isDone s = true := by
  have finished : ((Pool.empty sharedNode).play script moves).any isDone = true := by
    decide +kernel
  obtain ⟨s, played, done⟩ := (Option.any_eq_true ..).mp finished
  refine ⟨s, ?_, done⟩
  apply Pool.play_sound (fun _ _ _ => identifying_of_scripted) sound _ played
  intro move member
  simp only [moves, List.mem_cons, List.not_mem_nil, or_false] at member
  rcases member with rfl | rfl | rfl | rfl | rfl | rfl
  · rfl
  · trivial
  · rfl
  · trivial
  · trivial
  · trivial

theorem others (thread : ThreadId) : ¬Concerns (Sample.uuid 1) (commands.command thread) := by
  cases thread with
  | zero => exact (by decide : Sample.uuid 2 ≠ Sample.uuid 1)
  | succ thread => exact (by decide : Sample.uuid 3 ≠ Sample.uuid 1)

theorem named (thread : ThreadId) (request : DeployProjectRequest)
    (deploys : commands.command thread = .deployProject request) :
    Spared sharedNode.docker (Sample.uuid 1) request.container := by
  cases thread with
  | zero => cases deploys
  | succ thread =>
      cases deploys
      intro container present _
      have apart : ∀ container ∈ sharedNode.docker.containers,
          ¬container.Answers (Sample.deployment 3).container := by
        decide
      exact apart container present

end Neighbours

/-! ### The main result -/

end Isolation

end SakalaAgent
