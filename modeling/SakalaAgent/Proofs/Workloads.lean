/-
Module: SakalaAgent.Proofs.Workloads
Layer: Proofs
Purpose: The listings of managed workloads, read back: when the ids Docker prints tell its containers
  apart, the workload a command finds is a container of its project and deployment.
Trusted boundary: none
Main exports: DockerState.Legible, DockerState.Presentable, workload_eq, found_of_workloadOutcome
-/
import SakalaAgent.Proofs.RunningProjects

namespace SakalaAgent

open Async

/-! ### Listings that can be read -/

/-- The container is one that a reference can name. -/
def Container.Answers (container : Container) (reference : Text) : Prop :=
  container.name = reference ∨ container.id = reference ∨
    Text.startsWith container.id reference = true

instance (container : Container) (reference : Text) : Decidable (container.Answers reference) :=
  inferInstanceAs (Decidable (_ ∨ _ ∨ _))

theorem DockerState.resolve_answers {docker : DockerState} {reference : Text}
    {container : Container} (found : docker.resolve reference = some container) :
    container ∈ docker.containers ∧ container.Answers reference := by
  unfold DockerState.resolve at found
  rcases (Option.orElse_eq_some ..).mp found with named | ⟨_, other⟩
  · exact ⟨List.mem_of_find?_eq_some named, .inl (by simpa using List.find?_some named)⟩
  · rcases (Option.orElse_eq_some ..).mp other with same | ⟨_, starts⟩
    · exact ⟨List.mem_of_find?_eq_some same, .inr (.inl (by simpa using List.find?_some same))⟩
    · have holds := List.find?_some starts
      simp only [Bool.and_eq_true] at holds
      exact ⟨List.mem_of_find?_eq_some starts, .inr (.inr holds.2)⟩

namespace DockerState

/-- A listing of the containers can be read: the id that is printed of one names no other, no label
breaks its row, and the managed ones have the id of a project. -/
def Legible (docker : DockerState) : Prop :=
  ∀ container ∈ docker.containers, Text.isBlank container.shortId = false ∧
    (∀ entry ∈ container.labels, Plain entry.2) ∧
    (container.labels.lookup managedLabel.1 = some managedLabel.2 →
      (container.project.map Uuid.toText) = some (container.label projectIdLabel)) ∧
    ∀ other ∈ docker.containers, other.Answers container.shortId → other = container

instance (docker : DockerState) : Decidable docker.Legible :=
  inferInstanceAs (Decidable (∀ container ∈ docker.containers, _ ∧ _ ∧ _ ∧ _))

/-- If the process lists containers, its listing can be read, and fits into what is captured. -/
def Presentable (docker : DockerState) : CommandLine → Prop
  | .docker (.ps all quiet filters columns) => docker.Legible ∧
      Text.byteLength (docker.psOutput all quiet filters columns) ≤ maxCaptureBytes
  | _ => True

instance (docker : DockerState) (line : CommandLine) : Decidable (docker.Presentable line) := by
  unfold Presentable
  split <;> infer_instance

variable {docker : DockerState} {container : Container}

theorem Legible.readable (legible : docker.Legible)
    (fits : Text.byteLength (docker.psOutput false false [managedLabel] [.label projectIdLabel]) ≤
      maxCaptureBytes) : docker.Readable := by
  refine ⟨fun container runs => ?_, fits⟩
  obtain ⟨present, _, managed⟩ := mem_running.mp runs
  obtain ⟨projectId, _, same⟩ :=
    Option.map_eq_some_iff.mp ((legible container present).2.2.1 managed)
  exact ⟨projectId, same.symm⟩

theorem Legible.plain_print (legible : docker.Legible) (present : container ∈ docker.containers)
    (column : PsColumn) : Plain (column.print container) := by
  cases column with
  | id =>
      have apart : ∀ character, character ∉ container.id → character ∉ container.shortId :=
        fun character absent member => absent (List.mem_of_mem_take member)
      obtain ⟨tab, feed, carriage⟩ := container.plainId
      exact ⟨apart _ tab, apart _ feed, apart _ carriage⟩
  | status => exact container.plainStatus
  | label key =>
      simp only [PsColumn.print, Container.label]
      cases found : container.labels.lookup key with
      | none => simp [Plain]
      | some value =>
          obtain ⟨before, after, entries, _⟩ := List.lookup_eq_some_iff.mp found
          apply (legible container present).2.1 (key, value)
          rw [entries]
          simp

/-! ### Rows -/

theorem not_mem_intercalate {character separator : Char} {columns : List Text}
    (ne : character ≠ separator) (absent : ∀ column ∈ columns, character ∉ column) :
    character ∉ List.intercalate [separator] columns := by
  induction columns with
  | nil => simp
  | cons column columns ih =>
      have first := absent column List.mem_cons_self
      have rest := ih fun other member => absent other (List.mem_cons_of_mem _ member)
      cases columns with
      | nil => simpa using first
      | cons next columns =>
          rw [List.intercalate_cons_cons]
          simp [first, rest, ne]

theorem Legible.not_mem_psRow (legible : docker.Legible) (present : container ∈ docker.containers)
    (columns : List PsColumn) :
    '\n' ∉ psRow columns container ∧ '\r' ∉ psRow columns container := by
  constructor
  · apply not_mem_intercalate (by decide)
    intro text member
    obtain ⟨column, _, rfl⟩ := List.mem_map.mp member
    exact (legible.plain_print present column).2.1
  · apply not_mem_intercalate (by decide)
    intro text member
    obtain ⟨column, _, rfl⟩ := List.mem_map.mp member
    exact (legible.plain_print present column).2.2

theorem Legible.isBlank_psRow (legible : docker.Legible) (present : container ∈ docker.containers)
    (columns : List PsColumn) : Text.isBlank (psRow (.id :: columns) container) = false := by
  have solid := (legible container present).1
  cases columns with
  | nil => simpa [psRow, PsColumn.print] using solid
  | cons column columns =>
      simp only [Text.isBlank] at solid ⊢
      rw [psRow, List.map_cons, List.map_cons, List.intercalate_cons_cons]
      simp only [PsColumn.print, List.all_append, solid, Bool.false_and]

/-- The columns of a row. -/
theorem Legible.splitOn_psRow (legible : docker.Legible) (present : container ∈ docker.containers)
    (column : PsColumn) (columns : List PsColumn) :
    Text.splitOn '\t' (psRow (column :: columns) container) =
      (column :: columns).map (PsColumn.print container) := by
  apply splitOn_intercalate
  intro text member
  obtain ⟨other, _, rfl⟩ := List.mem_map.mp (List.map_cons ▸ member)
  exact (legible.plain_print present other).1

/-- The rows of a listing, read back. -/
theorem Legible.contentLines (legible : docker.Legible) {all : Bool} {filters : List LabelFilter}
    {columns : List PsColumn} (fits : Text.byteLength
      (docker.psOutput all false filters (.id :: columns)) ≤ maxCaptureBytes) :
    SakalaAgent.contentLines (captured (docker.psLines all false filters (.id :: columns))) =
      (docker.listed all filters).map (psRow (.id :: columns)) := by
  have rows : docker.psOutput all false filters (.id :: columns) =
      ((docker.listed all filters).map (psRow (.id :: columns))).flatMap
        fun row => row ++ ['\n'] := by
    rw [List.flatMap_map]
    rfl
  have present : ∀ container ∈ docker.listed all filters, container ∈ docker.containers :=
    fun container listed => List.mem_of_mem_filter listed
  have each : ∀ row ∈ (docker.listed all filters).map (psRow (.id :: columns)),
      '\n' ∉ row ∧ '\r' ∉ row ∧ Text.isBlank row = false := by
    intro row member
    obtain ⟨container, listed, rfl⟩ := List.mem_map.mp member
    obtain ⟨feed, carriage⟩ := legible.not_mem_psRow (present container listed) (.id :: columns)
    exact ⟨feed, carriage, legible.isBlank_psRow (present container listed) columns⟩
  rw [rows] at fits
  rw [psLines, rows, Text.lines_flatMap (fun row member => (each row member).1)
    fun row member => (each row member).2.1]
  apply contentLines_captured _ _ _ fits
  · exact fun row member => (each row member).1
  · exact fun row member => (each row member).2.1
  · exact fun row member => (each row member).2.2

end DockerState

/-! ### The workload of a command -/

/-- The listing a lifecycle command reads. -/
def workloadListing (projectId deploymentId : Uuid) : CommandSpec :=
  ContainerEngine.docker (.ps true false (workloadFilters projectId deploymentId) workloadColumns)

def workloadVerdict (projectId deploymentId : Uuid) (output : ProcessOutput) :
    Except RuntimeError (Option ManagedWorkload) :=
  if output.success then parseWorkload output.stdout projectId deploymentId
  else
    .error (.container
      s!"docker workload lookup exited with status {RuntimeError.statusText output.code}")

/-- What a lifecycle command makes of its listing. -/
def workloadOutcome (projectId deploymentId : Uuid) (result : ProcessResult) :
    Except RuntimeError (Option ManagedWorkload) :=
  processOutcome (workloadListing projectId deploymentId) result >>=
    workloadVerdict projectId deploymentId

theorem workload_eq (projectId deploymentId : Uuid) :
    ContainerEngine.workload projectId deploymentId =
      (Fallible.perform (I := Runtime) (.process (workloadListing projectId deploymentId)) >>=
        fun result => Fallible.ofExcept (workloadOutcome projectId deploymentId result)) := by
  apply runProcess_null_bind
  intro output
  rw [workloadVerdict]
  split
  · rfl
  · rfl

/-- The container a command finds. -/
structure DockerState.Found (docker : DockerState) (projectId deploymentId : Uuid)
    (workload : ManagedWorkload) (container : Container) : Prop where
  present : container ∈ docker.containers
  managed : container.labels.lookup managedLabel.1 = some managedLabel.2
  project : container.project = some projectId
  containerId : workload.containerId = container.shortId
  status : workload.status = container.status
  projectId : workload.projectId = projectId
  deploymentId : workload.deploymentId = deploymentId

theorem parseWorkload_found {docker : DockerState} {projectId deploymentId : Uuid}
    {workload : ManagedWorkload} (legible : docker.Legible)
    (fits : Text.byteLength (docker.psOutput true false (workloadFilters projectId deploymentId)
      workloadColumns) ≤ maxCaptureBytes)
    (found : parseWorkload (captured (docker.psLines true false
      (workloadFilters projectId deploymentId) workloadColumns)) projectId deploymentId =
        .ok (some workload)) :
    ∃ container, docker.Found projectId deploymentId workload container := by
  rw [workloadColumns] at fits found
  rw [parseWorkload, legible.contentLines fits, List.head?_map] at found
  cases first : (docker.listed true (workloadFilters projectId deploymentId)).head? with
  | none =>
      rw [first] at found
      cases found
  | some container =>
      have listed := List.mem_of_head? first
      have present : container ∈ docker.containers := List.mem_of_mem_filter listed
      have labelled := (List.mem_filter.mp listed).2
      simp only [workloadFilters, List.all_cons, Bool.and_eq_true, decide_eq_true_eq,
        Bool.true_or, true_and, List.all_nil, and_true] at labelled
      obtain ⟨managed, named, _⟩ := labelled
      rw [first, Option.map_some] at found
      dsimp only at found
      rw [legible.splitOn_psRow present] at found
      split at found
      · cases found
      · split at found
        · cases found
        · cases found
          refine ⟨container, present, managed, ?_, rfl, rfl, rfl, rfl⟩
          rw [Container.project, Container.label, named, Option.getD_some, Uuid.parseText_toText]

/-- The workload a command finds is a container of its project. -/
theorem found_of_workloadOutcome {docker : DockerState} {projectId deploymentId : Uuid}
    {result : ProcessResult} {workload : ManagedWorkload}
    (presentable : docker.Presentable (workloadListing projectId deploymentId).line)
    (truthful : result.success = true → result.stdout =
      docker.psLines true false (workloadFilters projectId deploymentId) workloadColumns)
    (found : workloadOutcome projectId deploymentId result = .ok (some workload)) :
    ∃ container, docker.Found projectId deploymentId workload container := by
  obtain ⟨legible, fits⟩ := presentable
  obtain ⟨output, succeeded, printed, verdict⟩ := read_of_processOutcome found
  unfold workloadVerdict at verdict
  split at verdict
  · rename_i success
    rw [printed, truthful (succeeded ▸ success)] at verdict
    exact parseWorkload_found legible fits verdict
  · cases verdict

end SakalaAgent
