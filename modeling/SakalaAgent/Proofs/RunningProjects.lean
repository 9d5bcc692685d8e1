/-
Module: SakalaAgent.Proofs.RunningProjects
Layer: Proofs
Purpose: The projects that run on a node: which Docker commands can add one, and what the listing the
  capacity check reads tells of them.
Trusted boundary: none
Main exports: DockerState.runningProjects, Effect.runningProjects_subset,
  DockerState.Readable, room_of_admits
-/
import SakalaAgent.Proofs.Listings
import SakalaAgent.Proofs.RuntimeOps
import Mathlib.Data.Finset.Card

namespace SakalaAgent

open Async

/-! ### Running projects -/

namespace Container

/-- The project of a managed container. -/
def project (container : Container) : Option Uuid :=
  Uuid.parseText (container.label projectIdLabel)

end Container

namespace DockerState

/-- The managed containers that run, as `docker ps` has them. -/
def running (docker : DockerState) : List Container :=
  docker.listed false [managedLabel]

/-- The projects with a managed container that runs. -/
def runningProjects (docker : DockerState) : Finset Uuid :=
  (docker.running.filterMap Container.project).toFinset

theorem mem_running {docker : DockerState} {container : Container} :
    container ∈ docker.running ↔ container ∈ docker.containers ∧ container.isListed = true ∧
      container.labels.lookup managedLabel.1 = some managedLabel.2 := by
  simp [running, listed]

theorem mem_runningProjects {docker : DockerState} {projectId : Uuid} :
    projectId ∈ docker.runningProjects ↔
      ∃ container ∈ docker.running, container.project = some projectId := by
  simp [runningProjects]

/-- What runs has run before, with the labels it had. -/
theorem runningProjects_subset {docker docker' : DockerState}
    (known : ∀ container ∈ docker'.running, ∃ before ∈ docker.running,
      before.labels = container.labels) : docker'.runningProjects ⊆ docker.runningProjects := by
  intro projectId member
  obtain ⟨container, runs, named⟩ := mem_runningProjects.mp member
  obtain ⟨before, ran, same⟩ := known container runs
  refine mem_runningProjects.mpr ⟨before, ran, ?_⟩
  rw [← named, Container.project, Container.project, Container.label, Container.label, same]

/-- A container more, and its project at most. -/
theorem runningProjects_add {docker : DockerState} {container : Container} {freshId freshName}
    {projectId : Uuid}
    (member : projectId ∈ (docker.add container freshId freshName).runningProjects) :
    projectId ∈ docker.runningProjects ∨ container.project = some projectId := by
  obtain ⟨other, runs, named⟩ := mem_runningProjects.mp member
  obtain ⟨present, isListed, managed⟩ := mem_running.mp runs
  rcases List.mem_cons.mp present with rfl | before
  · exact .inr named
  · left
    exact mem_runningProjects.mpr ⟨other, mem_running.mpr ⟨before, isListed, managed⟩, named⟩

theorem runningProjects_keep {docker : DockerState} (kept : Container → Bool) :
    (docker.keep kept).runningProjects ⊆ docker.runningProjects := by
  apply runningProjects_subset
  intro container runs
  obtain ⟨present, facts⟩ := mem_running.mp runs
  exact ⟨container, mem_running.mpr ⟨List.mem_of_mem_filter present, facts⟩, rfl⟩

/-- A container that is stopped. -/
theorem runningProjects_setStatus {docker : DockerState} {id status : Text} {plain : Plain status}
    (ended : isListedStatus status = false) :
    (docker.setStatus id status plain).runningProjects ⊆ docker.runningProjects := by
  apply runningProjects_subset
  intro container runs
  obtain ⟨present, isListed, managed⟩ := mem_running.mp runs
  obtain ⟨before, member, rfl⟩ := List.mem_map.mp present
  split at isListed
  · rw [Container.isListed, ended] at isListed
    cases isListed
  · rename_i other
    rw [if_neg other] at managed
    exact ⟨before, mem_running.mpr ⟨member, isListed, managed⟩, by rw [if_neg other]⟩

/-- A container of one id. -/
theorem eq_of_id {docker : DockerState} {container other : Container}
    (present : container ∈ docker.containers) (present' : other ∈ docker.containers)
    (same : other.id = container.id) : other = container :=
  List.inj_on_of_nodup_map docker.distinctIds present' present same

/-- A container that comes up, and its project at most. -/
theorem runningProjects_revive {docker : DockerState} {container : Container} {projectId : Uuid}
    {status : Text} {plain : Plain status} (present : container ∈ docker.containers)
    (named : container.project = some projectId) :
    (docker.setStatus container.id status plain).runningProjects ⊆
      insert projectId docker.runningProjects := by
  intro other member
  obtain ⟨revived, runs, ofProject⟩ := mem_runningProjects.mp member
  obtain ⟨known, isListed, managed⟩ := mem_running.mp runs
  obtain ⟨before, member, rfl⟩ := List.mem_map.mp known
  by_cases same : before.id = container.id
  · obtain rfl := eq_of_id present member same
    rw [if_pos rfl] at ofProject
    obtain rfl : projectId = other := Option.some.inj (named.symm.trans ofProject)
    exact Finset.mem_insert_self ..
  · rw [if_neg same] at isListed managed ofProject
    apply Finset.mem_insert_of_mem
    exact mem_runningProjects.mpr ⟨before, mem_running.mpr ⟨member, isListed, managed⟩, ofProject⟩

end DockerState

/-! ### Commands -/

/-- The project of the container a `docker run` makes. -/
def RunOptions.project (options : RunOptions) : Option Uuid :=
  Uuid.parseText ((options.labels.lookup projectIdLabel).getD [])

theorem Effect.runningProjects_subset {docker docker' : DockerState} {command : DockerCommand}
    (effect : docker.Effect command docker') (tame : (CommandLine.docker command).isTame = true) :
    docker'.runningProjects ⊆ docker.runningProjects := by
  cases effect with
  | run => cases tame
  | start => cases tame
  | restart => cases tame
  | stop graceSeconds reference container status plain found ended =>
      exact DockerState.runningProjects_setStatus ended
  | rm isForced reference container found removable => exact DockerState.runningProjects_keep _
  | _ => exact Finset.Subset.refl _

theorem Effect.runningProjects_run {docker docker' : DockerState} {options : RunOptions}
    {projectId : Uuid} (effect : docker.Effect (.run options) docker')
    (member : projectId ∈ docker'.runningProjects) :
    projectId ∈ docker.runningProjects ∨ options.project = some projectId := by
  cases effect with
  | run _ container freshId freshName named labelled =>
      have same : container.project = options.project := by
        rw [Container.project, Container.label, labelled, RunOptions.project]
      exact same ▸ DockerState.runningProjects_add member

/-! ### The listing of the capacity check -/

namespace DockerState

/-- The listing of the capacity check says what runs: every managed container that runs has the id of
a project in its label, and the listing fits into what is captured of an output. -/
def Readable (docker : DockerState) : Prop :=
  (∀ container ∈ docker.running, ∃ projectId : Uuid,
    container.label projectIdLabel = projectId.toText) ∧
  Text.byteLength (docker.psOutput false false [managedLabel] [.label projectIdLabel]) ≤
    maxCaptureBytes

instance (docker : DockerState) : Decidable docker.Readable :=
  have read : (∀ container ∈ docker.running,
      (Uuid.parseText (container.label projectIdLabel)).map Uuid.toText =
        some (container.label projectIdLabel)) ↔
      ∀ container ∈ docker.running, ∃ projectId : Uuid,
        container.label projectIdLabel = projectId.toText := by
    refine forall₂_congr fun container _ => ⟨fun same => ?_, fun ⟨projectId, label⟩ => ?_⟩
    · obtain ⟨projectId, _, same⟩ := Option.map_eq_some_iff.mp same
      exact ⟨projectId, same.symm⟩
    · rw [label, Uuid.parseText_toText, Option.map_some]
  decidable_of_iff _ (and_congr_left' read)

/-- There is room for one more project, or it runs already. -/
def Room (docker : DockerState) (maximum : Nat) (projectId : Uuid) : Prop :=
  (insert projectId docker.runningProjects).card ≤ maximum

instance (docker : DockerState) (maximum : Nat) (projectId : Uuid) :
    Decidable (docker.Room maximum projectId) :=
  inferInstanceAs (Decidable (_ ≤ _))

theorem Room.mono {docker docker' : DockerState} {maximum : Nat} {projectId : Uuid}
    (room : docker.Room maximum projectId)
    (subset : docker'.runningProjects ⊆ docker.runningProjects) :
    docker'.Room maximum projectId :=
  (Finset.card_le_card (Finset.insert_subset_insert _ subset)).trans room

theorem labels_of_known {containers : List Container}
    (known : ∀ container ∈ containers, ∃ projectId : Uuid,
      container.label projectIdLabel = projectId.toText) :
    containers.map (fun container => container.label projectIdLabel) =
      (containers.filterMap Container.project).map Uuid.toText := by
  induction containers with
  | nil => rfl
  | cons container containers ih =>
      obtain ⟨projectId, label⟩ := known container List.mem_cons_self
      have project : container.project = some projectId := by
        rw [Container.project, label, Uuid.parseText_toText]
      have rest := ih fun other member => known other (List.mem_cons_of_mem _ member)
      rw [List.map_cons, rest, label, List.filterMap_cons_some project, List.map_cons]

/-- The listing, read back. -/
theorem Readable.activeProjects {docker : DockerState} (readable : docker.Readable) :
    SakalaAgent.activeProjects
      (captured (docker.psLines false false [managedLabel] [.label projectIdLabel])) =
        (docker.running.filterMap Container.project).map Uuid.toText := by
  have rows : docker.psOutput false false [managedLabel] [.label projectIdLabel] =
      ((docker.running.filterMap Container.project).map Uuid.toText).flatMap
        fun row => row ++ ['\n'] := by
    rw [← labels_of_known readable.1, List.flatMap_map]
    simp [psOutput, psRow, running, PsColumn.print, List.intercalate]
  have noSpace : ∀ character, Text.isWhiteSpace character = true →
      ∀ row ∈ (docker.running.filterMap Container.project).map Uuid.toText, character ∉ row := by
    intro character space row member
    obtain ⟨id, _, rfl⟩ := List.mem_map.mp member
    exact not_mem_toText space
  have fits := readable.2
  rw [rows] at fits
  rw [psLines, rows, Text.lines_flatMap (noSpace _ rfl) (noSpace _ rfl)]
  exact activeProjects_captured fits

/-- What the capacity check admits has room. -/
theorem Readable.room {docker : DockerState} {maximum : Nat} {projectId : Uuid}
    (readable : docker.Readable) (within : docker.runningProjects.card ≤ maximum)
    (admitted : admits maximum
      (captured (docker.psLines false false [managedLabel] [.label projectIdLabel]))
      projectId = true) : docker.Room maximum projectId := by
  simp only [admits, readable.activeProjects, Bool.or_eq_true, decide_eq_true_eq,
    List.contains_iff_mem, List.length_map] at admitted
  rcases admitted with runs | free
  · obtain ⟨other, member, same⟩ := List.mem_map.mp runs
    obtain rfl := Uuid.toText_injective same
    have runs : other ∈ docker.runningProjects := List.mem_toFinset.mpr member
    rw [Room, Finset.insert_eq_self.mpr runs]
    exact within
  · apply (Finset.card_insert_le ..).trans
    have most : docker.runningProjects.card ≤
        (docker.running.filterMap Container.project).length := List.toFinset_card_le _
    omega

end DockerState

/-! ### The capacity check -/

/-- The lines of a process that nobody reads. -/
theorem forM_null (lines : List (ProcessStream × Text)) :
    (forM lines (OutputSink.line .null) : RuntimeM Unit) = pure () := by
  induction lines with
  | nil => rfl
  | cons line lines ih =>
      rw [List.forM_cons, ih]
      rfl

/-- A process whose output is only captured. -/
def processOutcome (spec : CommandSpec) (result : ProcessResult) :
    Except RuntimeError ProcessOutput :=
  match result.finish with
  | .error failure => .error (failure.toError spec.line.program)
  | .ok code => .ok {
      success := result.success
      code := code
      stdout := captured (result.streamLines .stdout)
      stderr := captured (result.streamLines .stderr) }

theorem succeeds_reportFrames (phase : String) (stream : ProcessStream) (frames : List Text) :
    Fallible.Succeeds (reportFrames phase stream frames) := by
  induction frames with
  | nil => exact Fallible.succeeds_pure _
  | cons frame frames ih =>
      simp only [reportFrames]
      split
      · exact ih
      · apply Fallible.succeeds_bind (Fallible.succeeds_perform _)
        rintro (error | _)
        · exact Fallible.succeeds_pure _
        · exact ih

/-- A line that is not delivered fails nothing. -/
theorem succeeds_sink (sink : OutputSink) (lines : List (ProcessStream × Text)) :
    Fallible.Succeeds (forM lines sink.line : RuntimeM Unit) := by
  apply Fallible.succeeds_forM
  intro line _
  cases sink with
  | null => exact Fallible.succeeds_pure _
  | reporter phase => exact succeeds_reportFrames _ _ _

/-- A process, whatever its lines are used for: what holds behind it and is kept by the reports of its
lines holds at the end, with the outcome that its result has. -/
theorem wp_runProcess_keeps {W : Type} {S : Semantics Runtime W} {spec : CommandSpec}
    {sink : OutputSink} {Inv : ProcessResult → W → History Runtime → Prop} {w : W}
    {h : History Runtime}
    (kept : ∀ result, Prog.Preserves S (Spawns fun _ => False) (Inv result))
    (ran : ∀ w₀ result w', Drifts S w w₀ → S.step w₀ (.process spec) result w' →
      Inv result w' (h ++ [.done (.process spec) result])) :
    Prog.wp S (fun outcome w h => ∃ result, outcome = processOutcome spec result ∧ Inv result w h)
      (fun _ _ => True) (runProcess spec sink).run w h := by
  apply Fallible.wp_perform.mpr
  intro w₀ drifts
  constructor
  · exact fun _ _ _ _ => trivial
  intro result w' step
  have reported := Prog.wp_of_allOps (kept result) (spawns_sink sink result.lines)
    (ran w₀ result w' drifts step)
  apply Fallible.wp_bind.mpr
  apply Prog.wp_mono (Prog.wp_yields (succeeds_sink sink result.lines) reported)
  · rintro outcome w h ⟨⟨_, rfl⟩, holds⟩
    dsimp only
    cases finish : result.finish with
    | error failure => exact ⟨result, by simp only [processOutcome, finish], holds⟩
    | ok code => exact ⟨result, by simp only [processOutcome, finish], holds⟩
  · exact fun _ _ _ => trivial

theorem runProcess_null (spec : CommandSpec) :
    runProcess spec .null = (Fallible.perform (I := Runtime) (.process spec) >>=
      fun result => Fallible.ofExcept (processOutcome spec result)) := by
  unfold runProcess
  congr
  funext result
  rw [forM_null, pure_bind]
  unfold processOutcome
  cases result.finish <;> rfl

/-- The listing the capacity check reads. -/
def capacityListing : CommandSpec :=
  ContainerEngine.docker (.ps false false [managedLabel] [.label projectIdLabel])

/-- What the capacity check makes of its listing. -/
def capacityVerdict (engine : ContainerEngine) (projectId : Uuid) (output : ProcessOutput) :
    Except RuntimeError Unit :=
  if !output.success then
    .error (.container
      s!"docker capacity inspection exited with status {RuntimeError.statusText output.code}")
  else if admits engine.maxActiveContainers.toNat output.stdout projectId then .ok ()
  else
    .error (.capacity
      s!"node already runs {(activeProjects output.stdout).length} managed containers; configured maximum is {engine.maxActiveContainers}")

def capacityOutcome (engine : ContainerEngine) (projectId : Uuid) (result : ProcessResult) :
    Except RuntimeError Unit :=
  processOutcome capacityListing result >>= capacityVerdict engine projectId

/-- What is made of a process whose output is only captured. -/
theorem runProcess_null_bind {α : Type} {spec : CommandSpec} {read : ProcessOutput → RuntimeM α}
    {verdict : ProcessOutput → Except RuntimeError α}
    (same : ∀ output, read output = Fallible.ofExcept (verdict output)) :
    (runProcess spec .null >>= read) = (Fallible.perform (I := Runtime) (.process spec) >>=
      fun result => Fallible.ofExcept (processOutcome spec result >>= verdict)) := by
  rw [runProcess_null, bind_assoc]
  congr
  funext result
  cases processOutcome spec result with
  | error error => rfl
  | ok output => exact same output

theorem ensureCapacity_eq (engine : ContainerEngine) (projectId : Uuid) :
    engine.ensureCapacity projectId = (Fallible.perform (I := Runtime) (.process capacityListing) >>=
      fun result => Fallible.ofExcept (capacityOutcome engine projectId result)) := by
  apply runProcess_null_bind
  intro output
  rw [capacityVerdict]
  split
  · rfl
  · split
    · rfl
    · rfl

theorem output_of_processOutcome {spec : CommandSpec} {result : ProcessResult}
    {output : ProcessOutput} (read : processOutcome spec result = .ok output) :
    output.success = result.success ∧ output.stdout = captured result.stdout := by
  unfold processOutcome at read
  split at read
  · cases read
  · cases read
    exact ⟨rfl, rfl⟩

/-- What is read of a process is what it printed. -/
theorem read_of_processOutcome {α : Type} {spec : CommandSpec} {result : ProcessResult}
    {verdict : ProcessOutput → Except RuntimeError α} {value : α}
    (read : (processOutcome spec result >>= verdict) = .ok value) :
    ∃ output, output.success = result.success ∧ output.stdout = captured result.stdout ∧
      verdict output = .ok value := by
  unfold processOutcome at read
  split at read
  · cases read
  · exact ⟨_, rfl, rfl, read⟩

/-- A process that succeeded has an output. -/
theorem processOutcome_of_success {spec : CommandSpec} {result : ProcessResult}
    (succeeded : result.success = true) : ∃ output, processOutcome spec result = .ok output ∧
      output.success = true ∧ output.stdout = captured result.stdout := by
  unfold ProcessResult.success at succeeded
  unfold processOutcome
  split
  · rename_i failure failed
    rw [failed] at succeeded
    cases succeeded
  · exact ⟨_, rfl, by simpa [ProcessResult.success] using succeeded, rfl⟩

/-- A project is admitted only if its listing succeeded and admits it. -/
theorem admits_of_capacityOutcome {engine : ContainerEngine} {projectId : Uuid}
    {result : ProcessResult} (admitted : capacityOutcome engine projectId result = .ok ()) :
    result.success = true ∧
      admits engine.maxActiveContainers.toNat (captured result.stdout) projectId = true := by
  obtain ⟨output, succeeded, printed, verdict⟩ := read_of_processOutcome admitted
  unfold capacityVerdict at verdict
  split at verdict
  · cases verdict
  · rename_i success
    split at verdict
    · rename_i admitted
      rw [← succeeded, ← printed]
      exact ⟨by simpa using success, admitted⟩
    · cases verdict

end SakalaAgent
