/-
Module: SakalaAgent.Proofs.DeploymentNames
Layer: Proofs
Purpose: The names a deployment gives to its container and to its image. The container is named by the
  whole id of the deployment, the image by the first digits of that id and of its commit, so that two
  deployments of one project can come to share a tag.
Trusted boundary: none
Main exports: IsCommitSha, imageName_eq_iff, containerName_injective, names_distinct_iff
-/
import SakalaAgent.Proofs.Listings
import SakalaAgent.Runtime.Validation

namespace SakalaAgent

/-- A complete commit id, as it is checked for. -/
structure IsCommitSha (commitSha : Text) : Prop where
  length : commitSha.length = 40
  digits : commitSha.all isAsciiHexDigit = true

/-! ### Parts of an id -/

theorem hexDigit_injective : Function.Injective Uuid.hexDigit := by
  intro first second same
  have read := Uuid.hexValue_hexDigit first
  rw [same, Uuid.hexValue_hexDigit] at read
  exact (Option.some.inj read).symm

/-- The first group of a printed id. -/
theorem take_toText (uuid : Uuid) : uuid.toText.take 8 = (uuid.digits.take 8).map Uuid.hexDigit := by
  have group : ((uuid.digits.map Uuid.hexDigit).take 8).length = 8 := by simp [uuid.complete]
  rw [Uuid.toText, Uuid.hyphenated, List.take_left' group, List.map_take]

theorem take_toText_eq_iff (first second : Uuid) :
    first.toText.take 8 = second.toText.take 8 ↔ first.digits.take 8 = second.digits.take 8 := by
  rw [take_toText, take_toText]
  exact (List.map_injective_iff.mpr hexDigit_injective).eq_iff

theorem length_take_toText (uuid : Uuid) : (uuid.toText.take 8).length = 8 := by
  rw [List.length_take, toText_length]
  rfl

/-! ### The two names -/

/-- The container name ends with the whole id of its deployment. -/
theorem containerName_injective {firstProject secondProject first second : Uuid}
    (same : containerName firstProject first = containerName secondProject second) :
    first = second := by
  have behind := List.append_cancel_left same
  obtain ⟨_, rest⟩ := List.append_inj behind
    ((length_take_toText firstProject).trans (length_take_toText secondProject).symm)
  exact Uuid.toText_injective (List.cons.inj rest).2

/-- The image name has twelve digits of the commit and eight of the deployment. -/
theorem imageName_eq_iff (project first second : Uuid) {firstCommit secondCommit : Text}
    (isFirst : IsCommitSha firstCommit) (isSecond : IsCommitSha secondCommit) :
    imageName project first firstCommit = imageName project second secondCommit ↔
      firstCommit.take 12 = secondCommit.take 12 ∧ first.digits.take 8 = second.digits.take 8 := by
  unfold imageName
  rw [← take_toText_eq_iff, List.append_right_inj, List.cons_inj_right]
  constructor
  · intro same
    have lengths : (firstCommit.take 12).length = (secondCommit.take 12).length := by
      rw [List.length_take, List.length_take, isFirst.length, isSecond.length]
    obtain ⟨commits, rest⟩ := List.append_inj same lengths
    exact ⟨commits, (List.cons.inj rest).2⟩
  · rintro ⟨commits, ids⟩
    rw [commits, ids]

/-- The names of two deployments differ exactly when their commits differ in the first twelve digits or
their ids in the first eight: the containers always do, the images only then. -/
theorem names_distinct_iff (project firstProject secondProject first second : Uuid)
    (firstCommit secondCommit : Text) (different : first ≠ second)
    (isFirst : IsCommitSha firstCommit) (isSecond : IsCommitSha secondCommit) :
    (imageName project first firstCommit ≠ imageName project second secondCommit ∧
        containerName firstProject first ≠ containerName secondProject second) ↔
      (firstCommit.take 12 ≠ secondCommit.take 12 ∨ first.digits.take 8 ≠ second.digits.take 8) := by
  have images := imageName_eq_iff project first second isFirst isSecond
  have containers : containerName firstProject first ≠ containerName secondProject second :=
    fun same => different (containerName_injective same)
  rw [and_iff_left containers, Ne, images, not_and_or]

namespace TimeOrdered

/-- Two ids of one minute, ordered by the time they begin with. -/
def first : Uuid := Uuid.ofNat 0x01890a5dac96774bbcceb302099a8057

def second : Uuid := Uuid.ofNat 0x01890a5dc1d27c1fa3f2a9d6c1e07b44

def commit : Text := "0123456789012345678901234567890123456789".toList

theorem isCommitSha : IsCommitSha commit where
  length := by decide
  digits := by decide

end TimeOrdered

open TimeOrdered in
theorem names_distinct_iff_time_ordered : first ≠ second ∧ IsCommitSha commit ∧
    ((imageName first first commit ≠ imageName first second commit ∧
        containerName first first ≠ containerName first second) ↔
      (commit.take 12 ≠ commit.take 12 ∨ first.digits.take 8 ≠ second.digits.take 8)) :=
  ⟨by decide, isCommitSha, names_distinct_iff first first first first second commit commit (by decide)
    isCommitSha isCommitSha⟩

open TimeOrdered in
/-- A project deployed twice in a minute at one commit has one image name. -/
theorem image_name_shared : ¬ ∀ (project firstProject secondProject first second : Uuid)
    (firstCommit secondCommit : Text), first ≠ second → IsCommitSha firstCommit →
    IsCommitSha secondCommit →
    imageName project first firstCommit ≠ imageName project second secondCommit ∧
      containerName firstProject first ≠ containerName secondProject second := by
  intro all
  have different : first ≠ second := by decide
  have names := (all first first first first second commit commit different isCommitSha isCommitSha).1
  exact names (by decide)

end SakalaAgent
