/-
Module: SakalaAgent.Proofs.ValidPayload
Layer: Proofs
Purpose: What is known of a payload that has passed its checks: the shape of its domain, of the names
  and values of its environment, and of its port.
Trusted boundary: none
Main exports: DeployProjectPayload.Accepted, accepted_of_validatePayload, mem_of_validDomain
-/
import SakalaAgent.Runtime.Validation
import SakalaAgent.Text.Decimal

namespace SakalaAgent

/-- What the checks of a payload leave. -/
structure DeployProjectPayload.Accepted (payload : DeployProjectPayload) : Prop where
  port : payload.containerPort ≠ 0
  domain : validDomain payload.domain.toList = true
  entries : ∀ entry ∈ payload.environment, safeEntry entry = true
  portEntry : ∀ value, payload.environment.lookup "PORT" = some value →
    Text.parseNat (2 ^ 16) value.toList = some payload.containerPort.toNat

theorem safeEntry_of_validateEnvironment {parsers : Parsers}
    {environment : List (String × String)}
    (valid : validateEnvironment parsers environment = .ok ()) :
    ∀ entry ∈ environment, safeEntry entry = true := by
  unfold validateEnvironment at valid
  split at valid
  · cases valid
  · rename_i noUnsafe
    intro entry member
    simpa using List.find?_eq_none.mp noUnsafe entry member

theorem parseNat_of_validatePort {environment : List (String × String)} {containerPort : UInt16}
    (valid : validatePort environment containerPort = .ok ()) :
    ∀ value, environment.lookup "PORT" = some value →
      Text.parseNat (2 ^ 16) value.toList = some containerPort.toNat := by
  intro value isSet
  rw [validatePort, isSet] at valid
  dsimp only at valid
  split at valid
  · assumption
  · cases valid

theorem accepted_of_validatePayload {parsers : Parsers} {payload : DeployProjectPayload}
    (valid : validatePayload parsers payload = .ok ()) : payload.Accepted := by
  unfold validatePayload at valid
  cases source : validateRepositorySource parsers payload.repositoryUrl payload.commitSha with
  | error error =>
      rw [source] at valid
      cases valid
  | ok _ =>
      rw [source] at valid
      change (if payload.containerPort = 0 then _ else _) = _ at valid
      split at valid
      · cases valid
      rename_i port
      split at valid
      · cases valid
      rename_i domain
      cases environment : validateEnvironment parsers payload.environment with
      | error error =>
          rw [environment] at valid
          cases valid
      | ok _ =>
          rw [environment] at valid
          exact
            { port
              domain := by simpa using domain
              entries := safeEntry_of_validateEnvironment environment
              portEntry := parseNat_of_validatePort valid }

/-! ### Characters -/

/-- A printable character of ASCII is no white space. -/
theorem isWhiteSpace_of_graphic {character : Char} (low : 33 ≤ character.toNat)
    (high : character.toNat ≤ 126) : Text.isWhiteSpace character = false := by
  simp only [Text.isWhiteSpace, Bool.or_eq_false_iff, Bool.and_eq_false_iff,
    decide_eq_false_iff_not]
  omega

/-- The characters of the labels of a domain: lower-case letters, digits and hyphens. -/
theorem code_of_isLabelCharacter {character : Char} (isLabel : isLabelCharacter character = true) :
    character.toNat = 45 ∨ (48 ≤ character.toNat ∧ character.toNat ≤ 57) ∨
      (97 ≤ character.toNat ∧ character.toNat ≤ 122) := by
  simp only [isLabelCharacter, Char.isLower, Char.isDigit, Bool.or_eq_true, Bool.and_eq_true,
    decide_eq_true_eq, UInt32.le_iff_toNat_le, ge_iff_le] at isLabel
  rcases isLabel with (⟨low, high⟩ | ⟨low, high⟩) | hyphen
  · exact Or.inr (Or.inr ⟨low, high⟩)
  · exact Or.inr (Or.inl ⟨low, high⟩)
  · exact Or.inl (congrArg Char.toNat hyphen)

/-! ### Domains -/

/-- A domain consists of its labels and the dots between them. -/
theorem mem_of_validDomain {domain : Text} (valid : validDomain domain = true) {character : Char}
    (member : character ∈ domain) : character = '.' ∨ isLabelCharacter character = true := by
  simp only [validDomain, Bool.and_eq_true, List.all_eq_true] at valid
  have ended : character ∈ domain ++ ['.'] := List.mem_append_left _ member
  rw [← Text.flatMap_splitOn, List.mem_flatMap] at ended
  obtain ⟨label, isPiece, inside⟩ := ended
  rcases List.mem_append.mp inside with inLabel | dot
  · have sound := valid.2 label isPiece
    simp only [validLabel, Bool.and_eq_true, List.all_eq_true] at sound
    exact Or.inr (sound.2 character inLabel)
  · exact Or.inl (List.mem_singleton.mp dot)

theorem code_of_validDomain {domain : Text} (valid : validDomain domain = true) {character : Char}
    (member : character ∈ domain) :
    character.toNat = 45 ∨ character.toNat = 46 ∨
      (48 ≤ character.toNat ∧ character.toNat ≤ 57) ∨
      (97 ≤ character.toNat ∧ character.toNat ≤ 122) := by
  rcases mem_of_validDomain valid member with dot | isLabel
  · exact Or.inr (Or.inl (congrArg Char.toNat dot))
  · rcases code_of_isLabelCharacter isLabel with hyphen | other
    · exact Or.inl hyphen
    · exact Or.inr (Or.inr other)

theorem isWhiteSpace_of_validDomain {domain : Text} (valid : validDomain domain = true)
    {character : Char} (member : character ∈ domain) : Text.isWhiteSpace character = false := by
  have code := code_of_validDomain valid member
  apply isWhiteSpace_of_graphic
  · omega
  · omega

theorem ne_nil_of_validDomain {domain : Text} (valid : validDomain domain = true) :
    domain ≠ [] := by
  rintro rfl
  cases valid

end SakalaAgent
