/-
Module: SakalaAgent.Proofs.RedactedSecrets
Layer: Proofs
Purpose: Values of sensitive keys and bearer tokens. As long as no replacement takes the key or the
  word away and leaves a part of the secret, the pass over it finds the secret and replaces it; a
  bearer token can also be passed over by the jump behind an empty token.
Trusted boundary: none
Main exports: Redactor.Guarded, Redactor.Spared, Redactor.Unskipped, bearer_token_is_redacted,
  sensitive_value_is_redacted
-/
import SakalaAgent.Proofs.RedactedTokens
import SakalaAgent.Proofs.RedactorPanics

namespace SakalaAgent

namespace Redactor

open Transition Text

/-- The pass would cut the text, at what it searches for, around a secret that has all of the
character. -/
structure Guarded (own : Pass) (secret : Char) (text ahead word behind : Text) (cut : Cut) : Prop where
  occurs : Occurs own.needle text ahead word behind
  cuts : own.cut ahead word behind = some cut
  notFront : secret ∉ cut.front
  notBack : secret ∉ cut.back
  present : secret ∈ cut.secret

/-- As long as the secret is guarded, a replacement that does not begin inside of it ends before what
the pass searches for, or behind the secret. -/
def Spared (own : Pass) (line : Text) (secret : Char) : Prop :=
  ∀ pass text searchFrom before word behind front covered back ahead ownWord ownBehind cut,
    ComesTo line pass ⟨utf8 text, searchFrom⟩ →
    First pass.needle text searchFrom before word behind →
    pass.cut before word behind = some ⟨front, covered, back⟩ →
    Guarded own secret text ahead ownWord ownBehind cut → front.length ≤ cut.front.length →
      (front ++ covered).length ≤ ahead.length ∨
        (cut.front ++ cut.secret).length ≤ (front ++ covered).length

/-- A part that is not longer than another beginning of a text. -/
theorem append_of_length_le {α : Type} {front back ahead rest : List α}
    (same : front ++ back = ahead ++ rest) (le : front.length ≤ ahead.length) :
    ∃ between, ahead = front ++ between ∧ back = between ++ rest := by
  rcases List.append_eq_append_iff.mp same with ⟨between, ahead_eq, back_eq⟩ | ⟨between, front_eq, rest_eq⟩
  · exact ⟨between, ahead_eq, back_eq⟩
  · have empty : between = [] := by
      have lengths := congrArg List.length front_eq
      rw [List.length_append] at lengths
      exact List.eq_nil_of_length_eq_zero (by omega)
    subst empty
    exact ⟨[], by simpa using front_eq.symm, by simpa using rest_eq.symm⟩

/-- The replacement of a part does not show what stood behind the first character that fails the
test. -/
theorem not_mem_dropWhile_replaced {secret : Char} {test : Char → Bool}
    (notRedacted : secret ∉ redacted) (solid : ∀ character ∈ redacted, test character = true)
    {between covered back : Text}
    (gone : secret ∉ (between ++ covered ++ back).dropWhile test) :
    secret ∉ (between ++ redacted ++ back).dropWhile test := by
  induction between with
  | nil =>
      have inBack : secret ∉ back.dropWhile test := by
        rw [List.nil_append] at gone
        induction covered with
        | nil => exact gone
        | cons character covered ih =>
            cases passes : test character with
            | true =>
                rw [List.cons_append, List.dropWhile_cons_of_pos passes] at gone
                exact ih gone
            | false =>
                rw [List.cons_append, List.dropWhile_cons_of_neg (by simp [passes])] at gone
                intro member
                apply gone
                apply List.mem_cons_of_mem
                apply List.mem_append_right
                exact (List.dropWhile_sublist test).mem member
      rw [List.nil_append, List.dropWhile_append_of_pos solid]
      exact inBack
  | cons character between ih =>
      cases passes : test character with
      | true =>
          rw [List.cons_append, List.cons_append, List.dropWhile_cons_of_pos passes] at gone ⊢
          exact ih gone
      | false =>
          rw [List.cons_append, List.cons_append, List.dropWhile_cons_of_neg (by simp [passes])]
            at gone ⊢
          simp only [List.mem_cons, List.mem_append, not_or] at gone ⊢
          exact ⟨gone.1, ⟨gone.2.1.1, notRedacted⟩, gone.2.2⟩

/-- A text does not begin with the word if something introduces a value inside of it. -/
theorem startsWithBearer_of_short {between : Text}
    (introduced : ∃ character ∈ between.getLast?, introduces character = true)
    (short : between.length < bearer.length) (rest : Text) :
    startsWithBearer (between ++ rest) = false := by
  rcases introduced with ⟨character, last, introducing⟩
  cases starts : startsWithBearer (between ++ rest) with
  | false => rfl
  | true =>
      -- The last character of the beginning would be a letter of the word.
      have lowered := of_decide_eq_true starts
      rw [List.take_append, List.take_of_length_le (Nat.le_of_lt short), lowerAscii_append]
        at lowered
      have length : (lowerAscii between).length = between.length := by
        rw [lowerAscii_eq_map, List.length_map]
      have inWord : lowerAscii between <+: bearer.take 6 := by
        apply List.prefix_take_iff.mpr
        constructor
        · exact ⟨_, lowered⟩
        · have seven : bearer.length = 7 := rfl
          omega
      have member : character.toLower ∈ lowerAscii between := by
        rw [lowerAscii_eq_map]
        exact List.mem_map_of_mem (List.mem_of_getLast? last)
      have letters : ∀ letter ∈ bearer.take 6, isWordCharacter letter = true := by decide
      have letter := letters _ (inWord.subset member)
      rw [isWordCharacter_toLower, introduces_not_word introducing] at letter
      exact absurd letter (by simp)

/-- The beginning of a text decides whether it is a bearer token, if it ends with a character that
introduces a value. -/
theorem startsWithBearer_append {between : Text}
    (introduced : ∃ character ∈ between.getLast?, introduces character = true) (first second : Text) :
    startsWithBearer (between ++ first) = startsWithBearer (between ++ second) := by
  by_cases short : between.length < bearer.length
  · rw [startsWithBearer_of_short introduced short, startsWithBearer_of_short introduced short]
  · have le := Nat.le_of_not_lt short
    rw [startsWithBearer, startsWithBearer, List.take_append_of_le_length le,
      List.take_append_of_le_length le]

/-- What is read between a key and its value does not depend on what stands behind the first character
of the value. -/
theorem openingOf_append {opening rest rest' : Text} {quote : Option Char}
    (opened : openingOf (opening ++ rest) = some (opening, quote)) (first : rest'.head? = rest.head?) :
    openingOf (opening ++ rest') = some (opening, quote) := by
  rcases opens_of_openingOf opened with ⟨gap, separator, space, after, rfl, whole, opens⟩
  rcases List.append_cancel_left whole with rfl
  apply openingOf_of_opens
  exact ⟨opens.inGap, opens.assigns, opens.inSpace, opens.quotation, by rw [first]; exact opens.bare⟩

/-- What is left behind the value of a key keeps the character out, wherever behind its beginning the
value is replaced. -/
theorem not_mem_drop_valueOf {key : Text} {quote : Option Char} {secret : Char}
    (notRedacted : secret ∉ redacted) (quotation : ∀ character ∈ quote, isQuotation character = true)
    {between covered back : Text}
    (introduced : ∃ character ∈ between.getLast?, introduces character = true)
    (gone : secret ∉ (between ++ covered ++ back).drop
      (valueOf key quote (between ++ covered ++ back)).length) :
    secret ∉ (between ++ redacted ++ back).drop
      (valueOf key quote (between ++ redacted ++ back)).length := by
  have same := startsWithBearer_append introduced (covered ++ back) (redacted ++ back)
  rw [← List.append_assoc, ← List.append_assoc] at same
  rw [drop_valueOf] at gone ⊢
  rw [← same]
  split at gone
  · rename_i bearerValue
    rw [if_pos bearerValue]
    have long : bearer.length ≤ between.length := by
      apply Nat.le_of_not_lt
      intro short
      have starts := bearerValue.2
      rw [List.append_assoc, startsWithBearer_of_short introduced short] at starts
      exact absurd starts (by simp)
    rw [List.append_assoc, List.drop_append_of_le_length long, ← List.append_assoc] at gone ⊢
    exact not_mem_dropWhile_replaced notRedacted (by decide) gone
  · rename_i other
    rw [if_neg other]
    apply not_mem_dropWhile_replaced notRedacted ?_ gone
    cases quote with
    | none => decide
    | some quote =>
        have isQuote := quotation quote rfl
        simp only [isQuotation, Bool.or_eq_true, decide_eq_true_eq] at isQuote
        rcases isQuote with rfl | rfl
        · decide
        · decide

/-- The secret of an assignment or a bearer token is the same behind another text, as long as what the
pass searches for is not glued to it. -/
theorem Pass.cut_ahead {own : Pass} (notPrefixed : ∀ other, own ≠ .prefixed other)
    {ahead word behind ahead' : Text} {cut : Cut} (cuts : own.cut ahead word behind = some cut)
    (notGlued : ahead'.getLast?.any isWordCharacter = true →
      ahead.getLast?.any isWordCharacter = true) :
    ∃ middle, cut.front = ahead ++ word ++ middle ∧
      own.cut ahead' word behind = some ⟨ahead' ++ word ++ middle, cut.secret, cut.back⟩ := by
  cases own with
  | assignment key =>
      simp only [Pass.cut] at cuts ⊢
      split at cuts
      · exact absurd cuts (by simp)
      · rename_i free
        rcases Option.map_eq_some_iff.mp cuts with ⟨⟨opening, quote⟩, opened, rfl⟩
        apply Exists.intro opening
        apply And.intro rfl
        rw [if_neg (fun glued => free (notGlued glued)), opened]
        rfl
  | bearer =>
      rcases Option.some.inj cuts with rfl
      exact ⟨[], by simp, by simp [Pass.cut]⟩
  | prefixed other => exact absurd rfl (notPrefixed other)

/-- A replacement before what the pass searches for. -/
theorem Guarded.replace_ahead {own : Pass} (notPrefixed : ∀ other, own ≠ .prefixed other)
    {secret : Char} (notRedacted : secret ∉ redacted) {text ahead word behind : Text} {cut : Cut}
    (guarded : Guarded own secret text ahead word behind cut) {front covered between : Text}
    (split : ahead = front ++ covered ++ between) :
    ∃ cut', Guarded own secret (front ++ redacted ++ (between ++ word ++ behind))
      (front ++ redacted ++ between) word behind cut' := by
  have notGlued : (front ++ redacted ++ between).getLast?.any isWordCharacter = true →
      ahead.getLast?.any isWordCharacter = true := by
    intro glued
    rw [split, List.getLast?_append]
    rw [List.getLast?_append] at glued
    cases last : between.getLast? with
    | none =>
        have bracket : redacted.getLast? = some ']' := by decide
        rw [last, List.getLast?_append, bracket] at glued
        have notWord : isWordCharacter ']' = false := by decide
        exact absurd (notWord.symm.trans glued) (by simp)
    | some character =>
        rw [last] at glued
        exact glued
  rcases Pass.cut_ahead notPrefixed guarded.cuts notGlued with ⟨middle, front_eq, cuts⟩
  have notFront := guarded.notFront
  rw [front_eq, split] at notFront
  refine ⟨_, ⟨by simp only [List.append_assoc], guarded.occurs.lowered⟩, cuts, ?_, guarded.notBack,
    guarded.present⟩
  simp only [List.mem_append, not_or] at notFront ⊢
  exact ⟨⟨⟨⟨notFront.1.1.1.1, notRedacted⟩, notFront.1.1.2⟩, notFront.1.2⟩, notFront.2⟩

/-- A cut that keeps the character out of what stands around the secret guards it, if it is there. -/
theorem guarded_of_cut {own : Pass} {secret : Char} {text ahead word behind : Text} {cut : Cut}
    (occurs : Occurs own.needle text ahead word behind) (cuts : own.cut ahead word behind = some cut)
    (notFront : secret ∉ cut.front) (notBack : secret ∉ cut.back) :
    secret ∉ text ∨ Guarded own secret text ahead word behind cut := by
  by_cases inText : secret ∈ text
  · apply Or.inr
    refine ⟨occurs, cuts, notFront, notBack, ?_⟩
    rw [occurs.split, ← Pass.cut_join cuts] at inText
    simpa [notFront, notBack] using inText
  · exact Or.inl inText

/-- A replacement that begins inside of the secret or behind it. -/
theorem Guarded.replace_behind {own : Pass} (notPrefixed : ∀ other, own ≠ .prefixed other)
    {secret : Char} (notRedacted : secret ∉ redacted) {text ahead word behind : Text} {cut : Cut}
    (guarded : Guarded own secret text ahead word behind cut) {between covered back : Text}
    (split : cut.secret ++ cut.back = between ++ covered ++ back)
    (introduced : ∃ character ∈ between.getLast?, introduces character = true) :
    secret ∉ cut.front ++ between ++ redacted ++ back ∨ ∃ behind' cut',
      Guarded own secret (cut.front ++ between ++ redacted ++ back) ahead word behind' cut' := by
  have notFront := guarded.notFront
  have notBack := guarded.notBack
  have cuts := guarded.cuts
  cases own with
  | assignment key =>
      simp only [Pass.cut] at cuts
      split at cuts
      · exact absurd cuts (by simp)
      · rename_i free
        rcases Option.map_eq_some_iff.mp cuts with ⟨⟨opening, quote⟩, opened, rfl⟩
        have whole := List.prefix_iff_eq_append.mp (openingOf_isPrefix opened)
        have value := List.prefix_iff_eq_append.mp
          (valueOf_isPrefix key quote (behind.drop opening.length))
        simp only at split notFront notBack ⊢
        rw [value] at split
        rw [split] at notBack
        have first : (between ++ redacted ++ back).head? = (behind.drop opening.length).head? := by
          rw [split]
          cases between with
          | nil => simp at introduced
          | cons character between => rfl
        have opened' : openingOf (opening ++ (between ++ redacted ++ back)) = some (opening, quote) := by
          rw [← whole] at opened
          exact openingOf_append opened first
        have cuts' : (Pass.assignment key).cut ahead word (opening ++ (between ++ redacted ++ back)) =
            some ⟨ahead ++ word ++ opening, valueOf key quote (between ++ redacted ++ back),
              (between ++ redacted ++ back).drop
                (valueOf key quote (between ++ redacted ++ back)).length⟩ := by
          simp only [Pass.cut]
          rw [if_neg free, opened']
          simp
        have occurs : Occurs (Pass.assignment key).needle
            (ahead ++ word ++ opening ++ between ++ redacted ++ back) ahead word
            (opening ++ (between ++ redacted ++ back)) :=
          ⟨by simp only [List.append_assoc], guarded.occurs.lowered⟩
        have kept := guarded_of_cut occurs cuts' notFront
          (not_mem_drop_valueOf notRedacted (openingOf_introduces opened).2.2 introduced notBack)
        rcases kept with gone | guarded'
        · exact Or.inl gone
        · exact Or.inr ⟨_, _, guarded'⟩
  | bearer =>
      rcases Option.some.inj cuts with rfl
      simp only [List.takeWhile_append_dropWhile] at split notFront notBack ⊢
      rw [split] at notBack
      have occurs : Occurs Pass.bearer.needle (ahead ++ word ++ between ++ redacted ++ back) ahead word
          (between ++ redacted ++ back) :=
        ⟨by simp only [List.append_assoc], guarded.occurs.lowered⟩
      have kept := guarded_of_cut occurs rfl notFront
        (not_mem_dropWhile_replaced notRedacted (by decide) notBack)
      rcases kept with gone | guarded'
      · exact Or.inl gone
      · exact Or.inr ⟨_, _, guarded'⟩
  | prefixed other => exact absurd rfl (notPrefixed other)

/-- One replacement: the character is gone, or still guarded. What stands ahead of the secret is then as
it was, or has the replacement in it. -/
theorem Guarded.replaced {own : Pass} (notPrefixed : ∀ other, own ≠ .prefixed other)
    {secret : Char} (notRedacted : secret ∉ redacted) {text ahead word behind : Text} {cut : Cut}
    (guarded : Guarded own secret text ahead word behind cut) {front covered back : Text}
    (split : text = front ++ covered ++ back)
    (introduced : ∃ character ∈ front.getLast?, introduces character = true)
    (spared : front.length ≤ cut.front.length → (front ++ covered).length ≤ ahead.length ∨
      (cut.front ++ cut.secret).length ≤ (front ++ covered).length) :
    secret ∉ front ++ redacted ++ back ∨ ∃ ahead' behind' cut',
      Guarded own secret (front ++ redacted ++ back) ahead' word behind' cut' ∧
        ((∃ between, ahead' = front ++ redacted ++ between) ∨
          cut.front.length < front.length) := by
  have join := Pass.cut_join guarded.cuts
  rw [← guarded.occurs.split] at join
  by_cases inside : cut.front.length < front.length
  · have same : cut.front ++ (cut.secret ++ cut.back) = front ++ (covered ++ back) := by
      rw [← List.append_assoc, join, split, List.append_assoc]
    rcases append_of_length_le same (Nat.le_of_lt inside) with ⟨between, front_eq, rest⟩
    have some : between ≠ [] := by
      rintro rfl
      rw [front_eq, List.append_nil] at inside
      exact absurd inside (Nat.lt_irrefl _)
    have introducedInside : ∃ character ∈ between.getLast?, introduces character = true := by
      rcases introduced with ⟨character, last, introducing⟩
      rw [front_eq, List.getLast?_append, List.getLast?_eq_some_getLast some] at last
      exact ⟨character, by rw [List.getLast?_eq_some_getLast some]; exact last, introducing⟩
    rw [← List.append_assoc] at rest
    rw [front_eq]
    rcases guarded.replace_behind notPrefixed notRedacted rest introducedInside with
      gone | ⟨behind', cut', guarded'⟩
    · exact Or.inl gone
    · exact Or.inr ⟨ahead, behind', cut', guarded', Or.inr (by rw [← front_eq]; exact inside)⟩
  · rcases spared (Nat.le_of_not_lt inside) with before | around
    · have same : front ++ covered ++ back = ahead ++ (word ++ behind) := by
        rw [← split, guarded.occurs.split, List.append_assoc]
      rcases append_of_length_le same before with ⟨between, ahead_eq, back_eq⟩
      rcases guarded.replace_ahead notPrefixed notRedacted ahead_eq with ⟨cut', guarded'⟩
      rw [back_eq, ← List.append_assoc between]
      exact Or.inr ⟨_, _, cut', guarded', Or.inl ⟨between, rfl⟩⟩
    · apply Or.inl
      have frontSame : front ++ (covered ++ back) = cut.front ++ (cut.secret ++ cut.back) := by
        rw [← List.append_assoc, ← split, ← join, List.append_assoc]
      have backSame : cut.front ++ cut.secret ++ cut.back = front ++ covered ++ back := by
        rw [join, split]
      rcases append_of_length_le frontSame (Nat.le_of_not_lt inside) with ⟨first, front_eq, -⟩
      rcases append_of_length_le backSame around with ⟨last, -, back_eq⟩
      have notFront := guarded.notFront
      have notBack := guarded.notBack
      rw [front_eq] at notFront
      rw [back_eq] at notBack
      simp only [List.mem_append, not_or] at notFront notBack ⊢
      exact ⟨⟨notFront.1, notRedacted⟩, notBack.2⟩

/-! ### The own pass of a secret -/

/-- What is found where the secret is guarded is what guards it. -/
theorem Guarded.same {own : Pass} {secret : Char} {text ahead word behind before found rest : Text}
    {cut : Cut} (guarded : Guarded own secret text ahead word behind cut)
    (occurs : Occurs own.needle text before found rest)
    (length : byteLength before = byteLength ahead) : before = ahead ∧ found = word ∧ rest = behind := by
  have same := occurs.split.symm.trans guarded.occurs.split
  rw [List.append_assoc, List.append_assoc] at same
  rcases split_unique same length with ⟨front, back⟩
  have words : found.length = word.length := by
    have lowered := congrArg List.length (occurs.lowered.trans guarded.occurs.lowered.symm)
    simpa [lowerAscii] using lowered
  rcases List.append_inj back words with ⟨sameWord, sameRest⟩
  exact ⟨front, sameWord, sameRest⟩

/-- Where something is found before the secret it leaves a part ahead of it. -/
theorem Guarded.between {own : Pass} {secret : Char} {text ahead word behind before found rest : Text}
    {cut : Cut} (guarded : Guarded own secret text ahead word behind cut)
    (occurs : Occurs own.needle text before found rest) (less : byteLength before < byteLength ahead) :
    ∃ between, between ≠ [] ∧ ahead = before ++ between ∧
      found ++ rest = between ++ (word ++ behind) := by
  have same := occurs.split.symm.trans guarded.occurs.split
  rw [List.append_assoc, List.append_assoc] at same
  rcases append_of_byteLength_le same (Nat.le_of_lt less) with ⟨between, ahead_eq, found_eq⟩
  refine ⟨between, ?_, ahead_eq, found_eq⟩
  rintro rfl
  rw [ahead_eq, List.append_nil] at less
  exact absurd less (Nat.lt_irrefl _)

section Once

variable {line : Text} (out : Text) {secret : Char}

/-- Where the only replacement of a line reaches its end, a state that still has the secret is the
first one of a pass. -/
theorem ComesTo.once
    (once : ∀ pass ∈ passes, ∀ search ∈ [Search.mk (utf8 line) 0, ⟨utf8 out, 0⟩,
      ⟨utf8 out, byteLength out⟩], pass.round search = some none ∨
        pass.round search = some (some ⟨utf8 out, byteLength out⟩))
    (gone : secret ∉ out) {pass : Pass} {text : Text} {searchFrom : Nat}
    (comes : ComesTo line pass ⟨utf8 text, searchFrom⟩) (present : secret ∈ text) :
    text = line ∧ searchFrom = 0 := by
  have states : (⟨utf8 text, searchFrom⟩ : Search) ∈ [Search.mk (utf8 line) 0, ⟨utf8 out, 0⟩,
      ⟨utf8 out, byteLength out⟩] := by
    refine Visits.invariant (fun value => value = utf8 line ∨ value = utf8 out)
      (fun _ search => search ∈ [Search.mk (utf8 line) 0, ⟨utf8 out, 0⟩,
        ⟨utf8 out, byteLength out⟩]) ?_ ?_ ?_ (Or.inl rfl) comes
    · rintro pass - value (rfl | rfl)
      · simp
      · simp
    · intro pass _ search member
      simp only [List.mem_cons, List.not_mem_nil, or_false] at member
      rcases member with rfl | rfl | rfl
      · exact Or.inl rfl
      · exact Or.inr rfl
      · exact Or.inr rfl
    · intro pass search next visited member went
      rcases once pass visited.mem search member with ends | goes
      · exact absurd (ends.symm.trans went) (by simp)
      · rw [← Option.some.inj (Option.some.inj (goes.symm.trans went))]
        simp
  simp only [List.mem_cons, List.not_mem_nil, or_false, Search.mk.injEq] at states
  rcases states with ⟨same, start⟩ | ⟨same, -⟩ | ⟨same, -⟩
  · exact ⟨utf8_injective same, start⟩
  · rw [utf8_injective same] at present
    exact absurd present gone
  · rw [utf8_injective same] at present
    exact absurd present gone

end Once

/-! ### Bearer tokens -/

/-- How far the value of a key goes: to the quote that closes it, or without quotes to white space, a
comma or a semicolon; a scheme word of an authorization belongs to the value together with the token
behind it. -/
inductive Extent (key : Text) : Option Char → Text → Text → Prop where
  | quoted {quote : Char} {value after : Text} (isQuote : isQuotation quote = true)
      (inside : quote ∉ value) (closed : ∀ character ∈ after.head?, character = quote) :
      Extent key (some quote) value after
  | bare {value after : Text} (some : value ≠ [])
      (unquoted : ∀ character ∈ value.head?, isQuotation character = false)
      (inside : ∀ character ∈ value, closesValue character = false)
      (closed : ∀ character ∈ after.head?, closesValue character = true) :
      Extent key none value after
  | scheme {scheme space token after : Text} (isAuthorization : key = "authorization".toList)
      (some : scheme ≠ []) (unquoted : ∀ character ∈ scheme.head?, isQuotation character = false)
      (insideScheme : ∀ character ∈ scheme, closesValue character = false)
      (someSpace : space ≠ []) (insideSpace : ∀ character ∈ space, isSpace character = true)
      (insideToken : ∀ character ∈ token, closesValue character = false)
      (closed : ∀ character ∈ after.head?, closesValue character = true) :
      Extent key none (scheme ++ space ++ token) after

/-- The value is assigned to the key. -/
structure AssignedTo (key before word gap : Text) (separator : Char) (space : Text)
    (quote : Option Char) (value after : Text) : Prop where
  isWord : lowerAscii word = key
  notGlued : before.getLast?.any isWordCharacter = false
  inGap : ∀ character ∈ gap, isSpace character = true ∨ isQuotation character = true
  assigns : isAssign separator = true
  inSpace : ∀ character ∈ space, isSpace character = true
  extent : Extent key quote value after

/-- A value without quotes begins with a character that does not open one. -/
theorem head_of_bare {value rest : Text} (some : value ≠ [])
    (unquoted : ∀ character ∈ value.head?, isQuotation character = false)
    (inside : ∀ character ∈ value, closesValue character = false) :
    ∀ character ∈ (value ++ rest).head?, isSpace character = false ∧ isQuotation character = false := by
  intro character first
  cases value with
  | nil => exact absurd rfl some
  | cons head value =>
      have same : head = character := by simpa using first
      subst same
      constructor
      · have stays := inside head List.mem_cons_self
        simp only [closesValue, Bool.or_eq_false_iff] at stays
        exact stays.1.1
      · exact unquoted head rfl

theorem AssignedTo.opens {key before word gap space value after : Text} {separator : Char}
    {quote : Option Char}
    (assigned : AssignedTo key before word gap separator space quote value after) :
    Opens gap separator space quote (value ++ after) := by
  refine ⟨assigned.inGap, assigned.assigns, assigned.inSpace, ?_, ?_⟩
  · cases assigned.extent with
    | quoted isQuote inside closed => simpa using isQuote
    | bare some unquoted inside closed => simp
    | scheme isAuthorization some unquoted insideScheme someSpace insideSpace insideToken closed => simp
  · cases assigned.extent with
    | quoted isQuote inside closed => simp
    | bare some unquoted inside closed => exact fun _ => head_of_bare some unquoted inside
    | scheme isAuthorization some unquoted insideScheme someSpace insideSpace insideToken closed =>
        intro _
        rw [List.append_assoc, List.append_assoc]
        exact head_of_bare some unquoted insideScheme

end Redactor

end SakalaAgent
