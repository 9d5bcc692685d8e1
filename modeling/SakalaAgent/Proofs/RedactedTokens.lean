/-
Module: SakalaAgent.Proofs.RedactedTokens
Layer: Proofs
Purpose: Tokens with a prefix do not leak. No replacement of an assignment or a bearer token ends inside
  a token, and one that begins inside of it is made by a pass over prefixes, behind the prefix of the
  token. So the pass over this prefix finds the token as long as a part of it is left.
Trusted boundary: none
Main exports: Redactor.TokenAt, github_token_is_redacted
-/
import SakalaAgent.Proofs.RedactedText

namespace SakalaAgent

namespace Redactor

open Transition Text

/-- A part of the text begins with the prefix and has only allowed characters, and the secret is
nowhere else. -/
structure TokenAt (allowed : Char → Bool) (tokenPrefix : Text) (secret : Char)
    (text before token after : Text) : Prop where
  split : text = before ++ token ++ after
  begins : ∃ word rest, token = word ++ rest ∧ lowerAscii word = lowerAscii tokenPrefix
  plain : ∀ character ∈ token, allowed character = true
  notBefore : secret ∉ before
  notAfter : secret ∉ after

/-- The secret is gone, or still a part of a token. -/
def Contained (allowed : Char → Bool) (tokenPrefix : Text) (secret : Char) (text : Text) : Prop :=
  secret ∉ text ∨ ∃ before token after, TokenAt allowed tokenPrefix secret text before token after

section Cutting

variable {allowed : Char → Bool} {tokenPrefix : Text} {secret : Char}
  {text before token after front covered back : Text}

/-- A replacement before the token. -/
theorem TokenAt.replace_before (stands : TokenAt allowed tokenPrefix secret text before token after)
    (notRedacted : secret ∉ redacted) {between : Text} (split : before = front ++ covered ++ between) :
    TokenAt allowed tokenPrefix secret (front ++ redacted ++ (between ++ token ++ after))
      (front ++ redacted ++ between) token after := by
  have notBefore := stands.notBefore
  rw [split] at notBefore
  constructor
  · simp only [List.append_assoc]
  · exact stands.begins
  · exact stands.plain
  · simp only [List.mem_append, not_or] at notBefore ⊢
    exact ⟨⟨notBefore.1.1, notRedacted⟩, notBefore.2⟩
  · exact stands.notAfter

/-- A replacement behind the token. -/
theorem TokenAt.replace_after (stands : TokenAt allowed tokenPrefix secret text before token after)
    (notRedacted : secret ∉ redacted) {between : Text} (split : after = between ++ (covered ++ back)) :
    TokenAt allowed tokenPrefix secret (before ++ token ++ between ++ redacted ++ back) before token
      (between ++ redacted ++ back) := by
  have notAfter := stands.notAfter
  rw [split] at notAfter
  constructor
  · simp only [List.append_assoc]
  · exact stands.begins
  · exact stands.plain
  · exact stands.notBefore
  · simp only [List.mem_append, not_or] at notAfter ⊢
    exact ⟨⟨notAfter.1, notRedacted⟩, notAfter.2.2⟩

/-- A replacement of the token. -/
theorem TokenAt.replace_token (stands : TokenAt allowed tokenPrefix secret text before token after)
    (notRedacted : secret ∉ redacted) {first last : Text} (front_split : before = front ++ first)
    (back_split : after = last ++ back) : secret ∉ front ++ redacted ++ back := by
  have notBefore := stands.notBefore
  have notAfter := stands.notAfter
  rw [front_split] at notBefore
  rw [back_split] at notAfter
  simp only [List.mem_append, not_or] at notBefore notAfter ⊢
  exact ⟨⟨notBefore.1, notRedacted⟩, notAfter.2⟩

/-- What ends a replacement is no character of the token, so it does not end inside of it. -/
theorem TokenAt.not_inside (stands : TokenAt allowed tokenPrefix secret text before token after)
    (ends : ∀ character ∈ back.head?, allowed character = false) {first second : Text}
    (some : second ≠ []) (parts : token = first ++ second) (back_eq : back = second ++ after) :
    False := by
  cases second with
  | nil => exact some rfl
  | cons character second =>
      have plain := stands.plain character (by rw [parts]; simp)
      have refused := ends character (by rw [back_eq]; rfl)
      exact absurd (plain.symm.trans refused) (by simp)

end Cutting

/-- What a text has lost does not come back. -/
theorem not_mem_of_replaced {secret : Char} (notRedacted : secret ∉ redacted)
    {text front covered back : Text} (split : text = front ++ covered ++ back) (gone : secret ∉ text) :
    secret ∉ front ++ redacted ++ back := by
  rw [split] at gone
  simp only [List.mem_append, not_or] at gone ⊢
  exact ⟨⟨gone.1.1, notRedacted⟩, gone.2⟩

/-- A replacement between a character that introduces a value and one that ends it keeps a token of
word characters whole or replaces it. -/
theorem Contained.of_assignment { tokenPrefix : Text} {secret : Char} (notRedacted : secret ∉ redacted)
    {text front covered back : Text} (split : text = front ++ covered ++ back)
    (introduced : ∃ character ∈ front.getLast?, introduces character = true)
    (closed : ∀ character ∈ back.head?, closes character = true)
    (contained : Contained isWordCharacter tokenPrefix secret text) :
    Contained isWordCharacter tokenPrefix secret (front ++ redacted ++ back) := by
  have ends : ∀ character ∈ back.head?, isWordCharacter character = false :=
    fun character first => closes_not_word (closed character first)
  rcases contained with gone | ⟨before, token, after, stands⟩
  · exact Or.inl (not_mem_of_replaced notRedacted split gone)
  · rcases range_place (stands.split.symm.trans split) with
      ⟨between, before_eq, back_eq⟩ | ⟨between, front_eq, after_eq⟩ | ⟨first, last, before_eq, after_eq, -⟩ |
        ⟨first, second, -, some, parts, -, back_eq⟩ | ⟨first, second, last, some, -, parts, front_eq, -, -⟩
    · rw [back_eq]
      exact Or.inr ⟨_, _, _, stands.replace_before notRedacted before_eq⟩
    · rw [front_eq]
      exact Or.inr ⟨_, _, _, stands.replace_after notRedacted after_eq⟩
    · exact Or.inl (stands.replace_token notRedacted before_eq after_eq)
    · exact (stands.not_inside ends some parts back_eq).elim
    · -- A character of the token would introduce the value.
      rcases introduced with ⟨character, last, introducing⟩
      rw [front_eq, List.getLast?_append, List.getLast?_eq_some_getLast some] at last
      have inToken : character ∈ token := by
        rw [parts, ← Option.some.inj last]
        exact List.mem_append_left _ (List.getLast_mem some)
      have plain := stands.plain character inToken
      exact absurd (plain.symm.trans (introduces_not_word introducing)) (by simp)

/-- What the prefixes have in common: the first letter stands nowhere else in them. -/
theorem first_of_isPrefix { tokenPrefix : Text} (isPrefix : tokenPrefix ∈ tokenPrefixes) :
    tokenPrefix.head? = some 'g' ∧ 'g' ∉ tokenPrefix.tail ∧ lowerAscii tokenPrefix = tokenPrefix := by
  revert tokenPrefix
  decide

/-- A prefix that is found inside of a token stands behind the prefix of the token. -/
theorem begins_of_found { tokenPrefix other first second rest word behind : Text}
    (isPrefix : tokenPrefix ∈ tokenPrefixes) (isOther : other ∈ tokenPrefixes) (some : first ≠ [])
    (begins : ∃ word rest, first ++ second = word ++ rest ∧ lowerAscii word = lowerAscii tokenPrefix)
    (lowered : lowerAscii word = lowerAscii other) (found : second ++ rest = word ++ behind) :
    ∃ word rest, first = word ++ rest ∧ lowerAscii word = lowerAscii tokenPrefix := by
  rcases first_of_isPrefix isPrefix with ⟨-, notInTail, lowerPrefix⟩
  rcases first_of_isPrefix isOther with ⟨head, -, lowerOther⟩
  rcases begins with ⟨own, ownRest, split, ownLowered⟩
  rcases List.append_eq_append_iff.mp split with ⟨more, own_eq, second_eq⟩ | ⟨more, first_eq, -⟩
  · cases more with
    | nil => exact ⟨first, [], by simp, by rw [← ownLowered, own_eq, List.append_nil]⟩
    | cons letter more =>
        -- The letter is the first one of the prefix that was found, inside of the other prefix.
        have letterLower : letter.toLower = 'g' := by
          cases word with
          | nil =>
              rw [← lowerOther, ← lowered] at head
              exact absurd head (by simp [lowerAscii])
          | cons wordLetter word =>
              rw [second_eq] at found
              simp only [List.cons_append, List.cons.injEq] at found
              rw [← lowerOther, ← lowered, lowerAscii_cons, ← found.1] at head
              simpa using head
        have inPrefix : tokenPrefix = lowerAscii first ++ lowerAscii (letter :: more) := by
          rw [← lowerAscii_append, ← own_eq, ownLowered, lowerPrefix]
        cases first with
        | nil => exact absurd rfl some
        | cons firstLetter first =>
            rw [lowerAscii_cons, lowerAscii_cons, letterLower] at inPrefix
            exact absurd (by rw [inPrefix]; simp) notInTail
  · exact ⟨own, more, first_eq, ownLowered⟩

/-- A pass over a prefix keeps the beginning of a token, or replaces it. -/
theorem Contained.of_prefixed { tokenPrefix other : Text} {secret : Char}
    (isPrefix : tokenPrefix ∈ tokenPrefixes) (isOther : other ∈ tokenPrefixes)
    (notRedacted : secret ∉ redacted) {text before word behind front covered back : Text}
    (occurs : Occurs other text before word behind)
    (cuts : (Pass.prefixed other).cut before word behind = some ⟨front, covered, back⟩)
    (contained : Contained (fun character => !closesToken character) tokenPrefix secret text) :
    Contained (fun character => !closesToken character) tokenPrefix secret
      (front ++ redacted ++ back) := by
  have join := Pass.cut_join cuts
  have sameFront : before = front := congrArg Cut.front (Option.some.inj cuts)
  have sameBack : (word ++ behind).dropWhile (fun character => !closesToken character) = back :=
    congrArg Cut.back (Option.some.inj cuts)
  have ends : ∀ character ∈ back.head?, (!closesToken character) = false := by
    intro character first
    rw [← sameBack] at first
    simp [head?_dropWhile_not first]
  simp only at join
  rw [← occurs.split] at join
  rcases contained with gone | ⟨tokenBefore, token, after, stands⟩
  · exact Or.inl (not_mem_of_replaced notRedacted join.symm gone)
  · rcases range_place (stands.split.symm.trans join.symm) with
      ⟨between, before_eq, back_eq⟩ | ⟨between, front_eq, after_eq⟩ | ⟨first, last, before_eq, after_eq, -⟩ |
        ⟨first, second, -, some, parts, -, back_eq⟩ |
        ⟨first, second, last, some, -, parts, front_eq, covered_eq, after_eq⟩
    · rw [back_eq]
      exact Or.inr ⟨_, _, _, stands.replace_before notRedacted before_eq⟩
    · rw [front_eq]
      exact Or.inr ⟨_, _, _, stands.replace_after notRedacted after_eq⟩
    · exact Or.inl (stands.replace_token notRedacted before_eq after_eq)
    · exact (stands.not_inside ends some parts back_eq).elim
    · have found : second ++ (last ++ back) = word ++ behind := by
        have same := join.trans occurs.split
        rw [sameFront, List.append_assoc front, List.append_assoc front] at same
        rw [← List.append_assoc, ← covered_eq]
        exact List.append_cancel_left same
      have plain := stands.plain
      have notAfter := stands.notAfter
      rw [parts] at plain
      rw [after_eq] at notAfter
      simp only [List.mem_append, not_or] at notAfter
      refine Or.inr ⟨tokenBefore, first ++ redacted, back, ?_, ?_, ?_, stands.notBefore, notAfter.2⟩
      · rw [front_eq, List.append_assoc tokenBefore]
      · rcases begins_of_found isPrefix isOther some (parts ▸ stands.begins) occurs.lowered
          found with ⟨own, rest, rfl, lowered⟩
        exact ⟨own, rest ++ redacted, by rw [List.append_assoc], lowered⟩
      · intro character member
        rcases List.mem_append.mp member with inFirst | inRedacted
        · exact plain character (List.mem_append_left _ inFirst)
        · have solid : ∀ character ∈ redacted, (!closesToken character) = true := by decide
          exact solid character inRedacted

theorem prefixed_mem { tokenPrefix : Text} (isPrefix : tokenPrefix ∈ tokenPrefixes) :
    Pass.prefixed tokenPrefix ∈ passes := by
  apply List.mem_append_right
  apply List.mem_cons_of_mem
  exact List.mem_map_of_mem isPrefix

/-- A pass over a prefix replaces what it finds. -/
theorem prefixed_step { tokenPrefix : Text} (member : Pass.prefixed tokenPrefix ∈ passes)
    {text before word behind : Text} (occurs : Occurs tokenPrefix text before word behind) :
    (Pass.prefixed tokenPrefix).step before word behind =
      ⟨utf8 (before ++ redacted ++ (word ++ behind).dropWhile fun character => !closesToken character),
        byteLength before + byteLength redacted⟩ := by
  simp only [Pass.step, Pass.cut, Pass.redact]
  rw [if_neg (prefixed_begins member occurs)]

/-- A token that begins with the prefix is found at its beginning. -/
theorem TokenAt.occurs {allowed : Char → Bool} { tokenPrefix : Text} {secret : Char}
    {text before token after : Text}
    (stands : TokenAt allowed tokenPrefix secret text before token after) :
    ∃ word rest, Occurs tokenPrefix text before word rest := by
  rcases stands.begins with ⟨word, rest, parts, lowered⟩
  exact ⟨word, rest ++ after, by rw [stands.split, parts]; simp, lowered⟩

theorem TokenAt.token_pos {allowed : Char → Bool} { tokenPrefix : Text} {secret : Char}
    {text before token after : Text} (isPrefix : tokenPrefix ∈ tokenPrefixes)
    (stands : TokenAt allowed tokenPrefix secret text before token after) : 0 < byteLength token := by
  rcases stands.begins with ⟨word, rest, rfl, lowered⟩
  apply byteLength_pos
  intro empty
  rcases List.append_eq_nil_iff.mp empty with ⟨rfl, -⟩
  have none := List.map_eq_nil_iff.mp lowered.symm
  exact absurd (first_of_isPrefix isPrefix).1 (by rw [none]; simp)

/-- The pass over the prefix of the token comes to the token, wherever it is. -/
theorem Contained.own_pass { tokenPrefix : Text} {secret : Char} (isPrefix : tokenPrefix ∈ tokenPrefixes)
    (notRedacted : secret ∉ redacted) {line : Text} {value : Bytes}
    (contained : Contained (fun character => !closesToken character) tokenPrefix secret line)
    (ran : (Pass.prefixed tokenPrefix).run (utf8 line) = .returned value) :
    ∃ out, value = utf8 out ∧ secret ∉ out := by
  have member := prefixed_mem isPrefix
  have run := run_text (fun text searchFrom => secret ∉ text ∨ ∃ before token after,
      TokenAt (fun character => !closesToken character) tokenPrefix secret text before token after ∧
        searchFrom ≤ byteLength before) member ?_ ?_ ran
  · rcases run with ⟨out, searchFrom, rfl, gone | ⟨before, token, after, stands, behind⟩, nothing⟩
    · exact ⟨out, rfl, gone⟩
    · rcases stands.occurs with ⟨word, rest, occurs⟩
      exact absurd behind (Nat.not_le.mpr (nothing occurs))
  · intro text searchFrom before word behind text' searchFrom' _reached found stepped holds
    have occurs : Occurs tokenPrefix text before word behind := found.toOccurs
    rw [prefixed_step member occurs] at stepped
    have parts := Search.mk.inj stepped
    rcases utf8_injective parts.1 with rfl
    rcases parts.2 with rfl
    have split : text = before ++ ((word ++ behind).takeWhile fun character => !closesToken character) ++
        (word ++ behind).dropWhile fun character => !closesToken character := by
      rw [List.append_assoc, List.takeWhile_append_dropWhile, ← List.append_assoc, occurs.split]
    rcases holds with gone | ⟨tokenBefore, token, after, stands, start⟩
    · exact Or.inl (not_mem_of_replaced notRedacted split gone)
    · rcases stands.occurs with ⟨ownWord, ownRest, ownOccurs⟩
      have notBehind := found.first ownOccurs start
      have tokenPositive := stands.token_pos isPrefix
      rcases range_place (stands.split.symm.trans split) with
        ⟨between, before_eq, back_eq⟩ | ⟨between, front_eq, -⟩ | ⟨first, last, before_eq, after_eq, -⟩ |
          ⟨first, second, -, some, parts, -, back_eq⟩ | ⟨first, second, last, some, -, -, front_eq, -, -⟩
      · rw [back_eq]
        refine Or.inr ⟨_, _, _, stands.replace_before notRedacted before_eq, ?_⟩
        simp only [byteLength_append]
        omega
      · rw [front_eq] at notBehind
        simp only [byteLength_append] at notBehind
        omega
      · exact Or.inl (stands.replace_token notRedacted before_eq after_eq)
      · apply False.elim
        apply stands.not_inside ?_ some parts back_eq
        intro character head
        simp [head?_dropWhile_not head]
      · have positive := byteLength_pos some
        rw [front_eq] at notBehind
        simp only [byteLength_append] at notBehind
        omega
  · rcases contained with gone | ⟨before, token, after, stands⟩
    · exact Or.inl gone
    · exact Or.inr ⟨before, token, after, stands, Nat.zero_le _⟩

theorem Contained.mono {allowed : Char → Bool} (allowed' : Char → Bool) { tokenPrefix : Text}
    {secret : Char} {text : Text} (weaker : ∀ character, allowed character = true → allowed' character = true)
    (contained : Contained allowed tokenPrefix secret text) :
    Contained allowed' tokenPrefix secret text := by
  rcases contained with gone | ⟨before, token, after, split, begins, plain, notBefore, notAfter⟩
  · exact Or.inl gone
  · exact Or.inr ⟨before, token, after, split, begins,
      fun character member => weaker character (plain character member), notBefore, notAfter⟩

/-- The passes before those over prefixes keep a token of word characters whole. -/
theorem Contained.before_prefixes { tokenPrefix : Text} {secret : Char} (notRedacted : secret ∉ redacted)
    {line : Text} {value : Bytes} (contained : Contained isWordCharacter tokenPrefix secret line)
    (ran : runAll (sensitiveKeys.map Pass.assignment ++ [Pass.bearer]) (utf8 line) = .returned value) :
    ∃ out, value = utf8 out ∧ Contained isWordCharacter tokenPrefix secret out := by
  have sub : ∀ pass ∈ sensitiveKeys.map Pass.assignment ++ [Pass.bearer], pass ∈ passes := by
    intro pass member
    rcases List.mem_append.mp member with assignment | isBearer
    · exact List.mem_append_left _ assignment
    · rcases List.mem_singleton.mp isBearer with rfl
      exact List.mem_append_right _ List.mem_cons_self
  apply runAll_text _ sub ?_ contained ran
  intro pass text searchFrom before word behind front covered back visited found cuts _ split holds
  have notPrefixed : ∀ other, pass ≠ .prefixed other := by
    rintro other rfl
    simpa using visited.mem
  exact Contained.of_assignment notRedacted split
    (Pass.cut_introduces notPrefixed found.toOccurs cuts) (Pass.cut_closes cuts) holds

/-- The passes over other prefixes keep the beginning of a token. -/
theorem Contained.other_prefixes { tokenPrefix : Text} {secret : Char}
    (isPrefix : tokenPrefix ∈ tokenPrefixes) (notRedacted : secret ∉ redacted) {others : List Text}
    (areOthers : ∀ other ∈ others, other ∈ tokenPrefixes) {line : Text} {value : Bytes}
    (contained : Contained (fun character => !closesToken character) tokenPrefix secret line)
    (ran : runAll (others.map Pass.prefixed) (utf8 line) = .returned value) :
    ∃ out, value = utf8 out ∧
      Contained (fun character => !closesToken character) tokenPrefix secret out := by
  have sub : ∀ pass ∈ others.map Pass.prefixed, pass ∈ passes := by
    intro pass member
    rcases List.mem_map.mp member with ⟨other, inOthers, rfl⟩
    exact prefixed_mem (areOthers other inOthers)
  apply runAll_text _ sub ?_ contained ran
  intro pass text searchFrom before word behind front covered back visited found cuts _ _ holds
  rcases List.mem_map.mp visited.mem with ⟨other, inOthers, rfl⟩
  exact Contained.of_prefixed isPrefix (areOthers other inOthers) notRedacted found.toOccurs cuts holds

/-- What a text has lost no pass brings back. -/
theorem not_mem_of_runAll {secret : Char} (notRedacted : secret ∉ redacted) {list : List Pass}
    (sub : ∀ pass ∈ list, pass ∈ passes) {line : Text} {value : Bytes} (gone : secret ∉ line)
    (ran : runAll list (utf8 line) = .returned value) : ∃ out, value = utf8 out ∧ secret ∉ out := by
  apply runAll_text _ sub ?_ gone ran
  intro pass text searchFrom before word behind front covered back _ _ _ _ split holds
  exact not_mem_of_replaced notRedacted split holds

/-- A token that begins with a prefix GitHub gives its tokens is redacted, wherever it stands. -/
theorem github_token_is_redacted { tokenPrefix before token after out : Text} {secret : Char}
    (isPrefix : tokenPrefix ∈ tokenPrefixes)
    (word : ∀ character ∈ token, isWordCharacter character = true)
    (begins : lowerAscii (token.take tokenPrefix.length) = tokenPrefix)
    (notBefore : secret ∉ before) (notAfter : secret ∉ after) (notRedacted : secret ∉ redacted)
    (returned : redactLine (utf8 (before ++ token ++ after)) = .returned (utf8 out)) :
    secret ∉ out := by
  have standing : Contained isWordCharacter tokenPrefix secret (before ++ token ++ after) := by
    apply Or.inr
    refine ⟨before, token, after, rfl, ⟨token.take tokenPrefix.length, token.drop tokenPrefix.length,
      (List.take_append_drop _ _).symm, ?_⟩, word, notBefore, notAfter⟩
    exact begins.trans (first_of_isPrefix isPrefix).2.2.symm
  rcases List.append_of_mem isPrefix with ⟨earlier, later, order⟩
  have inOrder : ∀ other, other ∈ earlier ∨ other ∈ later → other ∈ tokenPrefixes := by
    intro other member
    rw [order]
    rcases member with first | last
    · exact List.mem_append_left _ first
    · exact List.mem_append_right _ (List.mem_cons_of_mem _ last)
  have list : passes = (sensitiveKeys.map Pass.assignment ++ [Pass.bearer]) ++
      (earlier.map Pass.prefixed ++ Pass.prefixed tokenPrefix :: later.map Pass.prefixed) := by
    rw [passes, order, List.map_append, List.map_cons, List.append_assoc, List.singleton_append]
  rw [redactLine_eq, list, runAll, runPasses_append] at returned
  rcases Completion.andThen_eq_returned.mp returned with ⟨firstValue, ranFirst, rest⟩
  rcases standing.before_prefixes notRedacted ranFirst with ⟨first, rfl, firstContained⟩
  rw [runPasses_append] at rest
  rcases Completion.andThen_eq_returned.mp rest with ⟨earlierValue, ranEarlier, rest⟩
  have firstSolid := firstContained.mono (fun character => !closesToken character)
    (fun character plain => by simp [closesToken_of_isWordCharacter plain])
  rcases firstSolid.other_prefixes isPrefix notRedacted
    (fun other member => inOrder other (Or.inl member)) ranEarlier with ⟨second, rfl, secondContained⟩
  rcases Completion.andThen_eq_returned.mp rest with ⟨ownValue, ranOwn, ranLater⟩
  rcases secondContained.own_pass isPrefix notRedacted ranOwn with ⟨third, rfl, thirdGone⟩
  rcases not_mem_of_runAll notRedacted (fun pass member => by
    rcases List.mem_map.mp member with ⟨other, inLater, rfl⟩
    exact prefixed_mem (inOrder other (Or.inr inLater))) thirdGone ranLater with ⟨last, same, gone⟩
  rcases utf8_injective same with rfl
  exact gone

/-- A token glued to other text, in a value with a quote that is not closed. -/
theorem glued_github_token_is_redacted : '1' ∉ "env='x bearer[REDACTED]".toList :=
  @github_token_is_redacted "ghp_".toList "env='x bearer".toList "GHP_a1".toList [] _ '1'
    (by decide) (by decide) (by decide) (by decide) (by decide) (by decide) (by decide)

end Redactor

end SakalaAgent
