/-
Module: SakalaAgent.Proofs.RedactedText
Layer: Proofs
Purpose: What a round of the redactor does to a text. The bytes it looks at, skips and replaces are
  those of whole characters, so a round that finds a key, the word or a prefix cuts the text into
  what stands before the secret, the secret and what stands behind it.
Trusted boundary: none
Main exports: Redactor.Cut, Redactor.Pass.cut, Redactor.Pass.found_utf8, Redactor.Pass.round_cases
-/
import Mathlib.Data.List.TakeWhile
import SakalaAgent.Core.Logs.Redactor

namespace SakalaAgent

namespace Redactor

open Transition Text

/-! ### Characters -/

def isSpace (character : Char) : Bool :=
  character = ' ' || character = '\t' || character = '\n' || character = '\x0c' ||
    character = '\r'

/-- An ASCII letter, a digit or an underscore. -/
def isWordCharacter (character : Char) : Bool :=
  ('0'.toNat ≤ character.toNat && character.toNat ≤ '9'.toNat) ||
    ('A'.toNat ≤ character.toNat && character.toNat ≤ 'Z'.toNat) ||
    ('a'.toNat ≤ character.toNat && character.toNat ≤ 'z'.toNat) || character = '_'

def isQuotation (character : Char) : Bool :=
  character = '\'' || character = '"'

def isAssign (character : Char) : Bool :=
  character = '=' || character = ':'

def closesValue (character : Char) : Bool :=
  isSpace character || character = ',' || character = ';'

def closesToken (character : Char) : Bool :=
  closesValue character || character = '"'

theorem isAsciiWhitespace_readsAs : ReadsAs isAsciiWhitespace isSpace :=
  ((((ReadsAs.character ' ' (by decide)).or (ReadsAs.character '\t' (by decide))).or
    (ReadsAs.character '\n' (by decide))).or (ReadsAs.character '\x0c' (by decide))).or
    (ReadsAs.character '\r' (by decide))

theorem isWordByte_readsAs : ReadsAs isWordByte isWordCharacter :=
  (((ReadsAs.range _ _ (by decide)).or (ReadsAs.range _ _ (by decide))).or
    (ReadsAs.range _ _ (by decide))).or (ReadsAs.character '_' (by decide))

theorem isQuote_readsAs : ReadsAs isQuote isQuotation :=
  (ReadsAs.character '\'' (by decide)).or (ReadsAs.character '"' (by decide))

theorem isSeparator_readsAs : ReadsAs isSeparator isAssign :=
  (ReadsAs.character '=' (by decide)).or (ReadsAs.character ':' (by decide))

theorem endsValue_readsAs : ReadsAs endsValue closesValue :=
  (isAsciiWhitespace_readsAs.or (ReadsAs.character ',' (by decide))).or
    (ReadsAs.character ';' (by decide))

theorem endsToken_readsAs : ReadsAs endsToken closesToken :=
  endsValue_readsAs.or (ReadsAs.character '"' (by decide))

/-- The closing quote is the byte of the character that opened the value. -/
theorem quote_readsAs {quote : Char} (ascii : quote.toNat < 128) :
    ReadsAs (fun byte => byte == UInt8.ofNat quote.toNat) (fun character => character = quote) := by
  have same : (fun byte : UInt8 => byte == UInt8.ofNat quote.toNat) =
      fun byte => decide (byte.toNat = quote.toNat) := by
    funext byte
    rw [Bool.beq_eq_decide_eq, decide_eq_decide, ← UInt8.toNat_inj, UInt8.toNat_ofNat',
      Nat.mod_eq_of_lt (by omega)]
  rw [same]
  exact ReadsAs.character quote ascii

theorem toNat_of_isQuotation {character : Char} (quotation : isQuotation character = true) :
    character.toNat < 128 := by
  simp only [isQuotation, Bool.or_eq_true, decide_eq_true_eq] at quotation
  rcases quotation with rfl | rfl
  · decide
  · decide

/-! ### Bytes of a text -/

theorem sliceFrom_utf8 (before behind : Text) :
    sliceFrom (utf8 (before ++ behind)) (byteLength before) = some (utf8 behind) := by
  have inside : byteLength before ≤ (utf8 (before ++ behind)).length := by
    rw [length_utf8, byteLength_append]
    omega
  rw [sliceFrom, if_pos inside, drop_utf8]

theorem getElem?_utf8 (before behind : Text) :
    (utf8 (before ++ behind))[byteLength before]? = (utf8 behind).head? := by
  rw [← List.head?_drop, drop_utf8]

/-- The first element that passes the test stands behind those that do not. -/
theorem length_takeWhile_not {α : Type} (test : α → Bool) (list : List α) :
    (list.takeWhile fun element => !test element).length = list.findIdx test := by
  rw [List.takeWhile_eq_take_findIdx_not, List.length_take]
  simp [List.findIdx_le_length]

section Reading

variable {byteTest : UInt8 → Bool} {charTest : Char → Bool}

theorem skipWhile_utf8 (reads : ReadsAs byteTest charTest) (before behind : Text) :
    skipWhile (utf8 (before ++ behind)) (byteLength before) byteTest =
      byteLength (before ++ behind.takeWhile charTest) := by
  rw [skipWhile, drop_utf8, reads.takeWhile, length_utf8, byteLength_append]

theorem firstFrom_utf8 (reads : ReadsAs byteTest charTest) (before behind : Text) :
    firstFrom (utf8 (before ++ behind)) (byteLength before) byteTest =
      some (byteLength (before ++ behind.takeWhile fun character => !charTest character)) := by
  have found := length_takeWhile_not byteTest (utf8 behind)
  rw [reads.not.takeWhile, length_utf8] at found
  rw [firstFrom, sliceFrom_utf8, Option.map_some, byteLength_append, found]
  cases index : (utf8 behind).findIdx? byteTest with
  | some relative =>
      rw [(List.findIdx?_eq_some_iff_findIdx_eq.mp index).2]
  | none =>
      rw [List.findIdx?_eq_none_iff_findIdx_eq.mp index, ← length_utf8 before, ← List.length_append,
        ← utf8_append]

end Reading

theorem replaceRange_utf8 (before secret behind : Text) (text : Bytes) :
    replaceRange (utf8 (before ++ secret ++ behind)) (byteLength before)
      (byteLength (before ++ secret)) text = some (utf8 before ++ text ++ utf8 behind) := by
  have startsAt := isCharBoundary_byteLength before (secret ++ behind)
  have stopsAt := isCharBoundary_byteLength (before ++ secret) behind
  rw [← List.append_assoc] at startsAt
  have front := take_utf8 before (secret ++ behind)
  rw [← List.append_assoc] at front
  have inside : byteLength (before ++ secret) ≤ (utf8 (before ++ secret ++ behind)).length := by
    rw [length_utf8, byteLength_append _ behind]
    omega
  have ordered : byteLength before ≤ byteLength (before ++ secret) := by
    rw [byteLength_append]
    omega
  rw [replaceRange, if_pos ⟨ordered, inside, startsAt, stopsAt⟩, front, drop_utf8]

/-! ### What a round cuts out -/

/-- A text around the secret in it. -/
structure Cut where
  front : Text
  secret : Text
  back : Text
deriving DecidableEq, Repr

/-- The text begins with the word that introduces a bearer token. -/
def startsWithBearer (text : Text) : Bool :=
  lowerAscii (text.take bearer.length) = bearer

/-- The part of a text that is the value of the key. -/
def valueOf (key : Text) (quote : Option Char) (body : Text) : Text :=
  if key = "authorization".toList ∧ startsWithBearer body = true then
    body.take bearer.length ++
      (body.drop bearer.length).takeWhile fun character => !closesToken character
  else
    body.takeWhile fun character =>
      !(match quote with
        | some quote => decide (character = quote)
        | none => closesValue character)

/-- What stands between a key and its value, if a value is assigned to it. -/
def openingOf (behind : Text) : Option (Text × Option Char) :=
  let gap := behind.takeWhile fun character => isSpace character || isQuotation character
  match behind.dropWhile fun character => isSpace character || isQuotation character with
  | [] => none
  | separator :: rest =>
      if isAssign separator then
        let quote := (rest.dropWhile isSpace).head?.filter isQuotation
        some (gap ++ separator :: rest.takeWhile isSpace ++ quote.toList, quote)
      else none

/-- The secret of a pass in a text, where it has found what it searches for. -/
def Pass.cut (pass : Pass) (before word behind : Text) : Option Cut :=
  match pass with
  | .assignment key =>
      if before.getLast?.any isWordCharacter then none
      else
        (openingOf behind).map fun (opening, quote) =>
          let body := behind.drop opening.length
          let value := valueOf key quote body
          ⟨before ++ word ++ opening, value, body.drop value.length⟩
  | .bearer =>
      some ⟨before ++ word, behind.takeWhile fun character => !closesToken character,
        behind.dropWhile fun character => !closesToken character⟩
  | .prefixed _ =>
      some ⟨before, (word ++ behind).takeWhile fun character => !closesToken character,
        (word ++ behind).dropWhile fun character => !closesToken character⟩

/-- What a round leaves of a text it has cut. Behind an empty secret the bearer pass goes on as if
it had replaced one. -/
def Pass.redact (pass : Pass) (cut : Cut) : Search :=
  if cut.secret = [] then
    ⟨utf8 (cut.front ++ cut.back),
      byteLength cut.front + if pass = .bearer then byteLength redacted else 0⟩
  else ⟨utf8 (cut.front ++ redacted ++ cut.back), byteLength cut.front + byteLength redacted⟩

/-- How a key and its value are written: white space and quotes, the separator, white space and at
most one quote. -/
structure Opens (gap : Text) (separator : Char) (space : Text) (quote : Option Char) (rest : Text) :
    Prop where
  inGap : ∀ character ∈ gap, isSpace character = true ∨ isQuotation character = true
  assigns : isAssign separator = true
  inSpace : ∀ character ∈ space, isSpace character = true
  quotation : ∀ character ∈ quote, isQuotation character = true
  bare : quote = none → ∀ character ∈ rest.head?, isSpace character = false ∧
    isQuotation character = false

theorem not_space_of_isAssign {character : Char} (assign : isAssign character = true) :
    (isSpace character || isQuotation character) = false := by
  simp only [isAssign, Bool.or_eq_true, decide_eq_true_eq] at assign
  rcases assign with rfl | rfl
  · decide
  · decide

theorem not_space_of_isQuotation {character : Char} (quotation : isQuotation character = true) :
    isSpace character = false := by
  simp only [isQuotation, Bool.or_eq_true, decide_eq_true_eq] at quotation
  rcases quotation with rfl | rfl
  · decide
  · decide

/-- What is written like an assignment is read as one. -/
theorem openingOf_of_opens {gap space rest : Text} {separator : Char} {quote : Option Char}
    (opens : Opens gap separator space quote rest) :
    openingOf (gap ++ separator :: space ++ quote.toList ++ rest) =
      some (gap ++ separator :: space ++ quote.toList, quote) := by
  have inGap : ∀ character ∈ gap, (isSpace character || isQuotation character) = true := by
    intro character member
    simpa using opens.inGap character member
  have separatorStops := not_space_of_isAssign opens.assigns
  have bodyStops : ∀ character ∈ (quote.toList ++ rest).head?, isSpace character = false := by
    intro character first
    cases quote with
    | none => exact (opens.bare rfl character first).1
    | some quote =>
        have same : quote = character := by simpa using first
        exact not_space_of_isQuotation (opens.quotation character (by rw [same]; rfl))
  have split : gap ++ separator :: space ++ quote.toList ++ rest =
      gap ++ separator :: (space ++ (quote.toList ++ rest)) := by simp
  have quoted : (quote.toList ++ rest).head?.filter isQuotation = quote := by
    cases quote with
    | none =>
        cases rest with
        | nil => rfl
        | cons character rest =>
            have bare := (opens.bare rfl character rfl).2
            simp [Option.filter, bare]
    | some quote => simp [Option.filter, opens.quotation quote rfl]
  simp only [openingOf]
  rw [split, List.takeWhile_append_of_pos inGap, List.dropWhile_append_of_pos inGap,
    List.takeWhile_cons_of_neg (by simp [separatorStops]),
    List.dropWhile_cons_of_neg (by simp [separatorStops])]
  simp only [opens.assigns, if_true]
  rw [List.takeWhile_append_of_pos opens.inSpace, List.dropWhile_append_of_pos opens.inSpace,
    takeWhile_of_head? bodyStops, dropWhile_of_head? bodyStops, quoted]
  simp

/-- What is read as an assignment is written like one. -/
theorem opens_of_openingOf {behind opening : Text} {quote : Option Char}
    (opened : openingOf behind = some (opening, quote)) :
    ∃ gap separator space rest, opening = gap ++ separator :: space ++ quote.toList ∧
      behind = opening ++ rest ∧ Opens gap separator space quote rest := by
  simp only [openingOf] at opened
  split at opened
  · exact absurd opened (by simp)
  · rename_i separator after split
    split at opened
    · rename_i assign
      rcases Option.some.inj opened with ⟨rfl, rfl⟩
      have gapSplit := List.takeWhile_append_dropWhile (l := behind)
        (p := fun character => isSpace character || isQuotation character)
      have spaceSplit := List.takeWhile_append_dropWhile (l := after) (p := isSpace)
      rw [split] at gapSplit
      have bodyStops : ∀ character ∈ (after.dropWhile isSpace).head?, isSpace character = false := by
        intro character first
        have stops := List.head?_dropWhile_not isSpace after
        rw [Option.mem_def.mp first] at stops
        simpa using stops
      have inGap : ∀ character ∈ behind.takeWhile fun character =>
          isSpace character || isQuotation character,
            isSpace character = true ∨ isQuotation character = true :=
        fun character member => by simpa using List.mem_takeWhile_imp member
      have whole : behind = (behind.takeWhile fun character =>
          isSpace character || isQuotation character) ++ separator ::
            (after.takeWhile isSpace ++ after.dropWhile isSpace) := by
        rw [spaceSplit, gapSplit]
      cases body : after.dropWhile isSpace with
      | nil =>
          rw [body] at whole
          refine ⟨_, separator, after.takeWhile isSpace, [], rfl, by simpa using whole, inGap, assign,
            fun character member => List.mem_takeWhile_imp member, ?_, ?_⟩
          · simp
          · simp
      | cons first rest =>
          rw [body] at whole bodyStops
          have firstStops := bodyStops first rfl
          cases quotation : isQuotation first with
          | true =>
              refine ⟨_, separator, after.takeWhile isSpace, rest, rfl, ?_, inGap, assign,
                fun character member => List.mem_takeWhile_imp member, ?_, ?_⟩
              · simpa [Option.filter, quotation] using whole
              · simp [Option.filter, quotation]
              · simp [Option.filter, quotation]
          | false =>
              refine ⟨_, separator, after.takeWhile isSpace, first :: rest, rfl, ?_, inGap, assign,
                fun character member => List.mem_takeWhile_imp member, ?_, ?_⟩
              · simpa [Option.filter, quotation] using whole
              · simp [Option.filter, quotation]
              · intro _ character head
                have same : first = character := by simpa using head
                rw [← same]
                exact ⟨firstStops, quotation⟩
    · exact absurd opened (by simp)

/-- What stands behind the key begins with the opening. -/
theorem openingOf_isPrefix {behind opening : Text} {quote : Option Char}
    (opened : openingOf behind = some (opening, quote)) : opening <+: behind := by
  rcases opens_of_openingOf opened with ⟨gap, separator, space, rest, -, rfl, -⟩
  exact ⟨rest, rfl⟩

theorem valueOf_isPrefix (key : Text) (quote : Option Char) (body : Text) :
    valueOf key quote body <+: body := by
  rw [valueOf]
  split
  · rcases List.takeWhile_prefix (l := body.drop bearer.length)
      (fun character => !closesToken character) with ⟨rest, split⟩
    apply Exists.intro rest
    rw [List.append_assoc, split, List.take_append_drop]
  · exact List.takeWhile_prefix _

/-- The secret is a part of the text. -/
theorem Pass.cut_join {pass : Pass} {before word behind : Text} {cut : Cut}
    (cuts : pass.cut before word behind = some cut) :
    cut.front ++ cut.secret ++ cut.back = before ++ word ++ behind := by
  cases pass with
  | assignment key =>
      simp only [Pass.cut] at cuts
      split at cuts
      · exact absurd cuts (by simp)
      · rcases Option.map_eq_some_iff.mp cuts with ⟨⟨opening, quote⟩, opened, rfl⟩
        have body := List.prefix_iff_eq_append.mp (openingOf_isPrefix opened)
        have value := List.prefix_iff_eq_append.mp
          (valueOf_isPrefix key quote (behind.drop opening.length))
        simp only [List.append_assoc]
        rw [value, body]
  | bearer =>
      rcases Option.some.inj cuts with rfl
      simp only [List.append_assoc, List.takeWhile_append_dropWhile]
  | prefixed _ =>
      rcases Option.some.inj cuts with rfl
      simp only [List.append_assoc, List.takeWhile_append_dropWhile]

/-! ### A round on a text -/

theorem quote?_utf8 (before behind : Text) :
    ((utf8 (before ++ behind))[byteLength before]?).filter isQuote =
      (behind.head?.filter isQuotation).map fun character => UInt8.ofNat character.toNat := by
  rw [getElem?_utf8]
  cases behind with
  | nil => rfl
  | cons character behind =>
      have tested := isQuote_readsAs character
      cases quotation : isQuotation character with
      | true =>
          have encoded := encode_of_ascii (toNat_of_isQuotation quotation)
          have passes := tested (UInt8.ofNat character.toNat) (by simp [encoded])
          simp [Option.filter, encoded, quotation, passes]
      | false =>
          rcases encode_eq_cons character with ⟨first, rest, encoded, -, -⟩
          have refused := tested first (by simp [encoded])
          simp [Option.filter, encoded, quotation, refused]

theorem startsWithBearer_utf8 (text : Text) :
    bytesStartIgnoringCase (utf8 text) (utf8 bearer) = startsWithBearer text := by
  have lowered : lowerAscii bearer = bearer := by decide
  rw [Bool.eq_iff_iff, bytesStartIgnoringCase_utf8 (by decide), startsWithBearer, decide_eq_true_eq]
  constructor
  · rintro ⟨word, rest, rfl, same⟩
    have length : word.length = bearer.length := by
      simpa [lowerAscii] using congrArg List.length same
    rw [← length, List.take_left, same, lowered]
  · intro same
    exact ⟨text.take bearer.length, text.drop bearer.length, (List.take_append_drop _ _).symm,
      same.trans lowered.symm⟩

theorem byteLength_lt_append {secret : Text} (some : secret ≠ []) (front : Text) :
    byteLength (front ++ secret) > byteLength front := by
  have positive := byteLength_pos some
  rw [byteLength_append]
  omega

/-- The byte before a place in a text is tested as the character before it. -/
theorem glued_utf8 (before behind : Text) :
    (if byteLength before > 0 then (utf8 (before ++ behind))[byteLength before - 1]?.map isWordByte
      else some false) = some (before.getLast?.any isWordCharacter) := by
  rcases List.eq_nil_or_concat before with rfl | ⟨front, character, rfl⟩
  · rfl
  · have positive : byteLength (front ++ [character]) > 0 := byteLength_pos (by simp)
    have last : (utf8 (front ++ [character] ++ behind))[byteLength (front ++ [character]) - 1]? =
        (utf8 (front ++ [character])).getLast? := by
      rw [List.getLast?_eq_getElem?, length_utf8, utf8_append _ behind]
      apply List.getElem?_append_left
      rw [length_utf8]
      omega
    have tested := isWordByte_readsAs.getLast? (front ++ [character])
    rw [List.concat_eq_append, if_pos positive, last, ← tested]
    cases found : (utf8 (front ++ [character])).getLast? with
    | none =>
        have empty := congrArg List.length (List.getLast?_eq_none_iff.mp found)
        rw [length_utf8, List.length_nil] at empty
        omega
    | some byte => rfl

theorem valueEnd_utf8 (key front body : Text) {quote : Option Char}
    (ascii : ∀ character ∈ quote, character.toNat < 128) :
    valueEnd (utf8 key) (utf8 (front ++ body)) (byteLength front)
        (quote.map fun character => UInt8.ofNat character.toNat) =
      some (byteLength (front ++ valueOf key quote body)) := by
  have sameKey : utf8 key = utf8 "authorization".toList ↔ key = "authorization".toList :=
    ⟨utf8_injective, congrArg utf8⟩
  simp only [valueEnd, sliceFrom_utf8, Option.bind_some, startsWithBearer_utf8, sameKey, valueOf]
  split
  · rename_i bearerValue
    have lowered : lowerAscii (body.take bearer.length) = lowerAscii bearer :=
      (of_decide_eq_true bearerValue.2).trans (by decide)
    have length : byteLength (body.take bearer.length) = (utf8 bearer).length := by
      rw [length_utf8]
      exact byteLength_of_lowered (by decide) lowered
    have cursor : byteLength front + (utf8 bearer).length =
        byteLength (front ++ body.take bearer.length) := by
      rw [byteLength_append, length]
    have split : front ++ body = front ++ body.take bearer.length ++ body.drop bearer.length := by
      rw [List.append_assoc, List.take_append_drop]
    rw [cursor, split, firstFrom_utf8 endsToken_readsAs, List.append_assoc]
  · cases quote with
    | none => exact firstFrom_utf8 endsValue_readsAs front body
    | some quote => exact firstFrom_utf8 (quote_readsAs (ascii quote rfl)) front body

theorem gap_readsAs :
    ReadsAs (fun byte => isAsciiWhitespace byte || isQuote byte)
      fun character => isSpace character || isQuotation character :=
  isAsciiWhitespace_readsAs.or isQuote_readsAs

/-- An assignment is recognised by the byte behind the white space and quotes. -/
theorem separator_utf8 (front behind : Text) :
    (utf8 (front ++ behind))[skipWhile (utf8 (front ++ behind)) (byteLength front) fun byte =>
      isAsciiWhitespace byte || isQuote byte]?.any isSeparator = (openingOf behind).isSome := by
  have gap := List.takeWhile_append_dropWhile (l := behind)
    (p := fun character => isSpace character || isQuotation character)
  have text : front ++ behind =
      front ++ (behind.takeWhile fun character => isSpace character || isQuotation character) ++
        behind.dropWhile fun character => isSpace character || isQuotation character := by
    rw [List.append_assoc, gap]
  rw [skipWhile_utf8 gap_readsAs, text, getElem?_utf8, isSeparator_readsAs.head?]
  simp only [openingOf]
  split
  · rename_i empty
    rw [empty]
    rfl
  · rename_i separator rest split
    rw [split, List.head?_cons, Option.any_some]
    cases isAssign separator with
    | true => rfl
    | false => rfl

theorem utf8Size_of_isAssign {character : Char} (assign : isAssign character = true) :
    character.utf8Size = 1 := by
  simp only [isAssign, Bool.or_eq_true, decide_eq_true_eq] at assign
  rcases assign with rfl | rfl
  · rfl
  · rfl

/-- The white space and the quote behind the separator. -/
theorem opened_utf8 {behind opening : Text} {quote : Option Char} (front : Text)
    (opened : openingOf behind = some (opening, quote)) :
    let cursor := skipWhile (utf8 (front ++ behind))
      (skipWhile (utf8 (front ++ behind)) (byteLength front) (fun byte =>
        isAsciiWhitespace byte || isQuote byte) + 1) isAsciiWhitespace
    (utf8 (front ++ behind))[cursor]?.filter isQuote =
        quote.map (fun character => UInt8.ofNat character.toNat) ∧
      (if quote.isSome then cursor + 1 else cursor) = byteLength (front ++ opening) ∧
      ∀ character ∈ quote, character.toNat < 128 := by
  simp only [openingOf] at opened
  split at opened
  · exact absurd opened (by simp)
  · rename_i separator rest split
    split at opened
    · rename_i assign
      rcases Option.some.inj opened with ⟨rfl, rfl⟩
      have gap := List.takeWhile_append_dropWhile (l := behind)
        (p := fun character => isSpace character || isQuotation character)
      have space := List.takeWhile_append_dropWhile (l := rest) (p := isSpace)
      rw [split] at gap
      have toSeparator : front ++ behind =
          front ++ (behind.takeWhile fun character => isSpace character || isQuotation character) ++
            [separator] ++ rest := by
        rw [List.append_assoc, List.append_assoc, List.singleton_append, gap]
      have toBody : front ++ behind =
          front ++ (behind.takeWhile fun character => isSpace character || isQuotation character) ++
            [separator] ++ rest.takeWhile isSpace ++ rest.dropWhile isSpace := by
        rw [toSeparator, List.append_assoc _ (rest.takeWhile isSpace), space]
      have behindSeparator : skipWhile (utf8 (front ++ behind)) (byteLength front) (fun byte =>
          isAsciiWhitespace byte || isQuote byte) + 1 = byteLength (front ++
            (behind.takeWhile fun character => isSpace character || isQuotation character) ++
              [separator]) := by
        rw [skipWhile_utf8 gap_readsAs, byteLength_append _ [separator], byteLength_cons,
          utf8Size_of_isAssign assign, byteLength_nil]
      have cursor : skipWhile (utf8 (front ++ behind)) (skipWhile (utf8 (front ++ behind))
          (byteLength front) (fun byte => isAsciiWhitespace byte || isQuote byte) + 1)
            isAsciiWhitespace = byteLength (front ++
              (behind.takeWhile fun character => isSpace character || isQuotation character) ++
                [separator] ++ rest.takeWhile isSpace) := by
        rw [behindSeparator, toSeparator, skipWhile_utf8 isAsciiWhitespace_readsAs]
      simp only [cursor]
      constructor
      · rw [toBody, quote?_utf8]
      · constructor
        · cases quoted : (rest.dropWhile isSpace).head?.filter isQuotation with
          | none => simp
          | some quote =>
              have quotation := (Option.filter_eq_some_iff.mp quoted).2
              have size : quote.utf8Size = 1 := by
                rw [← String.length_utf8EncodeChar,
                  encode_of_ascii (toNat_of_isQuotation quotation), List.length_singleton]
              simp [size, Nat.add_assoc]
        · intro quote quoted
          exact toNat_of_isQuotation (Option.filter_eq_some_iff.mp quoted).2
    · exact absurd opened (by simp)

/-- The cursor behind what stands between the key and its value, and the quote there. -/
theorem assignmentAt_utf8 {key text before word behind : Text} (ascii : IsAscii key)
    (occurs : Occurs key text before word behind) :
    assignmentAt (utf8 key) (utf8 text) (byteLength before) =
      some (match (Pass.assignment key).cut before word behind with
        | none => ⟨utf8 text, byteLength (before ++ word)⟩
        | some cut => (Pass.assignment key).redact cut) := by
  have keyLength : byteLength before + (utf8 key).length = byteLength (before ++ word) := by
    rw [length_utf8, byteLength_append, byteLength_of_lowered ascii occurs.lowered]
  have glued := glued_utf8 before (word ++ behind)
  rw [← List.append_assoc, ← occurs.split] at glued
  simp only [assignmentAt, glued, Option.bind_some, keyLength, Pass.cut]
  cases before.getLast?.any isWordCharacter with
  | true => rfl
  | false =>
      have separator := separator_utf8 (before ++ word) behind
      rw [← occurs.split] at separator
      simp only [Bool.false_eq_true, if_false, separator]
      cases opened : openingOf behind with
      | none => rfl
      | some found =>
          rcases found with ⟨opening, quote⟩
          rcases opened_utf8 (before ++ word) opened with ⟨quoted, cursor, quoteAscii⟩
          rw [← occurs.split] at quoted cursor
          have body := List.prefix_iff_eq_append.mp (openingOf_isPrefix opened)
          have isSome : (quote.map fun character => UInt8.ofNat character.toNat).isSome =
              quote.isSome := by simp
          have toBody : text = before ++ word ++ opening ++ behind.drop opening.length := by
            rw [List.append_assoc _ opening, body, occurs.split]
          have ended := valueEnd_utf8 key (before ++ word ++ opening) (behind.drop opening.length)
            quoteAscii
          have value := List.prefix_iff_eq_append.mp
            (valueOf_isPrefix key quote (behind.drop opening.length))
          simp only [Option.isSome_some, if_true, quoted, isSome, Option.map_some, cursor]
          rw [← toBody] at ended
          rw [ended, Option.bind_some, Pass.redact]
          cases secret : valueOf key quote (behind.drop opening.length) with
          | nil =>
              rw [List.append_nil, if_neg (Nat.lt_irrefl _), toBody]
              simp
          | cons character rest =>
              rw [← secret, if_pos (byteLength_lt_append (by simp [secret]) _), if_neg (by simp [secret])]
              have split : text = before ++ word ++ opening ++
                  valueOf key quote (behind.drop opening.length) ++
                  (behind.drop opening.length).drop
                    (valueOf key quote (behind.drop opening.length)).length := by
                rw [List.append_assoc _ (valueOf _ _ _), value]
                exact toBody
              rw [split, replaceRange_utf8]
              simp

theorem bearerAt_utf8 {text before word behind : Text} (occurs : Occurs bearer text before word behind) :
    bearerAt (utf8 text) (byteLength before) =
      (Pass.bearer.cut before word behind).map Pass.bearer.redact := by
  have start : byteLength before + (utf8 bearer).length = byteLength (before ++ word) := by
    rw [length_utf8, byteLength_append, byteLength_of_lowered (by decide) occurs.lowered]
  simp only [bearerAt, start, Pass.cut, Option.map_some, Pass.redact]
  rw [occurs.split, firstFrom_utf8 endsToken_readsAs, Option.bind_some]
  have token := List.takeWhile_append_dropWhile (l := behind)
    (p := fun character => !closesToken character)
  cases secret : behind.takeWhile fun character => !closesToken character with
  | nil =>
      rw [secret, List.nil_append] at token
      rw [List.append_nil, if_neg (Nat.lt_irrefl _), token]
      simp
  | cons character rest =>
      rw [← secret, if_pos (byteLength_lt_append (by simp [secret]) _), if_neg (by simp [secret])]
      have split : before ++ word ++ behind =
          before ++ word ++ (behind.takeWhile fun character => !closesToken character) ++
            behind.dropWhile fun character => !closesToken character := by
        rw [List.append_assoc _ (behind.takeWhile _), token]
      rw [split, replaceRange_utf8]
      simp

theorem prefixedAt_utf8 {tokenPrefix text before word behind : Text}
    (occurs : Occurs tokenPrefix text before word behind)
    (begins : (word ++ behind).takeWhile (fun character => !closesToken character) ≠ []) :
    prefixedAt (utf8 text) (byteLength before) =
      ((Pass.prefixed tokenPrefix).cut before word behind).map (Pass.prefixed tokenPrefix).redact := by
  have token := List.takeWhile_append_dropWhile (l := word ++ behind)
    (p := fun character => !closesToken character)
  simp only [prefixedAt, Pass.cut, Option.map_some, Pass.redact]
  rw [occurs.split, List.append_assoc, firstFrom_utf8 endsToken_readsAs, Option.bind_some,
    if_neg begins]
  have split : before ++ (word ++ behind) =
      before ++ ((word ++ behind).takeWhile fun character => !closesToken character) ++
        (word ++ behind).dropWhile fun character => !closesToken character := by
    rw [List.append_assoc, token]
  rw [split, replaceRange_utf8]
  simp

/-! ### Rounds -/

/-- The passes over a line, in their order. -/
def passes : List Pass :=
  sensitiveKeys.map .assignment ++ .bearer :: tokenPrefixes.map .prefixed

theorem redactLine_eq (line : Bytes) : redactLine line = runAll passes line := by
  rw [redactLine, runAll, runAll, passes, runPasses_append]
  rfl

/-- What the passes search for: some characters of words and one space. -/
theorem needle_of_mem {pass : Pass} (member : pass ∈ passes) :
    IsAscii pass.needle ∧ pass.needle ≠ [] ∧
      ∀ character ∈ pass.needle, pass ≠ .bearer → isWordCharacter character = true := by
  revert pass
  decide

theorem isWordCharacter_toLower (character : Char) :
    isWordCharacter character.toLower = isWordCharacter character := by
  have lowered := toNat_toLower character
  have underscore (character : Char) : (decide (character = '_')) = decide (character.toNat = 95) := by
    rw [decide_eq_decide, ← Char.toNat_inj]
    rfl
  simp only [isWordCharacter, underscore, lowered]
  rw [Bool.eq_iff_iff]
  simp only [Bool.or_eq_true, Bool.and_eq_true, decide_eq_true_eq, Char.reduceToNat]
  split
  · omega
  · omega

/-- What is found of a word is characters of a word. -/
theorem isWordCharacter_of_lowered {word needle : Text} (lowered : lowerAscii word = lowerAscii needle)
    (plain : ∀ character ∈ needle, isWordCharacter character = true) :
    ∀ character ∈ word, isWordCharacter character = true := by
  induction needle generalizing word with
  | nil =>
      rw [List.map_eq_nil_iff.mp lowered]
      simp
  | cons wanted needle ih =>
      cases word with
      | nil => simp
      | cons letter word =>
          rw [lowerAscii_cons, lowerAscii_cons, List.cons.injEq] at lowered
          intro character member
          rcases List.mem_cons.mp member with rfl | inWord
          · rw [← isWordCharacter_toLower, lowered.1, isWordCharacter_toLower]
            exact plain wanted List.mem_cons_self
          · exact ih lowered.2 (fun other inNeedle => plain other (List.mem_cons_of_mem _ inNeedle))
              character inWord

theorem closesToken_of_isWordCharacter {character : Char}
    (inWord : isWordCharacter character = true) : closesToken character = false := by
  cases closes : closesToken character with
  | false => rfl
  | true =>
      simp only [closesToken, closesValue, isSpace, Bool.or_eq_true, decide_eq_true_eq] at closes
      exfalso
      revert inWord
      rcases closes with (((((((rfl | rfl) | rfl) | rfl) | rfl) | rfl) | rfl) | rfl)
      all_goals decide

/-- What a round makes of a text in which it has found something. -/
def Pass.step (pass : Pass) (before word behind : Text) : Search :=
  match pass.cut before word behind with
  | none => ⟨utf8 (before ++ word ++ behind), byteLength (before ++ word)⟩
  | some cut => pass.redact cut

/-- What is found of a prefix belongs to the token. -/
theorem prefixed_begins { tokenPrefix : Text} (member : Pass.prefixed tokenPrefix ∈ passes)
    {text before word behind : Text} (occurs : Occurs tokenPrefix text before word behind) :
    (word ++ behind).takeWhile (fun character => !closesToken character) ≠ [] := by
  have needle := needle_of_mem member
  have plain := isWordCharacter_of_lowered occurs.lowered
    (fun character inNeedle => needle.2.2 character inNeedle (by simp))
  cases word with
  | nil =>
      have empty := List.map_eq_nil_iff.mp occurs.lowered.symm
      exact absurd empty needle.2.1
  | cons letter word =>
      have kept := closesToken_of_isWordCharacter (plain letter List.mem_cons_self)
      rw [List.cons_append, List.takeWhile_cons_of_pos (by simp [kept])]
      simp

theorem Pass.found_utf8 {pass : Pass} (member : pass ∈ passes) {text before word behind : Text}
    (occurs : Occurs pass.needle text before word behind) :
    pass.found (utf8 text) (byteLength before) = some (pass.step before word behind) := by
  have needle := needle_of_mem member
  cases pass with
  | assignment key =>
      rw [Pass.step, ← occurs.split]
      exact assignmentAt_utf8 needle.1 occurs
  | bearer => exact bearerAt_utf8 occurs
  | prefixed tokenPrefix =>
      exact prefixedAt_utf8 occurs (prefixed_begins member occurs)

/-- A round of a pass over a text: the slice at the start of the search panics, nothing is found, or
the first thing found is worked on. -/
theorem Pass.round_utf8 {pass : Pass} (member : pass ∈ passes) (text : Text) (searchFrom : Nat) :
    (byteLength text < searchFrom ∧ pass.round ⟨utf8 text, searchFrom⟩ = none) ∨
      (searchFrom ≤ byteLength text ∧ pass.round ⟨utf8 text, searchFrom⟩ = some none ∧
        ∀ {before word behind}, Occurs pass.needle text before word behind →
          byteLength before < searchFrom) ∨
      (searchFrom ≤ byteLength text ∧ ∃ before word behind,
        First pass.needle text searchFrom before word behind ∧
          pass.round ⟨utf8 text, searchFrom⟩ = some (some (pass.step before word behind))) := by
  have needle := needle_of_mem member
  by_cases inside : searchFrom ≤ byteLength text
  · have slice : sliceFrom (utf8 text) searchFrom = some ((utf8 text).drop searchFrom) :=
      if_pos (by rw [length_utf8]; exact inside)
    cases position : positionOf (utf8 pass.needle) ((utf8 text).drop searchFrom) with
    | none =>
        apply Or.inr
        apply Or.inl
        apply And.intro inside
        constructor
        · simp [Pass.round, findAsciiCaseInsensitive, slice, position]
        · intro before word behind occurs
          exact positionOf_utf8_none needle.1 needle.2.1 position occurs
    | some index =>
        rcases positionOf_utf8_some needle.1 needle.2.1 position with
          ⟨before, word, behind, found, length⟩
        apply Or.inr
        apply Or.inr
        refine ⟨inside, before, word, behind, found, ?_⟩
        have worked := Pass.found_utf8 member found.toOccurs
        rw [length] at worked
        simp [Pass.round, findAsciiCaseInsensitive, slice, position, worked]
  · apply Or.inl
    constructor
    · omega
    · have slice : sliceFrom (utf8 text) searchFrom = none :=
        if_neg (by rw [length_utf8]; exact inside)
      simp [Pass.round, findAsciiCaseInsensitive, slice]

/-- A round that goes on has found something, first of all behind the start of the search. -/
theorem Pass.round_next {pass : Pass} (member : pass ∈ passes) {text : Text} {searchFrom : Nat}
    {next : Search} (went : pass.round ⟨utf8 text, searchFrom⟩ = some (some next)) :
    searchFrom ≤ byteLength text ∧ ∃ before word behind,
      First pass.needle text searchFrom before word behind ∧ next = pass.step before word behind := by
  rcases Pass.round_utf8 member text searchFrom with
    ⟨-, panics⟩ | ⟨-, ends, -⟩ | ⟨inside, before, word, behind, found, goes⟩
  · exact absurd (panics.symm.trans went) (by simp)
  · exact absurd (ends.symm.trans went) (by simp)
  · have same := Option.some.inj (Option.some.inj (goes.symm.trans went))
    exact ⟨inside, before, word, behind, found, same.symm⟩

/-- The secret stands behind what was found, or begins with it. -/
theorem Pass.cut_front {pass : Pass} (member : pass ∈ passes) {text before word behind : Text}
    (occurs : Occurs pass.needle text before word behind) {cut : Cut}
    (cuts : pass.cut before word behind = some cut) :
    before ++ word <+: cut.front ∨ cut.front = before ∧ cut.secret ≠ [] := by
  cases pass with
  | assignment key =>
      simp only [Pass.cut] at cuts
      split at cuts
      · exact absurd cuts (by simp)
      · rcases Option.map_eq_some_iff.mp cuts with ⟨⟨opening, quote⟩, -, rfl⟩
        exact Or.inl ⟨opening, rfl⟩
  | bearer =>
      rcases Option.some.inj cuts with rfl
      exact Or.inl (List.prefix_refl _)
  | prefixed tokenPrefix =>
      rcases Option.some.inj cuts with rfl
      exact Or.inr ⟨rfl, prefixed_begins member occurs⟩

/-- What a round leaves: the text as it was, or the text with its secret replaced. Only behind an
empty bearer token can the search go on from a place behind the end. -/
theorem Pass.step_cases {pass : Pass} (member : pass ∈ passes) {text before word behind : Text}
    (occurs : Occurs pass.needle text before word behind) :
    (∃ searchFrom, pass.step before word behind = ⟨utf8 text, searchFrom⟩ ∧
        byteLength (before ++ word) ≤ searchFrom ∧
        (searchFrom ≤ byteLength text ∨
          pass = .bearer ∧ behind.head?.all closesToken = true ∧
            searchFrom = byteLength (before ++ word) + byteLength redacted)) ∨
      ∃ front secret back, pass.cut before word behind = some ⟨front, secret, back⟩ ∧ secret ≠ [] ∧
        text = front ++ secret ++ back ∧ byteLength before ≤ byteLength front ∧
        pass.step before word behind =
          ⟨utf8 (front ++ redacted ++ back), byteLength front + byteLength redacted⟩ := by
  rw [occurs.split]
  cases cuts : pass.cut before word behind with
  | none =>
      apply Or.inl
      apply Exists.intro (byteLength (before ++ word))
      constructor
      · rw [Pass.step, cuts]
      · constructor
        · exact Nat.le_refl _
        · apply Or.inl
          rw [byteLength_append _ behind]
          omega
  | some cut =>
      have join := Pass.cut_join cuts
      have begins := Pass.cut_front member occurs cuts
      rcases cut with ⟨front, secret, back⟩
      by_cases empty : secret = []
      · rcases begins with ⟨opening, rfl⟩ | ⟨-, some⟩
        · subst empty
          rw [List.append_nil] at join
          apply Or.inl
          refine ⟨_, by rw [Pass.step, cuts, ← join]; rfl, ?_, ?_⟩
          · rw [byteLength_append _ opening]
            omega
          · by_cases isBearer : pass = .bearer
            · subst isBearer
              apply Or.inr
              have token := congrArg Cut.secret (Option.some.inj cuts)
              have noOpening := congrArg Cut.front (Option.some.inj cuts)
              refine ⟨rfl, ?_, ?_⟩
              · cases behind with
                | nil => rfl
                | cons character behind =>
                    cases closes : closesToken character with
                    | true => simp [closes]
                    | false => exact absurd token (by simp [closes])
              · rw [← noOpening, if_pos rfl]
            · apply Or.inl
              rw [← join, if_neg isBearer, byteLength_append _ back]
              omega
        · exact absurd empty some
      · apply Or.inr
        refine ⟨front, secret, back, rfl, empty, join.symm, ?_, ?_⟩
        · rcases begins with ⟨opening, rfl⟩ | ⟨rfl, -⟩
          · simp only [byteLength_append]
            omega
          · exact Nat.le_refl _
        · rw [Pass.step, cuts]
          exact if_neg empty

/-! ### The ends of a secret -/

/-- What can stand before the value of an assignment or before a token behind the word. -/
def introduces (character : Char) : Bool :=
  isAssign character || isSpace character || isQuotation character

/-- What can stand behind a secret. -/
def closes (character : Char) : Bool :=
  closesToken character || character = '\''

theorem introduces_not_word {character : Char} (before : introduces character = true) :
    isWordCharacter character = false := by
  simp only [introduces, isAssign, isSpace, isQuotation, Bool.or_eq_true, decide_eq_true_eq]
    at before
  rcases before with (((rfl | rfl) | ((((rfl | rfl) | rfl) | rfl) | rfl)) | (rfl | rfl))
  all_goals decide

theorem closes_not_word {character : Char} (behind : closes character = true) :
    isWordCharacter character = false := by
  cases inWord : isWordCharacter character with
  | false => rfl
  | true =>
      simp only [closes, Bool.or_eq_true, decide_eq_true_eq] at behind
      rcases behind with token | rfl
      · exact absurd token (by simp [closesToken_of_isWordCharacter inWord])
      · exact absurd inWord (by decide)

theorem drop_takeWhile {α : Type} (test : α → Bool) (list : List α) :
    list.drop (list.takeWhile test).length = list.dropWhile test := by
  have split := List.takeWhile_append_dropWhile (p := test) (l := list)
  conv => lhs; rw [← split]
  exact List.drop_left' (by rw [split])

theorem head?_dropWhile_not {test : Char → Bool} {text : Text} {character : Char}
    (first : character ∈ (text.dropWhile fun character => !test character).head?) :
    test character = true := by
  have stops := List.head?_dropWhile_not (fun character => !test character) text
  rw [Option.mem_def.mp first] at stops
  simpa using stops

/-- What ends a value that begins with the quote, or without one. -/
def closesQuoted (quote : Option Char) (character : Char) : Bool :=
  match quote with
  | some quote => character = quote
  | none => closesValue character

theorem length_take_bearer {text : Text} (starts : startsWithBearer text = true) :
    (text.take bearer.length).length = bearer.length := by
  have lowered := congrArg List.length (of_decide_eq_true starts)
  simpa [lowerAscii] using lowered

/-- What is left behind the value of a key. -/
theorem drop_valueOf (key : Text) (quote : Option Char) (body : Text) :
    body.drop (valueOf key quote body).length =
      if key = "authorization".toList ∧ startsWithBearer body = true then
        (body.drop bearer.length).dropWhile fun character => !closesToken character
      else body.dropWhile fun character => !closesQuoted quote character := by
  rw [valueOf]
  split
  · rename_i bearerValue
    rw [List.length_append, length_take_bearer bearerValue.2, ← List.drop_drop, drop_takeWhile]
  · exact drop_takeWhile _ _

/-- The value of a key ends at white space, a comma, a semicolon or a quote. -/
theorem valueOf_closes {key : Text} {quote : Option Char} {body : Text}
    (quotation : ∀ character ∈ quote, isQuotation character = true) :
    ∀ character ∈ (body.drop (valueOf key quote body).length).head?, closes character = true := by
  intro character first
  rw [drop_valueOf] at first
  split at first
  · simp [closes, head?_dropWhile_not first]
  · have stops := head?_dropWhile_not first
    cases quote with
    | none => simp [closes, closesToken, show closesValue character = true from stops]
    | some quote =>
        have same : character = quote := by simpa [closesQuoted] using stops
        have isQuote := quotation quote rfl
        subst same
        simp only [isQuotation, Bool.or_eq_true, decide_eq_true_eq] at isQuote
        rcases isQuote with rfl | rfl
        · decide
        · decide

/-- What stands between a key and its value introduces it. -/
theorem openingOf_introduces {behind opening : Text} {quote : Option Char}
    (opened : openingOf behind = some (opening, quote)) :
    opening ≠ [] ∧ (∀ character ∈ opening, introduces character = true) ∧
      ∀ character ∈ quote, isQuotation character = true := by
  rcases opens_of_openingOf opened with ⟨gap, separator, space, rest, rfl, -, opens⟩
  constructor
  · simp
  · constructor
    · intro character member
      simp only [List.mem_append, List.mem_cons, Option.mem_toList] at member
      rcases member with (inGap | rfl | inSpace) | inQuote
      · rcases opens.inGap character inGap with isSpace | isQuotation
        · simp [introduces, isSpace]
        · simp [introduces, isQuotation]
      · simp [introduces, opens.assigns]
      · simp [introduces, opens.inSpace character inSpace]
      · simp [introduces, opens.quotation character inQuote]
    · exact opens.quotation

/-- What stands behind a secret ends it. -/
theorem Pass.cut_closes {pass : Pass} {before word behind : Text} {cut : Cut}
    (cuts : pass.cut before word behind = some cut) :
    ∀ character ∈ cut.back.head?, closes character = true := by
  cases pass with
  | assignment key =>
      simp only [Pass.cut] at cuts
      split at cuts
      · exact absurd cuts (by simp)
      · rcases Option.map_eq_some_iff.mp cuts with ⟨⟨opening, quote⟩, opened, rfl⟩
        exact valueOf_closes (openingOf_introduces opened).2.2
  | bearer =>
      rcases Option.some.inj cuts with rfl
      intro character first
      simp [closes, head?_dropWhile_not first]
  | prefixed _ =>
      rcases Option.some.inj cuts with rfl
      intro character first
      simp [closes, head?_dropWhile_not first]

/-- The word that introduces a bearer token ends with a space. -/
theorem bearer_getLast {word : Text} (lowered : lowerAscii word = lowerAscii bearer) :
    ' ' ∈ word.getLast? := by
  have last := congrArg List.getLast? lowered
  have space : (lowerAscii bearer).getLast? = some ' ' := by decide
  rw [space] at last
  rcases List.eq_nil_or_concat word with rfl | ⟨front, character, rfl⟩
  · exact absurd last (by simp [lowerAscii])
  · have same : character.toLower = ' ' := by
      rw [List.concat_eq_append, lowerAscii_append, lowerAscii_cons] at last
      simpa [lowerAscii] using last
    have code := congrArg Char.toNat same
    rw [toNat_toLower] at code
    have isSpace : character = ' ' := by
      apply Char.toNat_inj.mp
      have value : ' '.toNat = 32 := rfl
      split at code
      · omega
      · exact code
    simp [isSpace]

/-- What stands before the value of an assignment or a bearer token introduces it. -/
theorem Pass.cut_introduces {pass : Pass} (notPrefixed : ∀ tokenPrefix, pass ≠ .prefixed tokenPrefix)
    {text before word behind : Text} (occurs : Occurs pass.needle text before word behind) {cut : Cut}
    (cuts : pass.cut before word behind = some cut) :
    ∃ character ∈ cut.front.getLast?, introduces character = true := by
  cases pass with
  | assignment key =>
      simp only [Pass.cut] at cuts
      split at cuts
      · exact absurd cuts (by simp)
      · rcases Option.map_eq_some_iff.mp cuts with ⟨⟨opening, quote⟩, opened, rfl⟩
        rcases openingOf_introduces opened with ⟨some, introducing, -⟩
        apply Exists.intro (opening.getLast some)
        constructor
        · simp only
          rw [List.getLast?_append, List.getLast?_eq_some_getLast some]
          rfl
        · exact introducing _ (List.getLast_mem some)
  | bearer =>
      rcases Option.some.inj cuts with rfl
      apply Exists.intro ' '
      constructor
      · simp only
        rw [List.getLast?_append, Option.mem_def.mp (bearer_getLast occurs.lowered)]
        rfl
      · decide
  | prefixed tokenPrefix => exact absurd rfl (notPrefixed tokenPrefix)

/-! ### Runs on texts -/

/-- The rule for passes over a text: what the replacement of a secret keeps, the passes keep. -/
theorem runAll_text (Inv : Text → Prop) {list : List Pass} (sub : ∀ pass ∈ list, pass ∈ passes)
    {line : Text}
    (kept : ∀ {pass text searchFrom before word behind front secret back},
      Visits Pass.round (fun value => ⟨value, 0⟩) Search.value rounds list (utf8 line) pass
        ⟨utf8 text, searchFrom⟩ →
      First pass.needle text searchFrom before word behind →
      pass.cut before word behind = some ⟨front, secret, back⟩ → secret ≠ [] →
      text = front ++ secret ++ back → Inv text → Inv (front ++ redacted ++ back))
    (holds : Inv line) {value : Bytes} (ran : runAll list (utf8 line) = .returned value) :
    ∃ out, value = utf8 out ∧ Inv out := by
  refine runPasses_invariant (fun value => ∃ text, value = utf8 text ∧ Inv text)
    (fun _ search => ∃ text, search.value = utf8 text ∧ Inv text) ?_ ?_ ?_
    ⟨line, rfl, holds⟩ ran
  · exact fun _ _ _ holds => holds
  · exact fun _ _ _ holds => holds
  · rintro pass ⟨value, searchFrom⟩ next visited ⟨text, rfl, holdsText⟩ went
    have member := sub pass visited.mem
    rcases Pass.round_next member went with ⟨-, before, word, behind, found, rfl⟩
    rcases Pass.step_cases member found.toOccurs with
      ⟨searchFrom', stepped, -, -⟩ | ⟨front, secret, back, cuts, some, split, -, stepped⟩
    · exact ⟨text, by rw [stepped], holdsText⟩
    · exact ⟨_, by rw [stepped], kept visited found cuts some split holdsText⟩

/-- The rule for one pass over a text, with the place from which it goes on. -/
theorem run_text (Inv : Text → Nat → Prop) {pass : Pass} (member : pass ∈ passes) {line : Text}
    (kept : ∀ {text searchFrom before word behind text' searchFrom'},
      Rounds pass.round ⟨utf8 line, 0⟩ ⟨utf8 text, searchFrom⟩ →
      First pass.needle text searchFrom before word behind →
      pass.step before word behind = ⟨utf8 text', searchFrom'⟩ → Inv text searchFrom →
      Inv text' searchFrom')
    (holds : Inv line 0) {value : Bytes} (ran : pass.run (utf8 line) = .returned value) :
    ∃ out searchFrom, value = utf8 out ∧ Inv out searchFrom ∧
      ∀ {before word behind}, Occurs pass.needle out before word behind →
        byteLength before < searchFrom := by
  rcases runPass_returned ran with ⟨⟨last, searchFrom⟩, reached, stops, left⟩
  have invariant : ∃ text, last = utf8 text ∧ Inv text searchFrom := by
    have both := reached.invariant (fun search : Search =>
      Rounds pass.round ⟨utf8 line, 0⟩ search ∧
        ∃ text, search.value = utf8 text ∧ Inv text search.searchFrom) ?_
      ⟨Relation.ReflTransGen.refl, line, rfl, holds⟩
    · exact both.2
    · rintro ⟨value, searchFrom⟩ next ⟨come, text, rfl, holdsText⟩ went
      rcases Pass.round_next member went with ⟨-, before, word, behind, found, rfl⟩
      apply And.intro (come.tail went)
      rcases Pass.step_cases member found.toOccurs with
        ⟨searchFrom', stepped, -, -⟩ | ⟨front, secret, back, -, -, -, -, stepped⟩
      · exact ⟨text, by rw [stepped], kept come found (by rw [stepped]) holdsText⟩
      · exact ⟨_, by rw [stepped], kept come found (by rw [stepped]) holdsText⟩
  rcases invariant with ⟨out, rfl, holdsOut⟩
  refine ⟨out, searchFrom, left, holdsOut, ?_⟩
  rcases Pass.round_utf8 member out searchFrom with
    ⟨-, panics⟩ | ⟨-, -, nothing⟩ | ⟨-, before, word, behind, -, goes⟩
  · exact absurd (panics.symm.trans stops) (by simp)
  · exact nothing
  · exact absurd (goes.symm.trans stops) (by simp)

end Redactor

end SakalaAgent
