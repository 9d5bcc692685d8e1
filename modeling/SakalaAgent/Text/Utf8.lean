/-
Module: SakalaAgent.Text.Utf8
Layer: Text (library)
Purpose: Texts as the bytes of their UTF-8 encoding. A program that searches the bytes for ASCII
  text finds only whole characters: tests of single bytes that read a byte of a character as the
  character itself, beginnings compared without regard to the case of ASCII letters, and the
  boundaries between characters.
Trusted boundary: none
Main exports: Bytes, Text.utf8, Text.ReadsAs, Text.bytesStartIgnoringCase, Text.positionOf,
  Text.isCharBoundary, Text.split_of_isCharBoundary, Text.positionOf_utf8
-/
import SakalaAgent.Text.Chars

abbrev Bytes : Type := List UInt8

namespace Text

def utf8 (text : Text) : Bytes :=
  text.flatMap String.utf8EncodeChar

@[simp] theorem utf8_nil : utf8 [] = [] := rfl

@[simp] theorem utf8_cons (character : Char) (text : Text) :
    utf8 (character :: text) = String.utf8EncodeChar character ++ utf8 text := rfl

@[simp] theorem utf8_append (first second : Text) :
    utf8 (first ++ second) = utf8 first ++ utf8 second :=
  List.flatMap_append

@[simp] theorem length_utf8 (text : Text) : (utf8 text).length = byteLength text := by
  induction text with
  | nil => rfl
  | cons character text ih =>
      rw [utf8_cons, List.length_append, ih, String.length_utf8EncodeChar, byteLength_cons]

/-- Different texts have different encodings. -/
theorem utf8_injective {first second : Text} (same : utf8 first = utf8 second) : first = second := by
  have encoded : first.utf8Encode = second.utf8Encode :=
    congrArg List.toByteArray same
  have strings : String.ofList first = String.ofList second := by
    apply String.toByteArray_inj.mp
    simpa using encoded
  simpa using congrArg String.toList strings

theorem byteLength_pos {text : Text} (some : text ≠ []) : 0 < byteLength text := by
  cases text with
  | nil => exact absurd rfl some
  | cons character text =>
      have positive := Char.utf8Size_pos character
      rw [byteLength_cons]
      omega

/-! ### One character -/

/-- A character of ASCII is one byte. -/
theorem encode_of_ascii {character : Char} (ascii : character.toNat < 128) :
    String.utf8EncodeChar character = [UInt8.ofNat character.toNat] := by
  have small : character.val.toNat ≤ 0x7f := Nat.le_of_lt_succ ascii
  simp only [String.utf8EncodeChar, if_pos small]
  rfl

/-- The bytes behind the first one of a character. -/
theorem continuation_byte (bits : Nat) :
    128 ≤ (UInt8.ofNat (bits % 0x40 + 0x80)).toNat ∧
      (UInt8.ofNat (bits % 0x40 + 0x80)).toNat < 192 := by
  rw [UInt8.toNat_ofNat']
  omega

/-- Every byte of another character is outside of ASCII, and only the first one begins it. -/
theorem encode_of_not_ascii {character : Char} (wide : 128 ≤ character.toNat) :
    ∃ first rest, String.utf8EncodeChar character = first :: rest ∧ 192 ≤ first.toNat ∧
      ∀ byte ∈ rest, 128 ≤ byte.toNat ∧ byte.toNat < 192 := by
  have large : ¬ character.val.toNat ≤ 0x7f := Nat.not_le.mpr wide
  simp only [String.utf8EncodeChar, if_neg large]
  split
  · apply Exists.intro
    apply Exists.intro
    apply And.intro rfl
    constructor
    · rw [UInt8.toNat_ofNat']
      omega
    · intro byte member
      rcases List.mem_singleton.mp member with rfl
      exact continuation_byte _
  · split
    · apply Exists.intro
      apply Exists.intro
      apply And.intro rfl
      constructor
      · rw [UInt8.toNat_ofNat']
        omega
      · intro byte member
        simp only [List.mem_cons, List.not_mem_nil, or_false] at member
        rcases member with rfl | rfl
        · exact continuation_byte _
        · exact continuation_byte _
    · apply Exists.intro
      apply Exists.intro
      apply And.intro rfl
      constructor
      · rw [UInt8.toNat_ofNat']
        omega
      · intro byte member
        simp only [List.mem_cons, List.not_mem_nil, or_false] at member
        rcases member with rfl | rfl | rfl
        · exact continuation_byte _
        · exact continuation_byte _
        · exact continuation_byte _

/-! ### Tests of single bytes -/

/-- The test of bytes gives for each byte of a character what the test of characters gives for the
character. -/
def ReadsAs (byteTest : UInt8 → Bool) (charTest : Char → Bool) : Prop :=
  ∀ character, ∀ byte ∈ String.utf8EncodeChar character, byteTest byte = charTest character

namespace ReadsAs

variable {byteTest byteTest' : UInt8 → Bool} {charTest charTest' : Char → Bool}

/-- A range of ASCII codes. -/
theorem range (low high : Nat) (ascii : high < 128) :
    ReadsAs (fun byte => low ≤ byte.toNat && byte.toNat ≤ high)
      (fun character => low ≤ character.toNat && character.toNat ≤ high) := by
  intro character byte member
  by_cases small : character.toNat < 128
  · rw [encode_of_ascii small] at member
    rcases List.mem_singleton.mp member with rfl
    have code : (UInt8.ofNat character.toNat).toNat = character.toNat := by
      rw [UInt8.toNat_ofNat']
      omega
    simp only [code]
  · have wide : 128 ≤ character.toNat := Nat.le_of_not_lt small
    rcases encode_of_not_ascii wide with ⟨first, rest, encoded, firstWide, restWide⟩
    have byteWide : 128 ≤ byte.toNat := by
      rw [encoded] at member
      rcases List.mem_cons.mp member with rfl | inRest
      · omega
      · exact (restWide byte inRest).1
    have noByte : ¬ byte.toNat ≤ high := by omega
    have noCharacter : ¬ character.toNat ≤ high := by omega
    simp [noByte, noCharacter]

/-- One character of ASCII. -/
theorem character (wanted : Char) (ascii : wanted.toNat < 128) :
    ReadsAs (fun byte => byte.toNat = wanted.toNat) (fun character => character = wanted) := by
  intro character byte member
  have inRange := range wanted.toNat wanted.toNat ascii character byte member
  have ofByte : (decide (byte.toNat = wanted.toNat)) =
      (decide (wanted.toNat ≤ byte.toNat) && decide (byte.toNat ≤ wanted.toNat)) := by
    rw [← Bool.decide_and, decide_eq_decide]
    omega
  have ofCharacter : (decide (character = wanted)) =
      (decide (wanted.toNat ≤ character.toNat) && decide (character.toNat ≤ wanted.toNat)) := by
    rw [← Bool.decide_and, decide_eq_decide, ← Char.toNat_inj]
    omega
  exact ofByte.trans (inRange.trans ofCharacter.symm)

theorem or (first : ReadsAs byteTest charTest) (second : ReadsAs byteTest' charTest') :
    ReadsAs (fun byte => byteTest byte || byteTest' byte)
      (fun character => charTest character || charTest' character) := by
  intro character byte member
  simp only [first character byte member, second character byte member]

theorem not (reads : ReadsAs byteTest charTest) :
    ReadsAs (fun byte => !byteTest byte) (fun character => !charTest character) := by
  intro character byte member
  simp only [reads character byte member]

/-- What the test allows at the beginning of the bytes is the encoding of what it allows at the
beginning of the text. -/
theorem takeWhile (reads : ReadsAs byteTest charTest) (text : Text) :
    (utf8 text).takeWhile byteTest = utf8 (text.takeWhile charTest) := by
  induction text with
  | nil => rfl
  | cons character text ih =>
      rw [utf8_cons]
      cases allowed : charTest character with
      | true =>
          have all : ∀ byte ∈ String.utf8EncodeChar character, byteTest byte = true :=
            fun byte member => (reads character byte member).trans allowed
          rw [List.takeWhile_append_of_pos all, ih, List.takeWhile_cons_of_pos allowed, utf8_cons]
      | false =>
          have stops : List.takeWhile byteTest (String.utf8EncodeChar character ++ utf8 text) = [] := by
            cases encoded : String.utf8EncodeChar character with
            | nil => exact absurd encoded String.utf8EncodeChar_ne_nil
            | cons byte rest =>
                have refused : byteTest byte = false := by
                  rw [reads character byte (by rw [encoded]; exact List.mem_cons_self), allowed]
                rw [List.cons_append]
                exact List.takeWhile_cons_of_neg (by simp [refused])
          rw [stops, List.takeWhile_cons_of_neg (by simp [allowed]), utf8_nil]

theorem dropWhile (reads : ReadsAs byteTest charTest) (text : Text) :
    (utf8 text).dropWhile byteTest = utf8 (text.dropWhile charTest) := by
  have bytes := List.takeWhile_append_dropWhile (p := byteTest) (l := utf8 text)
  have chars := congrArg utf8 (List.takeWhile_append_dropWhile (p := charTest) (l := text))
  rw [utf8_append, ← reads.takeWhile, ← bytes] at chars
  rw [bytes] at chars
  exact (List.append_cancel_left (chars.trans bytes.symm)).symm

/-- The first byte of a text is tested as its first character. -/
theorem head? (reads : ReadsAs byteTest charTest) (text : Text) :
    (utf8 text).head?.any byteTest = text.head?.any charTest := by
  cases text with
  | nil => rfl
  | cons character text =>
      cases encoded : String.utf8EncodeChar character with
      | nil => exact absurd encoded String.utf8EncodeChar_ne_nil
      | cons byte rest =>
          have tested := reads character byte (by rw [encoded]; exact List.mem_cons_self)
          simpa [utf8_cons, encoded] using tested

/-- The last byte of a text is tested as its last character. -/
theorem getLast? (reads : ReadsAs byteTest charTest) (text : Text) :
    (utf8 text).getLast?.any byteTest = text.getLast?.any charTest := by
  rcases List.eq_nil_or_concat text with rfl | ⟨front, character, rfl⟩
  · rfl
  · rcases List.eq_nil_or_concat (String.utf8EncodeChar character) with none | ⟨before, byte, encoded⟩
    · exact absurd none String.utf8EncodeChar_ne_nil
    · have tested := reads character byte (by rw [encoded]; simp)
      simpa [encoded, ← List.append_assoc] using tested

end ReadsAs

/-! ### Letters without their case -/

/-- The lower case of an ASCII letter. -/
def lowerByte (byte : UInt8) : UInt8 :=
  if 65 ≤ byte.toNat && byte.toNat ≤ 90 then byte + 32 else byte

/-- The bytes begin with those of the needle, up to the case of ASCII letters. -/
def bytesStartIgnoringCase : Bytes → Bytes → Bool
  | _, [] => true
  | [], _ :: _ => false
  | byte :: bytes, wanted :: needle =>
      lowerByte byte == lowerByte wanted && bytesStartIgnoringCase bytes needle

/-- Where the first window begins that is the needle up to the case of ASCII letters. The needle is
not empty. -/
def positionOf (needle : Bytes) : Bytes → Option Nat
  | [] => none
  | byte :: bytes =>
      if bytesStartIgnoringCase (byte :: bytes) needle then some 0
      else (positionOf needle bytes).map (· + 1)

/-- All characters are of ASCII. -/
def IsAscii (text : Text) : Prop :=
  ∀ character ∈ text, character.toNat < 128

instance (text : Text) : Decidable (IsAscii text) :=
  inferInstanceAs (Decidable (∀ character ∈ text, character.toNat < 128))

theorem toNat_lowerByte (byte : UInt8) :
    (lowerByte byte).toNat =
      if 65 ≤ byte.toNat ∧ byte.toNat ≤ 90 then byte.toNat + 32 else byte.toNat := by
  unfold lowerByte
  by_cases upper : 65 ≤ byte.toNat ∧ byte.toNat ≤ 90
  · rw [if_pos upper, if_pos (by simpa using upper), UInt8.toNat_add]
    have small : (32 : UInt8).toNat = 32 := rfl
    omega
  · rw [if_neg upper, if_neg (by simpa using upper)]

theorem toNat_toLower (character : Char) :
    character.toLower.toNat =
      if 65 ≤ character.toNat ∧ character.toNat ≤ 90 then character.toNat + 32
      else character.toNat := by
  have isUpper : character.val ≥ 'A'.val ∧ character.val ≤ 'Z'.val ↔
      65 ≤ character.toNat ∧ character.toNat ≤ 90 := by
    rw [ge_iff_le, UInt32.le_iff_toNat_le, UInt32.le_iff_toNat_le]
    rfl
  unfold Char.toLower
  by_cases upper : 65 ≤ character.toNat ∧ character.toNat ≤ 90
  · have sum : (character.val + ('a'.val - 'A'.val)).toNat = character.val.toNat + 32 := by
      have small : character.val.toNat ≤ 90 := upper.2
      have distance : ('a'.val - 'A'.val).toNat = 32 := rfl
      rw [UInt32.toNat_add, distance]
      omega
    rw [if_pos upper, dif_pos (isUpper.mpr upper)]
    exact sum
  · rw [if_neg upper, dif_neg (fun holds => upper (isUpper.mp holds))]

theorem lowerAscii_eq_map (text : Text) : lowerAscii text = text.map Char.toLower := by
  rw [lowerAscii]
  apply List.map_congr_left
  intro character _
  split
  · rfl
  · rename_i notUpper
    apply Char.toNat_inj.mp
    have isUpper : character.isUpper = true ↔ 65 ≤ character.toNat ∧ character.toNat ≤ 90 := by
      simp [Char.isUpper, UInt32.le_iff_toNat_le, ← Char.toNat_val]
    rw [toNat_toLower, if_neg (fun upper => notUpper (isUpper.mpr upper))]

theorem lowerAscii_cons (character : Char) (text : Text) :
    lowerAscii (character :: text) = character.toLower :: lowerAscii text := by
  rw [lowerAscii_eq_map, lowerAscii_eq_map, List.map_cons]

theorem lowerAscii_append (first second : Text) :
    lowerAscii (first ++ second) = lowerAscii first ++ lowerAscii second :=
  List.map_append

/-- The bytes of two texts agree at the beginning up to case if the texts do. -/
theorem bytesStartIgnoringCase_utf8 {needle : Text} (ascii : IsAscii needle) (text : Text) :
    bytesStartIgnoringCase (utf8 text) (utf8 needle) = true ↔
      ∃ word rest, text = word ++ rest ∧ lowerAscii word = lowerAscii needle := by
  induction needle generalizing text with
  | nil => simp [bytesStartIgnoringCase, lowerAscii]
  | cons wanted needle ih =>
      have wantedAscii : wanted.toNat < 128 := ascii wanted List.mem_cons_self
      have needleAscii : IsAscii needle := fun character member =>
        ascii character (List.mem_cons_of_mem _ member)
      have wantedCode : (UInt8.ofNat wanted.toNat).toNat = wanted.toNat := by
        rw [UInt8.toNat_ofNat']
        omega
      rw [utf8_cons, encode_of_ascii wantedAscii, lowerAscii_cons]
      cases text with
      | nil =>
          constructor
          · intro started
            exact absurd started (by simp [bytesStartIgnoringCase])
          · rintro ⟨word, rest, split, lowered⟩
            rcases List.append_eq_nil_iff.mp split.symm with ⟨rfl, -⟩
            exact absurd lowered (by simp [lowerAscii])
      | cons character text =>
          by_cases small : character.toNat < 128
          · have code : (UInt8.ofNat character.toNat).toNat = character.toNat := by
              rw [UInt8.toNat_ofNat']
              omega
            have letters : lowerByte (UInt8.ofNat character.toNat) =
                lowerByte (UInt8.ofNat wanted.toNat) ↔ character.toLower = wanted.toLower := by
              rw [← UInt8.toNat_inj, ← Char.toNat_inj, toNat_lowerByte, toNat_lowerByte,
                toNat_toLower, toNat_toLower, code, wantedCode]
            rw [utf8_cons, encode_of_ascii small]
            simp only [List.singleton_append, bytesStartIgnoringCase, Bool.and_eq_true, beq_iff_eq,
              letters, ih needleAscii]
            constructor
            · rintro ⟨same, word, rest, rfl, lowered⟩
              exact ⟨character :: word, rest, rfl, by rw [lowerAscii_cons, same, lowered]⟩
            · rintro ⟨word, rest, split, lowered⟩
              cases word with
              | nil => exact absurd lowered (by simp [lowerAscii])
              | cons letter word =>
                  rw [List.cons_append, List.cons.injEq] at split
                  rw [lowerAscii_cons, List.cons.injEq, ← split.1] at lowered
                  exact ⟨lowered.1, word, rest, split.2, lowered.2⟩
          · have wide : 128 ≤ character.toNat := Nat.le_of_not_lt small
            rcases encode_of_not_ascii wide with ⟨first, more, encoded, firstWide, -⟩
            rw [utf8_cons, encoded]
            constructor
            · intro started
              simp only [List.cons_append, List.nil_append, bytesStartIgnoringCase,
                Bool.and_eq_true, beq_iff_eq] at started
              have same := congrArg UInt8.toNat started.1
              rw [toNat_lowerByte, toNat_lowerByte, wantedCode] at same
              split at same
              · omega
              · split at same
                · omega
                · omega
            · rintro ⟨word, rest, split, lowered⟩
              cases word with
              | nil => exact absurd lowered (by simp [lowerAscii])
              | cons letter word =>
                  rw [List.cons_append, List.cons.injEq] at split
                  rw [lowerAscii_cons, List.cons.injEq, ← split.1] at lowered
                  have same := congrArg Char.toNat lowered.1
                  rw [toNat_toLower, toNat_toLower] at same
                  split at same
                  · omega
                  · split at same
                    · omega
                    · omega

/-! ### Characters in the bytes -/

/-- The index is one at which a text may be cut: the end, or a byte that begins a character. -/
def isCharBoundary (bytes : Bytes) (index : Nat) : Bool :=
  index == 0 ||
    match bytes[index]? with
    | some byte => byte.toNat < 128 || 192 ≤ byte.toNat
    | none => index == bytes.length

/-- A character is one byte that begins it and bytes that do not. -/
theorem encode_eq_cons (character : Char) :
    ∃ first rest, String.utf8EncodeChar character = first :: rest ∧
      (first.toNat < 128 ∨ 192 ≤ first.toNat) ∧
      ∀ byte ∈ rest, 128 ≤ byte.toNat ∧ byte.toNat < 192 := by
  by_cases small : character.toNat < 128
  · apply Exists.intro (UInt8.ofNat character.toNat)
    apply Exists.intro []
    constructor
    · exact encode_of_ascii small
    · constructor
      · rw [UInt8.toNat_ofNat']
        omega
      · simp
  · rcases encode_of_not_ascii (Nat.le_of_not_lt small) with ⟨first, rest, encoded, wide, more⟩
    exact ⟨first, rest, encoded, Or.inr wide, more⟩

/-- A boundary is the end of some of the characters. -/
theorem split_of_isCharBoundary {text : Text} {index : Nat}
    (boundary : isCharBoundary (utf8 text) index = true) :
    ∃ before after, text = before ++ after ∧ byteLength before = index := by
  induction text generalizing index with
  | nil =>
      have zero : index = 0 := by simpa [isCharBoundary] using boundary
      exact ⟨[], [], rfl, zero.symm⟩
  | cons character text ih =>
      rcases encode_eq_cons character with ⟨first, rest, encoded, -, more⟩
      have size : character.utf8Size = rest.length + 1 := by
        rw [← String.length_utf8EncodeChar, encoded, List.length_cons]
      cases index with
      | zero => exact ⟨[], character :: text, rfl, rfl⟩
      | succ index =>
          rw [isCharBoundary, utf8_cons, encoded, List.cons_append, List.getElem?_cons_succ]
            at boundary
          by_cases inside : index < rest.length
          · -- The byte there belongs to the character and does not begin it.
            have here : (rest ++ utf8 text)[index]? = rest[index]? := List.getElem?_append_left inside
            have byteMore := more rest[index] (List.getElem_mem inside)
            rw [here, List.getElem?_eq_getElem inside] at boundary
            simp at boundary
            omega
          · have outside := Nat.le_of_not_lt inside
            have later : isCharBoundary (utf8 text) (index - rest.length) = true := by
              rw [List.getElem?_append_right outside] at boundary
              rw [isCharBoundary]
              cases found : (utf8 text)[index - rest.length]? with
              | some byte => simpa [found] using Or.inr (by simpa [found] using boundary)
              | none =>
                  rw [found] at boundary
                  simp at boundary
                  simp
                  omega
            rcases ih later with ⟨before, after, rfl, length⟩
            apply Exists.intro (character :: before)
            apply Exists.intro after
            apply And.intro rfl
            rw [byteLength_cons, length, size]
            omega

theorem isCharBoundary_byteLength (before after : Text) :
    isCharBoundary (utf8 (before ++ after)) (byteLength before) = true := by
  rw [isCharBoundary, utf8_append, ← length_utf8, List.getElem?_append_right (Nat.le_refl _),
    Nat.sub_self]
  cases after with
  | nil => simp
  | cons character after =>
      rcases encode_eq_cons character with ⟨first, rest, encoded, begins, -⟩
      rw [utf8_cons, encoded, List.cons_append, List.getElem?_cons_zero]
      simp [begins]

@[simp] theorem take_utf8 (before after : Text) :
    (utf8 (before ++ after)).take (byteLength before) = utf8 before := by
  rw [utf8_append, ← length_utf8, List.take_left]

@[simp] theorem drop_utf8 (before after : Text) :
    (utf8 (before ++ after)).drop (byteLength before) = utf8 after := by
  rw [utf8_append, ← length_utf8, List.drop_left]

/-- Parts of a text that take as many bytes are the same. -/
theorem split_unique {before after before' after' : Text} (same : before ++ after = before' ++ after')
    (length : byteLength before = byteLength before') : before = before' ∧ after = after' := by
  have bytes := congrArg utf8 same
  rw [utf8_append, utf8_append] at bytes
  rcases List.append_inj bytes (by rw [length_utf8, length_utf8, length]) with ⟨front, back⟩
  exact ⟨utf8_injective front, utf8_injective back⟩

/-- A part that does not take more bytes than another beginning of a text. -/
theorem append_of_byteLength_le {before after before' after' : Text}
    (same : before ++ after = before' ++ after') (le : byteLength before ≤ byteLength before') :
    ∃ between, before' = before ++ between ∧ after = between ++ after' := by
  rcases List.append_eq_append_iff.mp same with ⟨between, longer, rest⟩ | ⟨between, longer, rest⟩
  · exact ⟨between, longer, rest⟩
  · by_cases empty : between = []
    · subst empty
      exact ⟨[], by simpa using longer.symm, by simpa using rest.symm⟩
    · have positive := byteLength_pos empty
      rw [longer, byteLength_append] at le
      omega

/-- The last boundary between characters that is not behind the index, searched backwards. -/
def boundaryBefore (bytes : Bytes) : Nat → Nat
  | 0 => 0
  | index + 1 =>
      if isCharBoundary bytes (index + 1) then index + 1 else boundaryBefore bytes index

theorem boundaryBefore_unique {bytes : Bytes} {boundary index : Nat} (le : boundary ≤ index)
    (isBoundary : isCharBoundary bytes boundary = true)
    (between : ∀ other, boundary < other → other ≤ index → isCharBoundary bytes other = false) :
    boundaryBefore bytes index = boundary := by
  induction index with
  | zero => exact (Nat.le_zero.mp le).symm
  | succ index ih =>
      rw [boundaryBefore]
      by_cases last : boundary = index + 1
      · rw [← last, if_pos isBoundary]
      · rw [between (index + 1) (by omega) (Nat.le_refl _)]
        exact ih (by omega) fun other behind within => between other behind (by omega)

/-- Inside of a character there is no boundary. -/
theorem isCharBoundary_inside {before after : Text} {character : Char} {index : Nat}
    (behind : byteLength before < index) (inside : index < byteLength before + character.utf8Size) :
    isCharBoundary (utf8 (before ++ character :: after)) index = false := by
  by_contra boundary
  obtain ⟨front, back, same, length⟩ := split_of_isCharBoundary (eq_true_of_ne_false boundary)
  obtain ⟨between, rfl, rest⟩ := append_of_byteLength_le same (by omega)
  rw [byteLength_append] at length
  cases between with
  | nil => simp at length; omega
  | cons first between =>
      obtain rfl : character = first := (List.cons.inj rest).1
      rw [byteLength_cons] at length
      omega

/-- The longest beginning of a text that fits is cut off at the last boundary. -/
theorem utf8_takeBytes {maximum : Nat} {text : Text} (tooLong : maximum < byteLength text) :
    utf8 (takeBytes maximum text) = (utf8 text).take (boundaryBefore (utf8 text) maximum) := by
  obtain ⟨character, rest, same, past⟩ := exists_next_of_lt tooLong
  have boundary : boundaryBefore (utf8 text) maximum = byteLength (takeBytes maximum text) := by
    apply boundaryBefore_unique (byteLength_takeBytes maximum text)
    · have cut := isCharBoundary_byteLength (takeBytes maximum text) (character :: rest)
      rwa [← same] at cut
    · intro other behind within
      have inside : isCharBoundary (utf8 (takeBytes maximum text ++ character :: rest)) other = false :=
        isCharBoundary_inside behind (by omega)
      rwa [← same] at inside
  rw [boundary]
  have taken := take_utf8 (takeBytes maximum text) (character :: rest)
  rw [← same] at taken
  exact taken.symm

/-! ### Words in a text -/

/-- The needle stands between the two parts of the text, up to the case of ASCII letters. -/
structure Occurs (needle text before word after : Text) : Prop where
  split : text = before ++ word ++ after
  lowered : lowerAscii word = lowerAscii needle

/-- The first occurrence that does not begin before the place. -/
structure First (needle text : Text) (searchFrom : Nat) (before word after : Text) : Prop extends
    Occurs needle text before word after where
  behind : searchFrom ≤ byteLength before
  first : ∀ {before' word' after' : Text}, Occurs needle text before' word' after' →
    searchFrom ≤ byteLength before' → byteLength before ≤ byteLength before'

/-- There is one first occurrence. -/
theorem First.unique {needle text : Text} {searchFrom : Nat}
    {before word after before' word' after' : Text}
    (found : First needle text searchFrom before word after)
    (found' : First needle text searchFrom before' word' after') :
    before = before' ∧ word = word' ∧ after = after' := by
  have length := Nat.le_antisymm (found.first found'.toOccurs found'.behind)
    (found'.first found.toOccurs found.behind)
  have same := found.split.symm.trans found'.split
  rw [List.append_assoc, List.append_assoc] at same
  rcases split_unique same length with ⟨front, back⟩
  have words : word.length = word'.length := by
    have lowered := congrArg List.length (found.lowered.trans found'.lowered.symm)
    simpa [lowerAscii] using lowered
  rcases List.append_inj back words with ⟨sameWord, sameAfter⟩
  exact ⟨front, sameWord, sameAfter⟩

theorem positionOf_eq_some {needle bytes : Bytes} {index : Nat}
    (found : positionOf needle bytes = some index) :
    bytesStartIgnoringCase (bytes.drop index) needle = true ∧
      ∀ earlier < index, bytesStartIgnoringCase (bytes.drop earlier) needle = false := by
  induction bytes generalizing index with
  | nil => exact absurd found (by simp [positionOf])
  | cons byte bytes ih =>
      rw [positionOf] at found
      split at found
      · rename_i starts
        rcases Option.some.inj found with rfl
        exact ⟨starts, fun earlier less => absurd less (Nat.not_lt_zero _)⟩
      · rename_i starts
        rcases Option.map_eq_some_iff.mp found with ⟨later, foundLater, rfl⟩
        rcases ih foundLater with ⟨started, first⟩
        constructor
        · exact started
        · intro earlier less
          cases earlier with
          | zero => simpa using starts
          | succ earlier => exact first earlier (Nat.lt_of_succ_lt_succ less)

theorem positionOf_eq_none {needle bytes : Bytes} (found : positionOf needle bytes = none) :
    ∀ index < bytes.length, bytesStartIgnoringCase (bytes.drop index) needle = false := by
  induction bytes with
  | nil => exact fun index less => absurd less (Nat.not_lt_zero _)
  | cons byte bytes ih =>
      rw [positionOf] at found
      split at found
      · exact absurd found (by simp)
      · rename_i starts
        intro index less
        cases index with
        | zero => simpa using starts
        | succ index =>
            exact ih (Option.map_eq_none_iff.mp found) index (Nat.lt_of_succ_lt_succ less)

section Words

variable {needle : Text}

/-- Where the bytes of a text are the needle, whole characters are. -/
theorem occurs_of_bytesStart (ascii : IsAscii needle) (some : needle ≠ []) {text : Text} {index : Nat}
    (starts : bytesStartIgnoringCase ((utf8 text).drop index) (utf8 needle) = true) :
    ∃ before word after, Occurs needle text before word after ∧ byteLength before = index := by
  have boundary : isCharBoundary (utf8 text) index = true := by
    cases needle with
    | nil => exact absurd rfl some
    | cons wanted needle =>
        have wantedAscii : wanted.toNat < 128 := ascii wanted List.mem_cons_self
        rw [utf8_cons, encode_of_ascii wantedAscii] at starts
        cases dropped : (utf8 text).drop index with
        | nil => exact absurd starts (by simp [dropped, bytesStartIgnoringCase])
        | cons byte rest =>
            have here : (utf8 text)[index]? = Option.some byte := by
              rw [← List.head?_drop, dropped, List.head?_cons]
            rw [dropped, List.singleton_append, bytesStartIgnoringCase, Bool.and_eq_true,
              beq_iff_eq] at starts
            have same := congrArg UInt8.toNat starts.1
            rw [toNat_lowerByte, toNat_lowerByte, UInt8.toNat_ofNat'] at same
            have small : byte.toNat < 128 := by
              split at same
              · omega
              · split at same
                · omega
                · omega
            rw [isCharBoundary, here]
            simp [small]
  rcases split_of_isCharBoundary boundary with ⟨before, behind, rfl, rfl⟩
  rw [drop_utf8] at starts
  rcases (bytesStartIgnoringCase_utf8 ascii behind).mp starts with ⟨word, after, rfl, lowered⟩
  exact ⟨before, word, after, ⟨(List.append_assoc _ _ _).symm, lowered⟩, rfl⟩

theorem bytesStart_of_occurs (ascii : IsAscii needle) {text before word after : Text}
    (occurs : Occurs needle text before word after) :
    bytesStartIgnoringCase ((utf8 text).drop (byteLength before)) (utf8 needle) = true := by
  rw [occurs.split, List.append_assoc, drop_utf8]
  exact (bytesStartIgnoringCase_utf8 ascii _).mpr ⟨word, after, rfl, occurs.lowered⟩

/-- The case of a letter does not change its size. -/
theorem byteLength_of_lowered (ascii : IsAscii needle) {word : Text}
    (lowered : lowerAscii word = lowerAscii needle) : byteLength word = byteLength needle := by
  induction needle generalizing word with
  | nil => rw [List.map_eq_nil_iff.mp lowered]
  | cons wanted needle ih =>
      cases word with
      | nil => exact absurd lowered (by simp [lowerAscii])
      | cons letter word =>
          rw [lowerAscii_cons, lowerAscii_cons, List.cons.injEq] at lowered
          have wantedAscii : wanted.toNat < 128 := ascii wanted List.mem_cons_self
          have same := congrArg Char.toNat lowered.1
          rw [toNat_toLower, toNat_toLower] at same
          have letterAscii : letter.toNat < 128 := by
            split at same
            · omega
            · split at same
              · omega
              · omega
          have wantedSize := congrArg List.length (encode_of_ascii wantedAscii)
          have letterSize := congrArg List.length (encode_of_ascii letterAscii)
          rw [String.length_utf8EncodeChar, List.length_singleton] at wantedSize letterSize
          rw [byteLength_cons, byteLength_cons, wantedSize, letterSize,
            ih (fun character member => ascii character (List.mem_cons_of_mem _ member)) lowered.2]

theorem positionOf_utf8_some (ascii : IsAscii needle) (some : needle ≠ []) {text : Text}
    {searchFrom index : Nat}
    (found : positionOf (utf8 needle) ((utf8 text).drop searchFrom) = Option.some index) :
    ∃ before word after, First needle text searchFrom before word after ∧
      byteLength before = searchFrom + index := by
  rcases positionOf_eq_some found with ⟨starts, first⟩
  rw [List.drop_drop] at starts
  rcases occurs_of_bytesStart ascii some starts with ⟨before, word, after, occurs, length⟩
  refine ⟨before, word, after, ⟨occurs, by omega, fun {before' word' after'} occurs' behind => ?_⟩,
    length⟩
  apply Nat.le_of_not_lt
  intro less
  have starts' := bytesStart_of_occurs ascii occurs'
  have refused := first (byteLength before' - searchFrom) (by omega)
  rw [List.drop_drop, Nat.add_sub_cancel' behind, starts'] at refused
  exact absurd refused (by simp)

/-- A search that finds nothing leaves no occurrence behind its start. -/
theorem positionOf_utf8_none (ascii : IsAscii needle) (some : needle ≠ []) {text : Text}
    {searchFrom : Nat} (found : positionOf (utf8 needle) ((utf8 text).drop searchFrom) = none)
    {before word after : Text} (occurs : Occurs needle text before word after) :
    byteLength before < searchFrom := by
  apply Nat.lt_of_not_le
  intro behind
  have starts := bytesStart_of_occurs ascii occurs
  have wordSome : word ≠ [] := by
    rintro rfl
    apply some
    exact List.map_eq_nil_iff.mp occurs.lowered.symm
  have room := byteLength_pos wordSome
  have total : (utf8 text).length = byteLength before + byteLength word + byteLength after := by
    rw [length_utf8, occurs.split, byteLength_append, byteLength_append]
  have refused := positionOf_eq_none found (byteLength before - searchFrom) (by
    rw [List.length_drop, total]
    omega)
  rw [List.drop_drop, Nat.add_sub_cancel' behind, starts] at refused
  exact absurd refused (by simp)

end Words

end Text
