/-
Module: SakalaAgent.Text.Chars
Layer: Text (library)
Purpose: Texts as lists of characters, with the operations a program needs to read the output of
  other programs: white space by its Unicode property, trimming, lines and fields, decimal numbers,
  and the number of bytes a text takes in UTF-8.
Trusted boundary: none
Main exports: Text, Text.trim, Text.lines, Text.splitOn, Text.parseNat, Text.byteLength,
  Text.takeBytes
-/
import Mathlib

abbrev Text : Type := List Char

namespace Text

instance lawfulBEq : LawfulBEq Text :=
  inferInstance

/-- The characters with the Unicode property White_Space. -/
def isWhiteSpace (character : Char) : Bool :=
  let code := character.toNat
  (9 ≤ code && code ≤ 13) || code = 32 || code = 0x85 || code = 0xA0 || code = 0x1680 ||
    (0x2000 ≤ code && code ≤ 0x200A) || code = 0x2028 || code = 0x2029 || code = 0x202F ||
    code = 0x205F || code = 0x3000

def trimStart (text : Text) : Text :=
  text.dropWhile isWhiteSpace

def trimEnd (text : Text) : Text :=
  (text.reverse.dropWhile isWhiteSpace).reverse

def trim (text : Text) : Text :=
  trimEnd (trimStart text)

/-- Nothing but white space. -/
def isBlank (text : Text) : Bool :=
  text.all isWhiteSpace

/-- The pieces between the separators; a text without one is a single piece. -/
def splitOn (separator : Char) : Text → List Text
  | [] => [[]]
  | character :: rest =>
      if character = separator then [] :: splitOn separator rest
      else
        match splitOn separator rest with
        | [] => [[character]]
        | piece :: pieces => (character :: piece) :: pieces

/-- A line loses the carriage return at its end. -/
def dropCarriageReturn (line : Text) : Text :=
  if line.getLast? = some '\r' then line.dropLast else line

/-- The lines of a text. A line feed ends a line, together with a carriage return before it; what
stands behind the last one is a line if it is not empty. -/
def lines (text : Text) : List Text :=
  let pieces := splitOn '\n' text
  pieces.dropLast.map dropCarriageReturn ++ (pieces.drop (pieces.length - 1)).filter fun piece =>
    !piece.isEmpty

/-- The words between runs of white space. -/
def words (text : Text) : List Text :=
  (text.splitBy fun first second => isWhiteSpace first == isWhiteSpace second).filter fun word =>
    !isBlank word

def lowerAscii (text : Text) : Text :=
  text.map fun character => if character.isUpper then character.toLower else character

def startsWith (text start : Text) : Bool :=
  start.isPrefixOf text

def endsWith (text tail : Text) : Bool :=
  tail.isSuffixOf text

/-- The part stands somewhere in the text. -/
def contains : Text → Text → Bool
  | [], part => part.isEmpty
  | character :: rest, part => startsWith (character :: rest) part || contains rest part

/-- What is left behind a beginning. -/
def stripStart (text start : Text) : Option Text :=
  if startsWith text start then some (text.drop start.length) else none

/-- What is left before an end. -/
def stripEnd (text tail : Text) : Option Text :=
  if endsWith text tail then some (text.take (text.length - tail.length)) else none

/-- Decimal digits to a number. -/
def digitsValue (digits : Text) : Option Nat :=
  digits.foldl (fun value digit =>
    value.bind fun value =>
      if digit.isDigit then some (10 * value + (digit.toNat - '0'.toNat)) else none) (some 0)

/-- An unsigned number below `bound`: decimal digits, with at most one plus sign before them. -/
def parseNat (bound : Nat) (text : Text) : Option Nat :=
  let digits := if text.head? = some '+' then text.tail else text
  if digits.isEmpty then none
  else
    match digitsValue digits with
    | some value => if value < bound then some value else none
    | none => none

/-- The number of bytes of the UTF-8 encoding. -/
def byteLength (text : Text) : Nat :=
  (text.map Char.utf8Size).sum

/-- The longest beginning of the text that takes at most so many bytes. -/
def takeBytes (maximum : Nat) : Text → Text
  | [] => []
  | character :: rest =>
      if character.utf8Size ≤ maximum then
        character :: takeBytes (maximum - character.utf8Size) rest
      else []

/-- What holds of each character of a text is decided along the text, not along all characters. -/
instance decidableForallMem (P : Char → Prop) [DecidablePred P] (text : Text) :
    Decidable (∀ character ∈ text, P character) :=
  List.decidableBAll P text

/-- The same for a character that may be missing. -/
instance decidableForallMemOption (P : Char → Prop) [DecidablePred P] (first : Option Char) :
    Decidable (∀ character ∈ first, P character) :=
  Option.decidableForallMem first

/-! ### Searching from the front -/

theorem takeWhile_of_head? {test : Char → Bool} {text : Text}
    (stops : ∀ character ∈ text.head?, test character = false) : text.takeWhile test = [] := by
  cases text with
  | nil => rfl
  | cons character text => exact List.takeWhile_cons_of_neg (by simp [stops character rfl])

theorem dropWhile_of_head? {test : Char → Bool} {text : Text}
    (stops : ∀ character ∈ text.head?, test character = false) : text.dropWhile test = text := by
  cases text with
  | nil => rfl
  | cons character text => exact List.dropWhile_cons_of_neg (by simp [stops character rfl])

theorem lowerAscii_of_not_upper {text : Text}
    (lower : ∀ character ∈ text, character.isUpper = false) : lowerAscii text = text := by
  refine (List.map_congr_left fun character member => ?_).trans (List.map_id text)
  exact if_neg (by simp [lower character member])

/-! ### Fields and lines -/

/-- A text without the separator is one piece. -/
theorem splitOn_of_not_mem {separator : Char} {text : Text} (absent : separator ∉ text) :
    splitOn separator text = [text] := by
  induction text with
  | nil => rfl
  | cons character rest ih =>
      have ne : character ≠ separator := fun same => absent (same ▸ List.mem_cons_self)
      have restAbsent : separator ∉ rest := fun member => absent (List.mem_cons_of_mem _ member)
      simp [splitOn, ne, ih restAbsent]

/-- The first piece ends at the first separator. -/
theorem splitOn_append {separator : Char} {first : Text} (rest : Text)
    (absent : separator ∉ first) :
    splitOn separator (first ++ separator :: rest) = first :: splitOn separator rest := by
  induction first with
  | nil => simp [splitOn]
  | cons character tail ih =>
      have ne : character ≠ separator := fun same => absent (same ▸ List.mem_cons_self)
      have tailAbsent : separator ∉ tail := fun member => absent (List.mem_cons_of_mem _ member)
      simp [splitOn, ne, ih tailAbsent]

/-- A text is cut at its first separator in one way only. -/
theorem append_cons_unique {separator : Char} {first second rest rest' : Text}
    (same : first ++ separator :: rest = second ++ separator :: rest')
    (absent : separator ∉ first) (absent' : separator ∉ second) : first = second ∧ rest = rest' := by
  have pieces := congrArg (splitOn separator) same
  rw [splitOn_append _ absent, splitOn_append _ absent'] at pieces
  obtain ⟨rfl, _⟩ := List.cons.inj pieces
  exact ⟨rfl, (List.cons.inj (List.append_cancel_left same)).2⟩

theorem splitOn_ne_nil (separator : Char) (text : Text) : splitOn separator text ≠ [] := by
  cases text with
  | nil => simp [splitOn]
  | cons character rest =>
      rw [splitOn]
      split
      · simp
      · split
        · simp
        · simp

/-- Pieces on both sides of a separator. -/
theorem splitOn_append_cons (separator : Char) (first second : Text) :
    splitOn separator (first ++ separator :: second) =
      splitOn separator first ++ splitOn separator second := by
  induction first with
  | nil => simp [splitOn]
  | cons character first ih =>
      by_cases same : character = separator
      · simp [splitOn, same, ih]
      · rw [List.cons_append, splitOn, if_neg same, ih, splitOn, if_neg same]
        cases pieces : splitOn separator first with
        | nil => exact absurd pieces (splitOn_ne_nil separator first)
        | cons piece pieces => rfl

/-- The pieces, each ended by the separator, are the text. -/
theorem flatMap_splitOn (separator : Char) (text : Text) :
    ((splitOn separator text).flatMap fun piece => piece ++ [separator]) =
      text ++ [separator] := by
  induction text with
  | nil => rfl
  | cons character rest ih =>
      rw [splitOn]
      split
      · rename_i same
        rw [List.flatMap_cons, ih, same]
        rfl
      · cases pieces : splitOn separator rest with
        | nil => exact absurd pieces (splitOn_ne_nil separator rest)
        | cons piece pieces =>
            rw [pieces, List.flatMap_cons] at ih
            simp only [List.flatMap_cons, List.cons_append, ih]

/-- Lines that are each ended by the separator. -/
theorem splitOn_flatMap {separator : Char} {rows : List Text}
    (absent : ∀ row ∈ rows, separator ∉ row) :
    splitOn separator (rows.flatMap fun row => row ++ [separator]) = rows ++ [[]] := by
  induction rows with
  | nil => rfl
  | cons row rows ih =>
      have first := absent row List.mem_cons_self
      have rest := ih fun other member => absent other (List.mem_cons_of_mem _ member)
      rw [List.flatMap_cons, List.append_assoc, List.singleton_append, splitOn_append _ first, rest,
        List.cons_append]

/-- A text that goes on keeps its pieces but the last. -/
theorem dropLast_splitOn_isPrefix (separator : Char) (text rest : Text) :
    (splitOn separator text).dropLast <+: (splitOn separator (text ++ rest)).dropLast := by
  induction text with
  | nil => exact List.nil_prefix
  | cons character text ih =>
      have some := splitOn_ne_nil separator text
      have some' := splitOn_ne_nil separator (text ++ rest)
      rw [List.cons_append, splitOn, splitOn]
      split
      · rw [List.dropLast_cons_of_ne_nil some, List.dropLast_cons_of_ne_nil some']
        exact List.cons_prefix_cons.mpr ⟨rfl, ih⟩
      · cases pieces : splitOn separator text with
        | nil => exact absurd pieces some
        | cons piece others =>
            cases pieces' : splitOn separator (text ++ rest) with
            | nil => exact absurd pieces' some'
            | cons piece' others' =>
                rw [pieces, pieces'] at ih
                cases others with
                | nil => exact List.nil_prefix
                | cons second others =>
                    cases others' with
                    | nil => exact absurd (List.prefix_nil.mp ih) (List.cons_ne_nil _ _)
                    | cons second' others' =>
                        obtain ⟨same, rest⟩ := List.cons_prefix_cons.mp ih
                        exact List.cons_prefix_cons.mpr ⟨by rw [same], rest⟩

/-- The lines of a text that is ended by a line feed. -/
theorem lines_ended (text : Text) :
    lines (text ++ ['\n']) = (splitOn '\n' text).map dropCarriageReturn := by
  simp [lines, splitOn_append_cons, splitOn]

/-- Rows that are each ended by a line feed are read one after the other. -/
theorem lines_rows (rows : List Text) :
    lines (rows.flatMap fun row => row ++ ['\n']) = rows.flatMap fun row => lines (row ++ ['\n']) := by
  have pieces : splitOn '\n' (rows.flatMap fun row => row ++ ['\n']) =
      rows.flatMap (splitOn '\n') ++ [[]] := by
    induction rows with
    | nil => rfl
    | cons row rows ih =>
        rw [List.flatMap_cons, List.append_assoc, List.singleton_append, splitOn_append_cons, ih,
          List.flatMap_cons, List.append_assoc]
  simp [lines, pieces, splitOn_append_cons, splitOn, List.map_flatMap]

/-- Text that is written in lines is read in lines. -/
theorem lines_flatMap {rows : List Text} (noFeed : ∀ row ∈ rows, '\n' ∉ row)
    (noReturn : ∀ row ∈ rows, '\r' ∉ row) :
    lines (rows.flatMap fun row => row ++ ['\n']) = rows := by
  have kept : rows.map dropCarriageReturn = rows := by
    refine (List.map_congr_left fun row member => ?_).trans (List.map_id rows)
    exact if_neg fun last => noReturn row member (List.mem_of_getLast? last)
  simp [lines, splitOn_flatMap noFeed, kept]

/-- A line that is ended by a line feed is read before those behind it. -/
theorem lines_append {line : Text} (noFeed : '\n' ∉ line) (noReturn : '\r' ∉ line) (rest : Text) :
    lines (line ++ '\n' :: rest) = line :: lines rest := by
  have kept : dropCarriageReturn line = line :=
    if_neg fun last => noReturn (List.mem_of_getLast? last)
  rw [lines, splitOn_append rest noFeed]
  cases pieces : splitOn '\n' rest with
  | nil => exact absurd pieces (splitOn_ne_nil '\n' rest)
  | cons piece pieces' => simp [lines, pieces, kept]

/-- A text without separators stands before the first piece of what follows it. -/
theorem splitOn_append_left {separator : Char} {start : Text} (absent : separator ∉ start)
    (rest : Text) : ∃ piece pieces, splitOn separator rest = piece :: pieces ∧
      splitOn separator (start ++ rest) = (start ++ piece) :: pieces := by
  induction start with
  | nil =>
      cases pieces : splitOn separator rest with
      | nil => exact absurd pieces (splitOn_ne_nil separator rest)
      | cons piece pieces' => exact ⟨piece, pieces', rfl, pieces⟩
  | cons character start ih =>
      have other : character ≠ separator := fun same => absent (same ▸ List.mem_cons_self)
      obtain ⟨piece, pieces, split, whole⟩ :=
        ih fun member => absent (List.mem_cons_of_mem _ member)
      refine ⟨piece, pieces, split, ?_⟩
      rw [List.cons_append, splitOn, if_neg other, whole]
      rfl

/-- The first line of a text keeps what the text begins with. -/
theorem head?_lines_append {start : Text} (written : start ≠ []) (noFeed : '\n' ∉ start)
    (noReturn : '\r' ∉ start) (rest : Text) :
    ∃ more, (lines (start ++ rest)).head? = some (start ++ more) := by
  obtain ⟨piece, pieces, _, whole⟩ := splitOn_append_left noFeed rest
  have kept : ∃ more, dropCarriageReturn (start ++ piece) = start ++ more := by
    unfold dropCarriageReturn
    split
    · rename_i last
      cases piece with
      | nil =>
          rw [List.append_nil] at last
          exact absurd (List.mem_of_getLast? last) noReturn
      | cons character piece => exact ⟨_, List.dropLast_append_of_ne_nil (List.cons_ne_nil _ _)⟩
    · exact ⟨piece, rfl⟩
  rw [lines, whole]
  cases pieces with
  | nil => exact ⟨piece, by simp [written]⟩
  | cons second pieces =>
      obtain ⟨more, same⟩ := kept
      exact ⟨more, by simp [same]⟩

/-- A line is trimmed to itself when it begins and ends with characters that are not white space. -/
theorem trim_line {first last : Char} {middle : Text} (begins : isWhiteSpace first = false)
    (ends : isWhiteSpace last = false) :
    trim (first :: (middle ++ [last]) ++ ['\n']) = first :: (middle ++ [last]) := by
  have feed : isWhiteSpace '\n' = true := rfl
  simp [trim, trimStart, trimEnd, begins, ends, feed]

/-- Nothing is trimmed off a text without white space. -/
theorem trim_of_forall {text : Text} (solid : ∀ character ∈ text, isWhiteSpace character = false) :
    trim text = text := by
  have start : trimStart text = text := by
    cases text with
    | nil => rfl
    | cons character rest =>
        exact List.dropWhile_cons_of_neg (by simp [solid character List.mem_cons_self])
  have back : text.reverse.dropWhile isWhiteSpace = text.reverse := by
    cases reversed : text.reverse with
    | nil => rfl
    | cons character rest =>
        have member : character ∈ text := by
          rw [← List.mem_reverse, reversed]
          exact List.mem_cons_self
        exact List.dropWhile_cons_of_neg (by simp [solid character member])
  rw [trim, start, trimEnd, back, List.reverse_reverse]

/-! ### Parts -/

/-- Where a text with a marked part is cut: before the part, inside it or behind it. -/
theorem cut_place {α : Type} {before part after front back : List α}
    (same : before ++ part ++ after = front ++ back) :
    (∃ between, before = front ++ between ∧ back = between ++ part ++ after) ∨
      (∃ first second, first ≠ [] ∧ second ≠ [] ∧ part = first ++ second ∧ front = before ++ first ∧
        back = second ++ after) ∨
      ∃ between, front = before ++ part ++ between ∧ after = between ++ back := by
  rw [List.append_assoc] at same
  rcases List.append_eq_append_iff.mp same with ⟨rest, front_eq, behind⟩ | ⟨rest, before_eq, back_eq⟩
  · rcases List.append_eq_append_iff.mp behind with ⟨more, rest_eq, after_eq⟩ | ⟨more, part_eq, back_eq⟩
    · subst rest_eq
      exact Or.inr (Or.inr ⟨more, by rw [front_eq, List.append_assoc], after_eq⟩)
    · rcases List.eq_nil_or_concat rest with rfl | some
      · exact Or.inl ⟨[], by simpa using front_eq.symm, by simp [part_eq, back_eq]⟩
      · rcases List.eq_nil_or_concat more with rfl | _
        · exact Or.inr (Or.inr ⟨[], by simp [part_eq, front_eq], by simpa using back_eq.symm⟩)
        · refine Or.inr (Or.inl ⟨rest, more, ?_, ?_, part_eq, front_eq, back_eq⟩)
          · rcases some with ⟨_, _, rfl⟩
            simp
          · rename_i someMore
            rcases someMore with ⟨_, _, rfl⟩
            simp
  · exact Or.inl ⟨rest, before_eq, by rw [back_eq, List.append_assoc]⟩

/-- Where a range stands next to a marked part of a text: before the part, behind it, around it, or
with its end or only its beginning inside of the part. -/
theorem range_place {α : Type} {before part after front covered back : List α}
    (same : before ++ part ++ after = front ++ covered ++ back) :
    (∃ between, before = front ++ covered ++ between ∧ back = between ++ part ++ after) ∨
      (∃ between, front = before ++ part ++ between ∧ after = between ++ (covered ++ back)) ∨
      (∃ first last, before = front ++ first ∧ after = last ++ back ∧ covered = first ++ part ++ last) ∨
      (∃ first second, first ≠ [] ∧ second ≠ [] ∧ part = first ++ second ∧
        front ++ covered = before ++ first ∧ back = second ++ after) ∨
      ∃ first second last, first ≠ [] ∧ second ≠ [] ∧ part = first ++ second ∧
        front = before ++ first ∧ covered = second ++ last ∧ after = last ++ back := by
  rcases cut_place same with
    ⟨between, before_eq, back_eq⟩ | inside | ⟨last, covered_eq, after_eq⟩
  · exact Or.inl ⟨between, before_eq, back_eq⟩
  · exact Or.inr (Or.inr (Or.inr (Or.inl inside)))
  · rw [List.append_assoc front] at same
    rcases cut_place same with
      ⟨first, before_eq, rest⟩ | ⟨first, second, some, someSecond, parts, front_eq, rest⟩ |
        ⟨between, front_eq, rest⟩
    · apply Or.inr
      apply Or.inr
      apply Or.inl
      refine ⟨first, last, before_eq, after_eq, ?_⟩
      rw [after_eq, ← List.append_assoc] at rest
      exact List.append_cancel_right rest
    · apply Or.inr
      apply Or.inr
      apply Or.inr
      apply Or.inr
      refine ⟨first, second, last, some, someSecond, parts, front_eq, ?_, after_eq⟩
      rw [after_eq, ← List.append_assoc] at rest
      exact List.append_cancel_right rest
    · exact Or.inr (Or.inl ⟨between, front_eq, rest⟩)

theorem stripStart_append (start rest : Text) : stripStart (start ++ rest) start = some rest := by
  have begins : startsWith (start ++ rest) start = true :=
    List.isPrefixOf_iff_prefix.mpr (List.prefix_append start rest)
  rw [stripStart, if_pos begins, List.drop_left]

theorem stripEnd_append (front tail : Text) : stripEnd (front ++ tail) tail = some front := by
  have ends : endsWith (front ++ tail) tail = true :=
    List.isSuffixOf_iff_suffix.mpr (List.suffix_append front tail)
  rw [stripEnd, if_pos ends, List.length_append, Nat.add_sub_cancel, List.take_left]

theorem append_of_stripStart {text start rest : Text} (stripped : stripStart text start = some rest) :
    text = start ++ rest := by
  unfold stripStart at stripped
  split at stripped
  · rename_i begins
    obtain ⟨behind, rfl⟩ := List.isPrefixOf_iff_prefix.mp begins
    rw [List.drop_left] at stripped
    rw [Option.some.inj stripped]
  · cases stripped

/-! ### Bytes -/

@[simp] theorem byteLength_nil : byteLength [] = 0 := rfl

@[simp] theorem byteLength_cons (character : Char) (text : Text) :
    byteLength (character :: text) = character.utf8Size + byteLength text := rfl

@[simp] theorem byteLength_append (first second : Text) :
    byteLength (first ++ second) = byteLength first + byteLength second := by
  simp [byteLength]

theorem byteLength_le (text : Text) : byteLength text ≤ 4 * text.length := by
  induction text with
  | nil => simp
  | cons character text ih =>
      have bound : character.utf8Size ≤ 4 := Char.utf8Size_le_four character
      rw [byteLength_cons, List.length_cons]
      omega

theorem takeBytes_of_le {maximum : Nat} {text : Text} (fits : byteLength text ≤ maximum) :
    takeBytes maximum text = text := by
  induction text generalizing maximum with
  | nil => rfl
  | cons character rest ih =>
      rw [byteLength_cons] at fits
      rw [takeBytes, if_pos (by omega), ih (by omega)]

theorem takeBytes_isPrefix (maximum : Nat) (text : Text) : takeBytes maximum text <+: text := by
  induction text generalizing maximum with
  | nil => exact List.prefix_rfl
  | cons character rest ih =>
      rw [takeBytes]
      split
      · exact List.cons_prefix_cons.mpr ⟨rfl, ih _⟩
      · exact List.nil_prefix

theorem byteLength_takeBytes (maximum : Nat) (text : Text) :
    byteLength (takeBytes maximum text) ≤ maximum := by
  induction text generalizing maximum with
  | nil => simp [takeBytes]
  | cons character rest ih =>
      rw [takeBytes]
      split
      · have bound := ih (maximum - character.utf8Size)
        rw [byteLength_cons]
        omega
      · simp

/-- What does not fit whole: the character behind the longest beginning takes more than is left. -/
theorem exists_next_of_lt {maximum : Nat} {text : Text} (tooLong : maximum < byteLength text) :
    ∃ character rest, text = takeBytes maximum text ++ character :: rest ∧
      maximum < byteLength (takeBytes maximum text) + character.utf8Size := by
  induction text generalizing maximum with
  | nil => exact absurd tooLong (Nat.not_lt_zero _)
  | cons first tail ih =>
      rw [byteLength_cons] at tooLong
      by_cases fits : first.utf8Size ≤ maximum
      · have tooLong : maximum - first.utf8Size < byteLength tail := by omega
        obtain ⟨character, rest, same, past⟩ := ih tooLong
        refine ⟨character, rest, ?_, ?_⟩
        · rw [takeBytes, if_pos fits, List.cons_append, ← same]
        · rw [takeBytes, if_pos fits, byteLength_cons]
          omega
      · refine ⟨first, tail, ?_, ?_⟩
        · rw [takeBytes, if_neg fits, List.nil_append]
        · rw [takeBytes, if_neg fits, byteLength_nil]
          omega

theorem byteLength_le_of_isPrefix {first whole : Text} (begins : first <+: whole) :
    byteLength first ≤ byteLength whole := by
  obtain ⟨rest, rfl⟩ := begins
  simp

end Text
