/-
Module: SakalaAgent.Protocol.Uuid
Layer: Protocol
Purpose: UUIDs and the texts they are written as. A UUID is its 32 hexadecimal digits; it is printed
  in the hyphenated form, and read in every form the parser of the uuid crate accepts.
Trusted boundary: none
Main exports: Uuid, Uuid.toText, Uuid.parseText
-/
import Mathlib

namespace SakalaAgent

/-- A UUID, by its hexadecimal digits from the most significant one on. -/
structure Uuid where
  digits : List (Fin 16)
  complete : digits.length = 32
deriving DecidableEq

namespace Uuid

@[ext] theorem ext {a b : Uuid} (same : a.digits = b.digits) : a = b := by
  cases a
  cases b
  simpa using same

instance neZeroSixteen : NeZero (16 : Nat) :=
  ⟨by decide⟩

/-- The UUID with the given 128-bit value. -/
def ofNat (value : Nat) : Uuid where
  digits := (List.range 32).map fun index => Fin.ofNat 16 (value / 16 ^ (31 - index))
  complete := by simp

instance : Inhabited Uuid := ⟨ofNat 0⟩

/-- One lower-case hexadecimal digit. -/
def hexDigit (digit : Fin 16) : Char :=
  if digit.val < 10 then Char.ofNat (48 + digit.val) else Char.ofNat (87 + digit.val)

/-- The value of a hexadecimal digit of either case. -/
def hexValue (character : Char) : Option (Fin 16) :=
  let code := character.toNat
  if 48 ≤ code ∧ code ≤ 57 then some (Fin.ofNat 16 (code - 48))
  else if 97 ≤ code ∧ code ≤ 102 then some (Fin.ofNat 16 (code - 87))
  else if 65 ≤ code ∧ code ≤ 70 then some (Fin.ofNat 16 (code - 55))
  else none

theorem hexValue_hexDigit (digit : Fin 16) : hexValue (hexDigit digit) = some digit := by
  revert digit
  decide

/-- The digits written one after the other, in groups of 8, 4, 4, 4 and 12 with hyphens. -/
def hyphenated (digits : List Char) : List Char :=
  digits.take 8 ++ '-' :: ((digits.drop 8).take 4 ++ '-' :: ((digits.drop 12).take 4 ++
    '-' :: ((digits.drop 16).take 4 ++ '-' :: digits.drop 20)))

/-- `Display` of a UUID. -/
def toText (uuid : Uuid) : List Char :=
  hyphenated (uuid.digits.map hexDigit)

/-- `Display` of a UUID, as the string it is. -/
def toString (uuid : Uuid) : String :=
  String.ofList uuid.toText

/-- 32 digits without separators. -/
def parseSimple (text : List Char) : Option Uuid :=
  match text.mapM hexValue with
  | some digits => if complete : digits.length = 32 then some ⟨digits, complete⟩ else none
  | none => none

/-- 36 characters with hyphens at the positions 8, 13, 18 and 23. -/
def parseHyphenated (text : List Char) : Option Uuid :=
  if text[8]? = some '-' ∧ text[13]? = some '-' ∧ text[18]? = some '-' ∧ text[23]? = some '-' then
    parseSimple (text.take 8 ++ (text.drop 9).take 4 ++ (text.drop 14).take 4 ++
      (text.drop 19).take 4 ++ text.drop 24)
  else none

/-- `Uuid::parse_str`: the form is told by the length of the text. -/
def parseText (text : List Char) : Option Uuid :=
  match text.length with
  | 32 => parseSimple text
  | 36 => parseHyphenated text
  | 38 =>
      if text.head? = some '\x7b' ∧ text.getLast? = some '\x7d' then
        parseHyphenated ((text.drop 1).dropLast)
      else none
  | 45 =>
      if text.take 9 = ['u', 'r', 'n', ':', 'u', 'u', 'i', 'd', ':'] then
        parseHyphenated (text.drop 9)
      else none
  | _ => none

theorem mapM_hexValue_hexDigit (digits : List (Fin 16)) :
    (digits.map hexDigit).mapM hexValue = some digits := by
  induction digits with
  | nil => rfl
  | cons digit digits ih => simp [List.mapM_cons, hexValue_hexDigit, ih]

theorem parseSimple_hexDigit (uuid : Uuid) :
    parseSimple (uuid.digits.map hexDigit) = some uuid := by
  simp only [parseSimple, mapM_hexValue_hexDigit]
  exact dif_pos uuid.complete

theorem hyphenated_length {digits : List Char} (complete : digits.length = 32) :
    (hyphenated digits).length = 36 := by
  simp only [hyphenated, List.length_append, List.length_cons, List.length_take, List.length_drop]
  omega

/-- Reading the hyphenated form finds the digits again. -/
theorem parseHyphenated_hyphenated {digits : List Char} (complete : digits.length = 32) :
    parseHyphenated (hyphenated digits) = parseSimple digits := by
  have first : (digits.take 8).length = 8 := by simp [complete]
  have second : ((digits.drop 8).take 4).length = 4 := by simp [complete]
  have third : ((digits.drop 12).take 4).length = 4 := by simp [complete]
  have fourth : ((digits.drop 16).take 4).length = 4 := by simp [complete]
  have whole : digits = digits.take 8 ++ ((digits.drop 8).take 4 ++ ((digits.drop 12).take 4 ++
      ((digits.drop 16).take 4 ++ digits.drop 20))) := by
    have joined (n k : Nat) : (digits.drop n).take k ++ digits.drop (n + k) = digits.drop n := by
      rw [← List.drop_drop, List.take_append_drop]
    rw [joined 16 4, joined 12 4, joined 8 4, List.take_append_drop]
  unfold hyphenated
  generalize digits.take 8 = a at *
  generalize (digits.drop 8).take 4 = b at *
  generalize (digits.drop 12).take 4 = c at *
  generalize (digits.drop 16).take 4 = d at *
  generalize digits.drop 20 = e at *
  subst whole
  have hyphens : (a ++ '-' :: (b ++ '-' :: (c ++ '-' :: (d ++ '-' :: e))))[8]? = some '-' ∧
      (a ++ '-' :: (b ++ '-' :: (c ++ '-' :: (d ++ '-' :: e))))[13]? = some '-' ∧
      (a ++ '-' :: (b ++ '-' :: (c ++ '-' :: (d ++ '-' :: e))))[18]? = some '-' ∧
      (a ++ '-' :: (b ++ '-' :: (c ++ '-' :: (d ++ '-' :: e))))[23]? = some '-' := by
    simp [List.getElem?_append, first, second, third, fourth]
  rw [parseHyphenated, if_pos hyphens]
  simp (disch := omega) [List.drop_append, List.drop_eq_nil_of_le, first, second, third, fourth]

/-- What is printed is read back. -/
theorem parseText_toText (uuid : Uuid) : parseText uuid.toText = some uuid := by
  have complete : (uuid.digits.map hexDigit).length = 32 := by simp [uuid.complete]
  simp only [parseText, toText, hyphenated_length complete]
  rw [parseHyphenated_hyphenated complete, parseSimple_hexDigit]

theorem mem_hyphenated {digits : List Char} {character : Char}
    (member : character ∈ hyphenated digits) : character = '-' ∨ character ∈ digits := by
  simp only [hyphenated, List.mem_append, List.mem_cons] at member
  rcases member with inside | rfl | inside | rfl | inside | rfl | inside | rfl | inside
  · exact .inr (List.mem_of_mem_take inside)
  · exact .inl rfl
  · exact .inr (List.mem_of_mem_drop (List.mem_of_mem_take inside))
  · exact .inl rfl
  · exact .inr (List.mem_of_mem_drop (List.mem_of_mem_take inside))
  · exact .inl rfl
  · exact .inr (List.mem_of_mem_drop (List.mem_of_mem_take inside))
  · exact .inl rfl
  · exact .inr (List.mem_of_mem_drop inside)

theorem mem_toText {uuid : Uuid} {character : Char} (member : character ∈ uuid.toText) :
    character = '-' ∨ ∃ digit, character = hexDigit digit := by
  rcases mem_hyphenated member with rfl | inside
  · exact .inl rfl
  · obtain ⟨digit, _, rfl⟩ := List.mem_map.mp inside
    exact .inr ⟨digit, rfl⟩

theorem toText_injective {a b : Uuid} (same : a.toText = b.toText) : a = b := by
  have read := parseText_toText a
  rw [same, parseText_toText b] at read
  exact (Option.some.inj read).symm

end Uuid

end SakalaAgent
