/-
Module: SakalaAgent.Text.Decimal
Layer: Text (library)
Purpose: Numbers in decimal digits: a number is read back from the digits it is printed in.
Trusted boundary: none
Main exports: Text.parseNat_toDigits, Text.isDigit_of_mem_toString
-/
import SakalaAgent.Text.Chars

namespace Text

/-- Digits are read one after the other. -/
theorem digitsValue_foldl {digits : Text} (all : ∀ digit ∈ digits, digit.isDigit = true)
    (start : Nat) :
    digits.foldl (fun value digit => value.bind fun value =>
      if digit.isDigit then some (10 * value + (digit.toNat - '0'.toNat)) else none) (some start) =
        some (Nat.ofDigitChars 10 digits start) := by
  induction digits generalizing start with
  | nil => rfl
  | cons digit rest ih =>
      have first := all digit List.mem_cons_self
      have others := fun other member => all other (List.mem_cons_of_mem digit member)
      rw [List.foldl_cons, Option.bind_some, if_pos first, ih others, Nat.ofDigitChars_cons]

theorem digitsValue_of_isDigit {digits : Text} (all : ∀ digit ∈ digits, digit.isDigit = true) :
    digitsValue digits = some (Nat.ofDigitChars 10 digits 0) :=
  digitsValue_foldl all 0

theorem isDigit_of_mem_toDigits {value : Nat} {digit : Char}
    (member : digit ∈ Nat.toDigits 10 value) : digit.isDigit = true :=
  Nat.isDigit_of_mem_toDigits (Nat.zero_lt_succ _) (Nat.le_refl _) member

/-- A number that is printed is read back, if it is below the bound. -/
theorem parseNat_toDigits {bound value : Nat} (below : value < bound) :
    parseNat bound (Nat.toDigits 10 value) = some value := by
  have noSign : (Nat.toDigits 10 value).head? ≠ some '+' := by
    intro sign
    have digit := isDigit_of_mem_toDigits (List.mem_of_mem_head? sign)
    cases digit
  have isSome : (Nat.toDigits 10 value).isEmpty = false := by
    simp [Nat.toDigits_ne_nil]
  have read : digitsValue (Nat.toDigits 10 value) = some value := by
    rw [digitsValue_of_isDigit fun _ => isDigit_of_mem_toDigits, Nat.ofDigitChars_ten_toDigits]
  simp only [parseNat, if_neg noSign, isSome, read, if_pos below]
  rfl

/-- A number that is read is below the bound. -/
theorem parseNat_lt {bound value : Nat} {text : Text} (parsed : parseNat bound text = some value) :
    value < bound := by
  unfold parseNat at parsed
  generalize (if text.head? = some '+' then text.tail else text) = digits at parsed
  dsimp only at parsed
  split at parsed
  · cases parsed
  · cases read : digitsValue digits with
    | none =>
        rw [read] at parsed
        cases parsed
    | some number =>
        rw [read] at parsed
        obtain ⟨below, same⟩ := Option.ite_none_right_eq_some.mp parsed
        exact Option.some.inj same ▸ below

theorem toList_toString (value : Nat) : (toString value).toList = Nat.toDigits 10 value :=
  Nat.toList_repr

theorem parseNat_toString {bound value : Nat} (below : value < bound) :
    parseNat bound (toString value).toList = some value := by
  rw [toList_toString]
  exact parseNat_toDigits below

theorem isDigit_of_mem_toString {value : Nat} {digit : Char}
    (member : digit ∈ (toString value).toList) : digit.isDigit = true := by
  rw [toList_toString] at member
  exact isDigit_of_mem_toDigits member

theorem toString_ne_nil (value : Nat) : (toString value).toList ≠ [] := by
  rw [toList_toString]
  exact Nat.toDigits_ne_nil

theorem isWhiteSpace_of_isDigit {digit : Char} (isDigit : digit.isDigit = true) :
    isWhiteSpace digit = false := by
  simp only [Char.isDigit, Bool.and_eq_true, decide_eq_true_eq, UInt32.le_iff_toNat_le] at isDigit
  obtain ⟨low, high⟩ := isDigit
  have low' : 48 ≤ digit.toNat := low
  have high' : digit.toNat ≤ 57 := high
  simp only [isWhiteSpace, Bool.or_eq_false_iff, Bool.and_eq_false_iff, decide_eq_false_iff_not]
  omega

end Text
