import Mathlib.Algebra.Group.Nat.Defs
import RecordQuery.Text.Basic

/-! # Runs of characters and decimal digits

A run of characters of one kind is cut off in front of anything that does not continue it, and only blanks are
trimmed off the ends of a text. The value of digits is that of the number they were written from, and zeros on
either side move it by powers of ten.
-/

namespace RecordQuery.Text

section Runs

variable {kind : Char → Bool} {front back : List Char}

private theorem takeWhile_outside (outside : back.head?.any kind = false) : back.takeWhile kind = [] := by
  cases back with
  | nil => rfl
  | cons first rest => exact List.takeWhile_cons_of_neg (Bool.eq_false_iff.mp outside)

theorem dropWhile_outside (outside : back.head?.any kind = false) : back.dropWhile kind = back := by
  cases back with
  | nil => rfl
  | cons first rest => exact List.dropWhile_cons_of_neg (Bool.eq_false_iff.mp outside)

/-- A run ends where a character of another kind comes. -/
theorem takeWhile_run (inside : ∀ character ∈ front, kind character) (outside : back.head?.any kind = false) :
    (front ++ back).takeWhile kind = front := by
  rw [List.takeWhile_append_of_pos inside, takeWhile_outside outside, List.append_nil]

theorem dropWhile_run (inside : ∀ character ∈ front, kind character) (outside : back.head?.any kind = false) :
    (front ++ back).dropWhile kind = back := by
  rw [List.dropWhile_append_of_pos inside, dropWhile_outside outside]

/-- Every text begins with a run, which may be empty. -/
theorem exists_run (kind : Char → Bool) (characters : List Char) : ∃ front back, characters = front ++ back ∧
    (∀ character ∈ front, kind character) ∧ back.head?.any kind = false := by
  refine ⟨_, _, List.takeWhile_append_dropWhile.symm, List.all_eq_true.mp List.all_takeWhile, ?_⟩
  have stops := List.head?_dropWhile_not kind characters
  cases behind : characters.dropWhile kind with
  | nil => rfl
  | cons first others =>
    rw [behind] at stops
    exact stops

/-- A text without blanks at its ends is not trimmed. -/
theorem trimBoth_eq_self {characters : List Char} (first : characters.head?.any isBlank = false)
    (last : characters.getLast?.any isBlank = false) : trimBoth characters = characters := by
  have turned : characters.reverse.head?.any isBlank = false := by rwa [List.head?_reverse]
  rw [trimBoth, trimLeft, dropWhile_outside first, trimRight, dropWhile_outside turned, List.reverse_reverse]

end Runs

theorem toNat_of_isDigit {character : Char} (digit : character.isDigit) :
    48 ≤ character.toNat ∧ character.toNat ≤ 57 := by
  simp only [Char.isDigit, Bool.and_eq_true, decide_eq_true_eq, ge_iff_le, UInt32.le_iff_toNat_le] at digit
  exact digit

/-- The characters of names and numbers are no blanks. -/
theorem isBlank_of_toNat {character : Char} (least : 48 ≤ character.toNat) (most : character.toNat ≤ 122) :
    isBlank character = false := by
  simp only [isBlank, inRanges, blankRanges, List.any_cons, List.any_nil, Bool.or_false,
    Bool.or_eq_false_iff, Bool.and_eq_false_iff, decide_eq_false_iff_not]
  omega

theorem isBlank_of_isDigit {character : Char} (digit : character.isDigit) : isBlank character = false := by
  have place := toNat_of_isDigit digit
  exact isBlank_of_toNat place.1 (by omega)

theorem digitsValue_toDigits (value : Nat) : digitsValue (Nat.toDigits 10 value) = value :=
  Nat.ofDigitChars_ten_toDigits

/-- Zeros in front add nothing. -/
theorem digitsValue_zeros_append (count : Nat) (digits : List Char) :
    digitsValue (List.replicate count '0' ++ digits) = digitsValue digits := by
  rw [digitsValue, Nat.ofDigitChars_append, Nat.ofDigitChars_replicate_zero, Nat.mul_zero, digitsValue]

/-- Zeros behind move the value to the left. -/
theorem digitsValue_append_zeros (digits : List Char) (count : Nat) :
    digitsValue (digits ++ List.replicate count '0') = digitsValue digits * 10 ^ count := by
  rw [digitsValue, Nat.ofDigitChars_append, Nat.ofDigitChars_replicate_zero, Nat.mul_comm, digitsValue]

theorem isDigit_of_mem_toDigits {value : Nat} {digit : Char} (member : digit ∈ Nat.toDigits 10 value) :
    digit.isDigit :=
  Nat.isDigit_of_mem_toDigits (by decide) (by decide) member

theorem isDigit_of_mem_zeros {count : Nat} {digit : Char} (member : digit ∈ List.replicate count '0') :
    digit.isDigit := by
  rw [List.eq_of_mem_replicate member]
  rfl

end RecordQuery.Text
