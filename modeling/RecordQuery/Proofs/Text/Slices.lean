import RecordQuery.Text.Basic

/-! # Parts of a text between two bytes

A part is cut out of a text by the bytes at which it begins and ends. Between characters it is what stands there.
-/

namespace RecordQuery.Text

/-- The characters that begin at a byte from `start` on and in front of `stop`, where the first one begins at
`offset`. -/
def sliceFrom (offset start stop : Nat) : List Char → List Char
  | [] => []
  | character :: rest =>
    let others := sliceFrom (offset + character.utf8Size) start stop rest
    if start ≤ offset ∧ offset < stop then character :: others else others

/-- The characters between two bytes. -/
def slice (start stop : Nat) (characters : List Char) : List Char := sliceFrom 0 start stop characters

variable {offset start stop : Nat} {characters : List Char}

theorem sliceFrom_append (offset start stop : Nat) (first second : List Char) :
    sliceFrom offset start stop (first ++ second) =
      sliceFrom offset start stop first ++ sliceFrom (offset + byteLength first) start stop second := by
  induction first generalizing offset with
  | nil => rfl
  | cons character rest ih =>
    simp only [List.cons_append, sliceFrom, byteLength, ih, Nat.add_assoc]
    split <;> rfl

/-- In front of the part nothing is taken. -/
theorem sliceFrom_of_before (before : offset + byteLength characters ≤ start) :
    sliceFrom offset start stop characters = [] := by
  induction characters generalizing offset with
  | nil => rfl
  | cons character rest ih =>
    have wide := Char.utf8Size_pos character
    rw [byteLength] at before
    rw [sliceFrom, if_neg (by omega), ih (by omega)]

/-- Behind the part nothing is taken. -/
theorem sliceFrom_of_behind (behind : stop ≤ offset) : sliceFrom offset start stop characters = [] := by
  induction characters generalizing offset with
  | nil => rfl
  | cons character rest ih => rw [sliceFrom, if_neg (by omega), ih (by omega)]

/-- Inside the part everything is taken. -/
theorem sliceFrom_of_inside (least : start ≤ offset) (most : offset + byteLength characters ≤ stop) :
    sliceFrom offset start stop characters = characters := by
  induction characters generalizing offset with
  | nil => rfl
  | cons character rest ih =>
    have wide := Char.utf8Size_pos character
    rw [byteLength] at most
    rw [sliceFrom, if_pos (by omega), ih (by omega) (by omega)]

/-- Between two characters the part is what stands there. -/
theorem slice_byteLength (before part behind : List Char) :
    slice (byteLength before) (byteLength before + byteLength part) (before ++ part ++ behind) = part := by
  have front : sliceFrom 0 (byteLength before) (byteLength before + byteLength part) before = [] :=
    sliceFrom_of_before (Nat.le_of_eq (Nat.zero_add _))
  rw [slice, sliceFrom_append, sliceFrom_append, front, sliceFrom_of_inside (by omega) (by omega),
    sliceFrom_of_behind (by rw [byteLength_append]; omega), List.nil_append, List.append_nil]

end RecordQuery.Text
