import RecordQuery.Number.Basic

/-! # The order of numbers

Every number but the undefined one has a place on the line, and places alone decide comparisons.
-/

namespace RecordQuery.Number

/-- Every number but the undefined one has a place. -/
theorem exists_position? {value : Number} (defined : value ≠ .nan) :
    ∃ place, value.position? = some place := by
  cases value with
  | nan => exact absurd rfl defined
  | infinite negative => exact ⟨_, rfl⟩
  | finite negative steps below short => exact ⟨_, rfl⟩

theorem exists_compare? {first second : Number} (defined : first ≠ .nan) (other : second ≠ .nan) :
    ∃ order, first.compare? second = some order := by
  obtain ⟨left, foundLeft⟩ := exists_position? defined
  obtain ⟨right, foundRight⟩ := exists_position? other
  exact ⟨_, by rw [compare?, foundLeft, foundRight]⟩

/-- Nothing is compared with the undefined number. -/
theorem compare?_nan (value : Number) : value.compare? .nan = none := by
  cases value <;> rfl

/-- Numbers in one place are equal. -/
theorem compare?_of_same_position {first second : Number} (same : first.position? = second.position?)
    (defined : second ≠ .nan) : first.compare? second = some .eq := by
  obtain ⟨place, found⟩ := exists_position? defined
  rw [compare?, same, found]
  simp

/-- The order of two numbers is turned around with them. -/
theorem compare?_swap (first second : Number) :
    second.compare? first = (first.compare? second).map Ordering.swap := by
  unfold compare?
  cases first.position? with
  | none => cases second.position? <;> rfl
  | some left =>
    cases second.position? with
    | none => rfl
    | some right => exact congrArg some Std.OrientedCmp.eq_swap

/-- Only the place of a number counts in comparisons. -/
theorem compare?_congr {first second other : Number} (same : second.position? = other.position?) :
    first.compare? second = first.compare? other := by
  unfold compare?
  rw [same]

end RecordQuery.Number
