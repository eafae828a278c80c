import RecordQuery.Proofs.Number.Order
import RecordQuery.Value.Basic

/-! # The order of values

Values have places: the kinds come one after the other, with texts and variants as one kind, and values of one
kind come in their own order. Defined values are sorted by their places, also where their kinds differ, although
texts and variants have ranks of their own. The undefined number is sorted by its kind alone and so equals every
number; it is the only value that does not let the order through from one of its sides to the other.
-/

namespace RecordQuery.Value

variable {first second third : Value}

/-! ## Places -/

/-- Where a value stands: the place of its kind, which texts and variants share, and there the numbers or
the text that stand for it. -/
def place : Value → Nat × List Int × String
  | null => (0, [], "")
  | boolean value => (1, [value.toNat], "")
  | number value => (2, value.position?.toList, "")
  | instant value => (3, value.fields, "")
  | text content | variant content => (4, [], content)

/-- The order of two values by their places, which is a total preorder of all values. -/
def placeOrder : Value → Value → Ordering :=
  compareLex (compareOn (·.place.1)) (compareLex (compareOn (·.place.2.1)) (compareOn (·.place.2.2)))

instance : Std.TransCmp placeOrder := inferInstanceAs (Std.TransCmp (compareLex _ _))

private theorem compare?_number {first second : Number} (defined : first ≠ .nan) (other : second ≠ .nan) :
    first.compare? second = some (compare first.position?.toList second.position?.toList) := by
  obtain ⟨left, foundLeft⟩ := Number.exists_position? defined
  obtain ⟨right, foundRight⟩ := Number.exists_position? other
  rw [Number.compare?, foundLeft, foundRight]
  simp

private theorem compare_boolean (first second : Bool) :
    compare first second = compare [(first.toNat : Int)] [(second.toNat : Int)] := by
  cases first <;> cases second <;> rfl

/-- Values are sorted by their places unless one of them is undefined. -/
theorem sortOrder_eq_placeOrder {first second : Value} (defined : first ≠ .number .nan)
    (other : second ≠ .number .nan) : first.sortOrder second = first.placeOrder second := by
  -- Values of different kinds, and two texts, are compared by computation alone.
  cases first <;> cases second <;> try rfl
  case number.number first second =>
    have compared := compare?_number (fun same => defined (congrArg number same))
      (fun same => other (congrArg number same))
    simp [sortOrder, compare?, compared, placeOrder, compareLex, compareOn, place]
  case boolean.boolean first second =>
    simpa [sortOrder, compare?, placeOrder, compareLex, compareOn, place] using compare_boolean first second
  case instant.instant first second =>
    simp [sortOrder, compare?, placeOrder, compareLex, compareOn, place, Instant.order]

/-! ## Turned around -/

/-- The order of two values is turned around with them, if they have one. -/
theorem compare?_swap (first second : Value) :
    second.compare? first = (first.compare? second).map Ordering.swap := by
  cases first <;> cases second <;> try rfl
  case number.number first second => exact Number.compare?_swap first second
  case instant.instant first second =>
    rw [compare?, compare?, Instant.order, Instant.order]
    exact congrArg some Std.OrientedCmp.eq_swap
  all_goals exact congrArg some Std.OrientedCmp.eq_swap

instance : Std.OrientedCmp sortOrder where
  eq_swap {first second} := by
    rw [sortOrder, sortOrder, compare?_swap second first]
    cases second.compare? first with
    | none => exact Std.OrientedOrd.eq_swap (a := first.rank) (b := second.rank)
    | some order => rfl

/-! ## Kinds -/

/-- Values of different kinds are sorted by their kinds. -/
theorem sortOrder_of_place_fst_ne (differ : first.place.1 ≠ second.place.1) :
    first.sortOrder second = compare first.place.1 second.place.1 := by
  cases first <;> cases second <;> first | rfl | exact absurd rfl differ

/-- No value is sorted in front of one of an earlier kind. -/
theorem place_fst_le_of_isLE (lower : (first.sortOrder second).isLE) : first.place.1 ≤ second.place.1 := by
  by_cases same : first.place.1 = second.place.1
  · exact Nat.le_of_eq same
  · rwa [sortOrder_of_place_fst_ne same, Nat.isLE_compare] at lower

/-- The undefined number is sorted by its kind alone. -/
theorem nan_sortOrder (value : Value) : (number .nan).sortOrder value = compare 2 value.place.1 := by
  cases value <;> rfl

theorem sortOrder_nan (value : Value) : value.sortOrder (number .nan) = compare value.place.1 2 := by
  have turned : value.sortOrder (number .nan) = ((number .nan).sortOrder value).swap :=
    Std.OrientedCmp.eq_swap
  rw [turned, nan_sortOrder, Nat.compare_swap]

/-! ## The order -/

/-- A defined value lets the order through, whatever stands on its two sides. -/
theorem sortOrder_isLE_trans (defined : second ≠ .number .nan) (before : (first.sortOrder second).isLE)
    (behind : (second.sortOrder third).isLE) : (first.sortOrder third).isLE := by
  have kinds : first.place.1 ≤ third.place.1 :=
    Nat.le_trans (place_fst_le_of_isLE before) (place_fst_le_of_isLE behind)
  by_cases undefined : first = .number .nan
  · subst undefined
    rwa [nan_sortOrder, Nat.isLE_compare]
  by_cases otherUndefined : third = .number .nan
  · subst otherUndefined
    rwa [sortOrder_nan, Nat.isLE_compare]
  rw [sortOrder_eq_placeOrder undefined defined] at before
  rw [sortOrder_eq_placeOrder defined otherUndefined] at behind
  rw [sortOrder_eq_placeOrder undefined otherUndefined]
  exact Std.TransCmp.isLE_trans before behind

/-- Through the undefined number one would be at most zero. -/
theorem not_sortOrder_isLE_trans_nan : ¬ ∀ first third : Value, (first.sortOrder (number .nan)).isLE →
    ((number .nan).sortOrder third).isLE → (first.sortOrder third).isLE := by
  intro through
  have one_le_zero := through (number (.ofInt 1)) (number (.ofInt 0))
  rw [sortOrder_nan, nan_sortOrder] at one_le_zero
  exact absurd (one_le_zero rfl rfl) (by decide +kernel)

theorem null_sortOrder_eq_lt_iff {value : Value} : null.sortOrder value = .lt ↔ value ≠ .null := by
  cases value with
  | null => exact iff_of_false nofun fun present => present rfl
  | _ => exact iff_of_true rfl nofun

/-- Values are sorted by a total preorder: every value equals itself, turned around the order is turned around, and
it goes through every value but the undefined number. Null alone is at the bottom, and values that have an order are
sorted by it. -/
theorem sortOrder_total_preorder :
    (∀ value : Value, value.sortOrder value = .eq) ∧
    (∀ first second : Value, second.sortOrder first = (first.sortOrder second).swap) ∧
    (∀ second : Value, second ≠ .number .nan ↔ ∀ first third : Value, (first.sortOrder second).isLE →
      (second.sortOrder third).isLE → (first.sortOrder third).isLE) ∧
    (∀ value : Value, null.sortOrder value = .lt ↔ value ≠ .null) ∧
    ∀ (first second : Value) (order : Ordering), first.compare? second = some order →
      first.sortOrder second = order := by
  refine ⟨fun _ => Std.ReflCmp.compare_self, fun _ _ => Std.OrientedCmp.eq_swap, fun second => ?_,
    fun _ => null_sortOrder_eq_lt_iff, fun first second order compared => ?_⟩
  · constructor
    · exact fun defined _ _ => sortOrder_isLE_trans defined
    · rintro through rfl
      exact not_sortOrder_isLE_trans_nan through
  · rw [sortOrder, compared, Option.getD_some]

/-- A number, a variant and a text: the variant stands among the texts, although its rank is above theirs. -/
theorem sortOrder_total_preorder_of_kinds :
    let first := number (.ofInt 7)
    let second := variant "active"
    let third := text "pending"
    (second ≠ .number .nan ∧ (first.sortOrder second).isLE ∧ (second.sortOrder third).isLE ∧
      (first.sortOrder third).isLE) ∧
    (third ≠ .null ∧ null.sortOrder third = .lt) ∧
    second.compare? third = some .lt ∧ second.sortOrder third = .lt ∧ third.sortOrder second = .gt := by
  intro first second third
  obtain ⟨-, swap, trans, bottom, extend⟩ := sortOrder_total_preorder
  have defined : second ≠ .number .nan := nofun
  have present : third ≠ .null := nofun
  have compared : second.compare? third = some .lt := by decide +kernel
  have below := extend second third .lt compared
  have lower : (second.sortOrder third).isLE := by
    rw [below]
    rfl
  have through := (trans second).mp defined first third rfl lower
  refine ⟨⟨defined, rfl, lower, through⟩, ⟨present, (bottom third).mpr present⟩, compared, below, ?_⟩
  rw [swap second third, below]
  rfl

end RecordQuery.Value
