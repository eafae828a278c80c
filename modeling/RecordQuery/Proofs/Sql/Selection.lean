import RecordQuery.Proofs.Number.Order
import RecordQuery.Proofs.Number.Rounding
import RecordQuery.Proofs.Query.Suitability
import RecordQuery.Proofs.Sql.Evaluation
import RecordQuery.Query.Basic

/-! # SQL and memory select the same rows

Under an even number of negations a part of a condition has to be true exactly if it holds in memory, and
under an odd number it has to be false exactly if it does not hold; unknown is neither. The guards establish
both for a single test, and the joining words keep them: this is the invariant of the induction over the
condition. Columns hold null or defined values of the kind that their fields declare.
-/

namespace RecordQuery

namespace Sql

/-- The constant of a number stands where the number stands. -/
private theorem order?_ofNumber (stored value : Number) :
    order? (.number stored) (.ofNumber value) = stored.compare? value := by
  unfold Scalar.ofNumber
  split
  · rename_i whole found
    exact Number.compare?_congr (Number.position?_ofInt found)
  · rfl

/-- A stored value stands to a constant as it stands to the value of the constant. -/
theorem order?_of_ofValue? {type : ValueType} {stored value : Value} {scalar : Scalar}
    (fits : type.holds stored) (present : stored ≠ .null) (belongs : type.holds value)
    (constant : Scalar.ofValue? value = some scalar) :
    ∃ order, stored.compare? value = some order ∧ order? stored scalar = some order := by
  have constantPresent : value ≠ .null := by
    rintro rfl
    cases constant
  cases type with
  | text | variants names =>
    cases stored <;> cases value <;> cases fits <;> cases belongs <;> cases constant <;>
      first | exact absurd rfl present | exact ⟨_, rfl, rfl⟩
  | number =>
    obtain ⟨first, rfl, defined⟩ := ValueType.number_of_holds fits present
    obtain ⟨second, rfl, other⟩ := ValueType.number_of_holds belongs constantPresent
    obtain ⟨order, found⟩ := Number.exists_compare? defined other
    cases constant
    exact ⟨order, found, (order?_ofNumber first second).trans found⟩
  | boolean =>
    obtain ⟨first, rfl⟩ := ValueType.boolean_of_holds fits present
    obtain ⟨second, rfl⟩ := ValueType.boolean_of_holds belongs constantPresent
    cases constant
    exact ⟨_, rfl, rfl⟩
  | instant =>
    obtain ⟨first, rfl⟩ := ValueType.instant_of_holds fits present
    obtain ⟨second, rfl⟩ := ValueType.instant_of_holds belongs constantPresent
    cases constant
    refine ⟨first.order second, rfl, ?_⟩
    simp only [order?, Scalar.valueBeside?, Instant.ofStored?_text, Option.map_some, Option.bind_some,
      Value.compare?]

theorem admits_some (sign : Relation) (order : Ordering) : sign.admits (some order) = relates sign order := by
  cases sign <;> cases order <;> rfl

/-- A comparison of values that are not null has the result that it has in memory. -/
theorem compare_of_ofValue? {type : ValueType} {stored value : Value} {scalar : Scalar} (sign : Relation)
    (fits : type.holds stored) (present : stored ≠ .null) (belongs : type.holds value)
    (constant : Scalar.ofValue? value = some scalar) :
    compare stored sign scalar = .known (sign.admits (stored.compare? value)) := by
  obtain ⟨order, inMemory, inSql⟩ := order?_of_ofValue? fits present belongs constant
  rw [inMemory, admits_some]
  unfold compare
  rw [inSql]
  split
  · exact absurd rfl present
  · cases ‹some order = none›
  · rename_i same
    cases same
    rfl

theorem compare_null (sign : Relation) (scalar : Scalar) : compare .null sign scalar = .unknown := rfl

theorem isLike_null (pattern : String) : isLike .null pattern = .unknown := rfl

/-- Nothing is known of a null among some items. -/
theorem isAmongBy_null {compares : Value → Relation → Scalar → Truth} {values : List Scalar}
    (unknown : ∀ scalar, compares .null .equal scalar = .unknown) (nonempty : values ≠ []) :
    isAmongBy compares .null values = .unknown := by
  induction values with
  | nil => exact absurd rfl nonempty
  | cons first rest ih =>
    change (compares .null .equal first).or (isAmongBy compares .null rest) = .unknown
    rw [unknown]
    cases rest with
    | nil => rfl
    | cons second others => rw [ih (List.cons_ne_nil _ _)]; rfl

theorem ofValue?_eq_none_iff {value : Value} : Scalar.ofValue? value = none ↔ value = .null := by
  cases value <;> simp [Scalar.ofValue?]

private theorem compare?_null {stored : Value} (present : stored ≠ .null) : stored.compare? .null = none := by
  cases stored <;> first | rfl | exact absurd rfl present

/-- Nothing but null equals null. -/
private theorem compare?_null_beq (stored : Value) :
    (stored.compare? .null == some .eq) = decide (stored = .null) := by
  cases stored <;> rfl

/-- The comparison tells of each constant whether the stored value equals it in memory. -/
def DecidesEquality (compares : Value → Relation → Scalar → Truth) (stored : Value) (values : List Value) :
    Prop :=
  ∀ value ∈ values, ∀ scalar, Scalar.ofValue? value = some scalar →
    compares stored .equal scalar = .known (stored.compare? value == some .eq)

/-- A value that is not null is among the items of a list in SQL if it is in memory; nulls add nothing. -/
theorem isAmongBy_filterMap {compares : Value → Relation → Scalar → Truth} {stored : Value}
    (present : stored ≠ .null) {values : List Value} (decides : DecidesEquality compares stored values) :
    isAmongBy compares stored (values.filterMap Scalar.ofValue?) =
      .known ((Test.membership values).holds stored) := by
  induction values with
  | nil => rfl
  | cons value rest ih =>
    have remaining := ih fun other member => decides other (List.mem_cons_of_mem _ member)
    change _ = Truth.known ((stored.compare? value == some .eq) || (Test.membership rest).holds stored)
    cases constant : Scalar.ofValue? value with
    | none =>
      rw [List.filterMap_cons_none constant, remaining, ofValue?_eq_none_iff.mp constant,
        compare?_null present]
      rfl
    | some scalar =>
      have equality := decides value List.mem_cons_self scalar constant
      rw [List.filterMap_cons_some constant]
      change Truth.or (compares stored .equal scalar)
        (isAmongBy compares stored (rest.filterMap Scalar.ofValue?)) = _
      rw [equality, remaining, Truth.or_known_known]

/-- A null is among the items of a list in memory if one of them is null. -/
theorem holds_membership_null (values : List Value) :
    (Test.membership values).holds .null =
      decide ((values.filterMap Scalar.ofValue?).length < values.length) := by
  induction values with
  | nil => rfl
  | cons value rest ih =>
    have shorter := List.length_filterMap_le Scalar.ofValue? rest
    change (Value.null.compare? value == some .eq || (Test.membership rest).holds .null) = _
    cases constant : Scalar.ofValue? value with
    | none =>
      rw [ofValue?_eq_none_iff.mp constant, List.filterMap_cons_none rfl, List.length_cons,
        decide_eq_true (by omega)]
      rfl
    | some scalar =>
      have different : Value.null.compare? value = none := by
        cases value <;> first | rfl | cases constant
      rw [different, ih, List.filterMap_cons_some constant]
      simp only [List.length_cons, Nat.add_lt_add_iff_right]
      rfl

section Guards

variable {compares : Value → Relation → Scalar → Truth} {columns : String → Value} {column : String}
  {matchesNull negated : Bool} {expression : Expression}

/-- For a null column the guard decides. -/
theorem evaluateBy_guarded_null (null : columns column = .null)
    (unknown : expression.evaluateBy compares columns = .unknown) :
    (Expression.guarded column matchesNull negated expression).evaluateBy compares columns =
      .known (!negated) ↔ matchesNull = !negated := by
  cases matchesNull <;> cases negated <;>
    simp [Expression.guarded, Expression.evaluateBy, null, unknown, Truth.or, Truth.and]

/-- For a column with a value the guard changes nothing. -/
theorem evaluateBy_guarded_present (present : columns column ≠ .null) :
    (Expression.guarded column matchesNull negated expression).evaluateBy compares columns =
      expression.evaluateBy compares columns := by
  cases matchesNull <;> cases negated <;> simp [Expression.guarded, Expression.evaluateBy, present]

/-- The expression of a list with items is decided in favour of the row exactly if the list holds the value
in memory, seen through the negations around it. -/
theorem evaluateBy_ofMembership {values : List Value} (nonempty : values ≠ [])
    (unknown : ∀ scalar, compares .null .equal scalar = .unknown)
    (decides : columns column ≠ .null → DecidesEquality compares (columns column) values) (negated : Bool) :
    (ofTest column negated (.membership values)).evaluateBy compares columns = .known (!negated) ↔
      (Test.membership values).holds (columns column) = !negated := by
  simp only [ofTest]
  split
  · rename_i nulls
    rw [Expression.evaluateBy, Truth.known.injEq]
    by_cases null : columns column = .null
    · have some : 0 < values.length := List.length_pos_iff.mpr nonempty
      rw [null, holds_membership_null, nulls, List.length_nil, decide_eq_true some, decide_eq_true rfl]
    · have absent := isAmongBy_filterMap null (decides null)
      rw [nulls] at absent
      rw [decide_eq_false null, ← Truth.known.inj absent]
  · rename_i constants
    by_cases null : columns column = .null
    · have silent : (Expression.membership column (values.filterMap Scalar.ofValue?)).evaluateBy compares
          columns = .unknown := by rw [Expression.evaluateBy, null, isAmongBy_null unknown constants]
      rw [evaluateBy_guarded_null null silent, null, holds_membership_null]
    · rw [evaluateBy_guarded_present null, Expression.evaluateBy, isAmongBy_filterMap null (decides null),
        Truth.known.injEq]

end Guards

section Tests

variable {columns : String → Value} {column : String} {type : ValueType}

private theorem evaluate_ofRelation {sign : Relation} {value : Value}
    (suits : (Test.relation sign value).Suits type)
    (fits : type.holds (columns column)) (negated : Bool) :
    (ofTest column negated (.relation sign value)).evaluate columns = .known (!negated) ↔
      (Test.relation sign value).holds (columns column) = !negated := by
  rw [← Expression.evaluateBy_compare]
  simp only [ofTest]
  cases constant : Scalar.ofValue? value with
  | none =>
    rw [ofValue?_eq_none_iff] at constant
    have equality := suits.2 constant
    subst constant
    cases sign with
    | equal =>
      rw [if_neg (by decide), Expression.evaluateBy, Truth.known.injEq]
      change _ ↔ ((columns column).compare? .null == some .eq) = !negated
      rw [compare?_null_beq]
    | notEqual =>
      rw [if_pos rfl, Expression.evaluateBy, Truth.known.injEq]
      change _ ↔ (!((columns column).compare? .null == some .eq)) = !negated
      rw [compare?_null_beq, ← decide_not]
    | greater | greaterOrEqual | less | lessOrEqual => cases equality
  | some scalar =>
    by_cases null : columns column = .null
    · have different : Value.null.compare? value = none := by
        cases value <;> first | rfl | cases constant
      have unknown : (Expression.relation column sign scalar).evaluateBy compare columns = .unknown := by
        rw [Expression.evaluateBy, null, compare_null]
      rw [evaluateBy_guarded_null null unknown, Test.holds, null, different]
      cases sign <;> rfl
    · have decided := compare_of_ofValue? sign fits null suits.1 constant
      rw [evaluateBy_guarded_present null, Expression.evaluateBy, decided, Truth.known.injEq, Test.holds]

private theorem evaluate_ofText {word : TextMatch} {needle : String}
    (fits : ValueType.text.holds (columns column)) (negated : Bool) :
    (ofTest column negated (.text word needle)).evaluate columns = .known (!negated) ↔
      (Test.text word needle).holds (columns column) = !negated := by
  rw [← Expression.evaluateBy_compare]
  by_cases null : columns column = .null
  · have unknown : (Expression.like column (pattern word needle)).evaluateBy compare columns = .unknown := by
      rw [Expression.evaluateBy, null, isLike_null]
    rw [ofTest, evaluateBy_guarded_null null unknown, null]
    rfl
  · obtain ⟨content, read⟩ : ∃ content, (columns column).text? = some content := by
      cases stored : columns column <;> rw [stored] at fits null <;> cases fits <;>
        first | exact ⟨_, rfl⟩ | exact absurd rfl null
    rw [ofTest, evaluateBy_guarded_present null, Expression.evaluateBy, isLike, read, Truth.known.injEq,
      matchesPattern_pattern, Test.holds, read, Option.any_some]

private theorem evaluate_ofMembership {values : List Value} (suits : (Test.membership values).Suits type)
    (fits : type.holds (columns column)) (negated : Bool) :
    (ofTest column negated (.membership values)).evaluate columns = .known (!negated) ↔
      (Test.membership values).holds (columns column) = !negated := by
  rw [← Expression.evaluateBy_compare]
  exact evaluateBy_ofMembership suits.1 (compare_null .equal)
    (fun null value member scalar constant =>
      compare_of_ofValue? .equal fits null (suits.2 value member) constant) negated

/-- The expression of a test is decided in favour of the row exactly if the test holds in memory, seen
through the negations around it. -/
theorem evaluate_ofTest {question : Test} (suits : question.Suits type) (fits : type.holds (columns column))
    (negated : Bool) :
    (ofTest column negated question).evaluate columns = .known (!negated) ↔
      question.holds (columns column) = !negated := by
  cases question with
  | relation sign value => exact evaluate_ofRelation suits fits negated
  | text word needle =>
    obtain rfl : type = .text := suits
    exact evaluate_ofText fits negated
  | membership values => exact evaluate_ofMembership suits fits negated

end Tests

/-- The column of the field holds what is read from the row, which is a value of the field's type. -/
def Stores {ρ : Type} (columns : String → Value) (row : ρ) (field : Field ρ) : Prop :=
  columns field.column = field.read row ∧ field.type.holds (field.read row)

instance {ρ : Type} (columns : String → Value) (row : ρ) (field : Field ρ) :
    Decidable (Stores columns row field) :=
  inferInstanceAs (Decidable (_ ∧ _))

/-- The same is true of every condition, with the parity of the negations around its parts. -/
theorem evaluate_ofCondition {ρ : Type} {columns : String → Value} {row : ρ} {condition : Condition ρ}
    (suits : ∀ bound ∈ condition.tests, bound.2.Suits bound.1.type)
    (stored : ∀ bound ∈ condition.tests, Stores columns row bound.1) (negated : Bool) :
    (ofCondition negated condition).evaluate columns = .known (!negated) ↔ condition.holds row = !negated := by
  induction condition generalizing negated with
  | test field question =>
    obtain ⟨same, fits⟩ := stored (field, question) (List.mem_singleton_self _)
    rw [← same] at fits
    rw [ofCondition, evaluate_ofTest (suits (field, question) (List.mem_singleton_self _)) fits, same,
      Condition.holds]
  | conjunction left right ihLeft ihRight =>
    have before := ihLeft (fun bound member => suits bound (List.mem_append_left _ member))
      (fun bound member => stored bound (List.mem_append_left _ member)) negated
    have behind := ihRight (fun bound member => suits bound (List.mem_append_right _ member))
      (fun bound member => stored bound (List.mem_append_right _ member)) negated
    cases negated with
    | false =>
      rw [ofCondition, Expression.evaluate, Condition.holds, Bool.not_false, Truth.and_eq_true_iff,
        Bool.and_eq_true_iff]
      exact and_congr before behind
    | true =>
      rw [ofCondition, Expression.evaluate, Condition.holds, Bool.not_true, Truth.and_eq_false_iff,
        Bool.and_eq_false_iff]
      exact or_congr before behind
  | disjunction left right ihLeft ihRight =>
    have before := ihLeft (fun bound member => suits bound (List.mem_append_left _ member))
      (fun bound member => stored bound (List.mem_append_left _ member)) negated
    have behind := ihRight (fun bound member => suits bound (List.mem_append_right _ member))
      (fun bound member => stored bound (List.mem_append_right _ member)) negated
    cases negated with
    | false =>
      rw [ofCondition, Expression.evaluate, Condition.holds, Bool.not_false, Truth.or_eq_true_iff,
        Bool.or_eq_true_iff]
      exact or_congr before behind
    | true =>
      rw [ofCondition, Expression.evaluate, Condition.holds, Bool.not_true, Truth.or_eq_false_iff,
        Bool.or_eq_false_iff]
      exact and_congr before behind
  | negation inner ih =>
    rw [ofCondition, Expression.evaluate, Condition.holds, Truth.not_eq_known_iff, ih suits stored (!negated),
      Bool.not_not, Bool.not_inj_iff]

end Sql

/-- The condition of an accepted filter text is true in SQL exactly for the rows that meet it in memory. -/
theorem Catalog.evaluate_ofCondition_eq_true_iff {ρ : Type} {catalog : Catalog ρ} {text : String}
    {condition : Condition ρ} (accepted : catalog.readCondition text = .ok condition)
    {columns : String → Value} {row : ρ}
    (stored : ∀ bound ∈ condition.tests, Sql.Stores columns row bound.1) :
    (Sql.ofCondition false condition).evaluate columns = .known true ↔ condition.holds row = true :=
  Sql.evaluate_ofCondition (fun _ member => suits_of_readCondition accepted member) stored false

/-- Null columns meet a text match, a list with null and an inequality, under one and two negations. -/
theorem Catalog.evaluate_ofCondition_of_nulls :
    let read : String → ValueType → Field (String → Value) := fun name type => .ofName name type (· name)
    let catalog : Catalog (String → Value) :=
      ⟨.ofList [read "email" .text, read "age" .number, read "born" .instant], .empty, .standard⟩
    let row := fun column => if column = "age" then .number (.ofInt 45) else .null
    ∃ condition,
      catalog.readCondition
        "not (email contains 'x%' or not (email in ('a', null) and born != '2024-01-09')) and age >= 45" =
        .ok condition ∧
      (∀ bound ∈ condition.tests, Sql.Stores row row bound.1) ∧
      ((Sql.ofCondition false condition).evaluate row = .known true ↔ condition.holds row = true) := by
  intro read catalog row
  -- Kept apart, so that the text is not evaluated again with each goal.
  generalize written :
    "not (email contains 'x%' or not (email in ('a', null) and born != '2024-01-09')) and age >= 45" = text
  have checked : (catalog.readCondition text).toOption.any (fun condition =>
      decide (∀ bound ∈ condition.tests, Sql.Stores row row bound.1)) = true := by
    rw [← written]
    decide +kernel
  cases accepted : catalog.readCondition text with
  | error refused =>
    rw [accepted] at checked
    cases checked
  | ok condition =>
    rw [accepted] at checked
    have stored := of_decide_eq_true checked
    exact ⟨condition, rfl, stored, Catalog.evaluate_ofCondition_eq_true_iff accepted stored⟩

end RecordQuery
