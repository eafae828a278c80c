import RecordQuery.Proofs.Sql.Selection

/-! # Lists in SQL and in memory

A filter that was not read from a text may ask for the members of any list: of an empty one, or of one with
the undefined number, to which SQL gives a place above all other numbers. A list with items is met by the same
rows in SQL and in memory, whether it is negated or not. The empty list is met by no row in memory, whereas
its expression is met by the rows in which the column is null, as if the list held null.
-/

namespace RecordQuery

namespace Sql

/-- The order of two values of one kind in SQL, where the undefined number equals itself and is greater than
every other number. -/
def totalOrder? : Value → Value → Option Ordering
  | .number .nan, .number .nan => some .eq
  | .number .nan, .number _ => some .gt
  | .number _, .number .nan => some .lt
  | first, second => first.compare? second

/-- The truth of a comparison in which the undefined number has a place. -/
def compareTotally (stored : Value) (sign : Relation) (scalar : Scalar) : Truth :=
  match stored, (scalar.valueBeside? stored).bind (totalOrder? stored) with
  | .null, _ | _, none => .unknown
  | _, some order => .known (relates sign order)

/-- Values that have an order in memory have the same one in SQL. -/
theorem totalOrder?_of_compare? {first second : Value} {order : Ordering}
    (found : first.compare? second = some order) : totalOrder? first second = some order := by
  unfold totalOrder?
  split
  · cases found
  · cases found
  · rename_i value defined
    rw [Value.compare?, Number.compare?_nan] at found
    cases found
  · exact found

theorem compareTotally_null (sign : Relation) (scalar : Scalar) :
    compareTotally .null sign scalar = .unknown := rfl

private theorem compareTotally_of_totalOrder? {stored : Value} {scalar : Scalar} {order : Ordering}
    (sign : Relation) (present : stored ≠ .null)
    (compared : (scalar.valueBeside? stored).bind (totalOrder? stored) = some order) :
    compareTotally stored sign scalar = .known (relates sign order) := by
  unfold compareTotally
  rw [compared]
  split
  · exact absurd rfl present
  · cases ‹some order = none›
  · rename_i same
    cases same
    rfl

/-- A defined value differs from the undefined number, and otherwise equals what it equals in memory. -/
theorem decidesEquality_compareTotally {type : ValueType} {stored : Value} {values : List Value}
    (fits : type.holds stored) (present : stored ≠ .null)
    (belong : ∀ value ∈ values, type.holds value ∨ type = .number ∧ value = .number .nan) :
    DecidesEquality compareTotally stored values := by
  intro value member scalar constant
  rcases belong value member with belongs | ⟨rfl, rfl⟩
  · obtain ⟨order, inMemory, inSql⟩ := order?_of_ofValue? fits present belongs constant
    obtain ⟨beside, valued, compared⟩ := Option.bind_eq_some_iff.mp inSql
    have placed : (scalar.valueBeside? stored).bind (totalOrder? stored) = some order := by
      rw [valued]
      exact totalOrder?_of_compare? compared
    rw [compareTotally_of_totalOrder? .equal present placed, inMemory]
    cases order <;> rfl
  · obtain ⟨content, rfl, defined⟩ := ValueType.number_of_holds fits present
    cases constant
    have below : ((Scalar.ofNumber .nan).valueBeside? (.number content)).bind
        (totalOrder? (.number content)) = some .lt := by
      cases content with
      | nan => exact absurd rfl defined
      | infinite | finite => rfl
    rw [compareTotally_of_totalOrder? .equal present below, Value.compare?, Number.compare?_nan]
    rfl

/-- The expression of the empty list is true or false, and it is true for null. -/
theorem evaluateBy_ofMembership_nil {compares : Value → Relation → Scalar → Truth} {columns : String → Value}
    {column : String} (negated : Bool) :
    (ofTest column negated (.membership [])).evaluateBy compares columns =
      .known (columns column = .null) := rfl

end Sql

/-- What an accepted list asks of its field. -/
theorem FieldRegistry.membership_of_condition {ρ : Type} {registry : FieldRegistry ρ} {name : String}
    {literals : List Literal} {field : Field ρ} {condition : Condition ρ}
    (found : registry.resolve name .filterable = .ok field)
    (accepted : registry.condition ⟨name, .membership, .list literals⟩ = .ok condition) :
    ∃ values, condition = .test field (.membership values) ∧ (values = [] ↔ literals = []) ∧
      ∀ value ∈ values, field.type.holds value ∨ field.type = .number ∧ value = .number .nan := by
  obtain ⟨other, resolved, tested⟩ := Outcome.bind_eq_ok_iff.mp accepted
  obtain rfl : field = other := Except.ok.inj (found.symm.trans resolved)
  split at tested
  · rename_i question asked
    cases tested
    obtain ⟨values, coerced, rfl⟩ := Outcome.map_eq_ok_iff.mp asked
    have related := Outcome.mapM_eq_ok_iff.mp coerced
    refine ⟨values, rfl, ?_, fun value member => ?_⟩
    · rw [← List.length_eq_zero_iff, ← List.length_eq_zero_iff, related.length_eq]
    · obtain ⟨literal, -, becomes⟩ := Outcome.exists_left_of_mem related member
      exact Test.holds_or_undefined_of_coerce becomes
  · cases tested

/-- An accepted list, with nulls or without, is met by the same rows in SQL and in memory, and so is its
negation, except that the empty list is met by null in SQL and by nothing in memory. -/
theorem FieldRegistry.evaluateBy_membership_iff {ρ : Type} {registry : FieldRegistry ρ} {name : String}
    {literals : List Literal} {field : Field ρ} {condition : Condition ρ}
    (found : registry.resolve name .filterable = .ok field)
    (accepted : registry.condition ⟨name, .membership, .list literals⟩ = .ok condition)
    {columns : String → Value} {row : ρ} (stored : Sql.Stores columns row field) :
    ((Sql.ofCondition false condition).evaluateBy Sql.compareTotally columns = .known true ↔
      condition.holds row = true ∨ literals = [] ∧ field.read row = .null) ∧
    ((Sql.ofCondition false (.negation condition)).evaluateBy Sql.compareTotally columns = .known true ↔
      condition.holds row = false ∧ ¬(literals = [] ∧ field.read row = .null)) ∧
    (literals = [] → condition.holds row = false) := by
  obtain ⟨values, rfl, empty, belong⟩ := membership_of_condition found accepted
  obtain ⟨same, fits⟩ := stored
  simp only [Sql.ofCondition, Sql.Expression.evaluateBy, Sql.Truth.not_eq_known_iff, Condition.holds]
  by_cases nothing : literals = []
  · obtain rfl := empty.mpr nothing
    simp only [Sql.evaluateBy_ofMembership_nil, nothing, same, Test.holds]
    simp
  · have items : values ≠ [] := fun none => nothing (empty.mp none)
    have decides : columns field.column ≠ .null →
        Sql.DecidesEquality Sql.compareTotally (columns field.column) values :=
      fun present => Sql.decidesEquality_compareTotally (same ▸ fits) present belong
    have agrees := Sql.evaluateBy_ofMembership items (Sql.compareTotally_null .equal) decides
    have plain := agrees false
    have turned := agrees true
    rw [same] at plain turned
    simp only [nothing, false_and, or_false, not_false_eq_true, and_true, false_implies]
    exact ⟨plain, turned⟩

/-- A null is met by the empty list in SQL, but not in memory. -/
theorem FieldRegistry.evaluateBy_membership_of_empty :
    let field : Field (String → Value) := .ofName "age" .number (· "age")
    let registry : FieldRegistry (String → Value) := .ofList [field]
    let row : String → Value := fun _ => .null
    ∃ condition, registry.resolve "age" .filterable = .ok field ∧
      registry.condition ⟨"age", .membership, .list []⟩ = .ok condition ∧ Sql.Stores row row field ∧
      (Sql.ofCondition false condition).evaluateBy Sql.compareTotally row = .known true ∧
      (Sql.ofCondition false (.negation condition)).evaluateBy Sql.compareTotally row ≠ .known true ∧
      condition.holds row = false := by
  intro field registry row
  have found : registry.resolve "age" .filterable = .ok field :=
    resolve_eq_ok_iff.mpr ⟨(get?_add .empty field "age").trans (if_pos rfl), rfl⟩
  have accepted : registry.condition ⟨"age", .membership, .list []⟩ = .ok (.test field (.membership [])) := by
    rw [FieldRegistry.condition, found]
    rfl
  have stored : Sql.Stores row row field := ⟨rfl, rfl⟩
  obtain ⟨plain, turned, unmet⟩ := evaluateBy_membership_iff found accepted stored
  refine ⟨_, found, accepted, stored, plain.mpr (.inr ⟨rfl, rfl⟩), ?_, unmet rfl⟩
  intro met
  exact (turned.mp met).2 ⟨rfl, rfl⟩

end RecordQuery
