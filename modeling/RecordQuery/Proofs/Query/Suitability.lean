import RecordQuery.Proofs.Filter.Scanning
import RecordQuery.Proofs.Number.Order
import RecordQuery.Proofs.Query.Binding
import RecordQuery.Query.Basic

/-! # Tests suit the types of their fields

The operands of an accepted comparison are values of the type of its field, an order is never asked of null,
a text match asks a field of texts, and a list has items.
-/

namespace RecordQuery

/-- A column of this type may hold the value: null, or a defined value of its kind; a variant is a text. -/
def ValueType.holds : ValueType → Value → Bool
  | _, .null => true
  | text, .text _ | text, .variant _ => true
  | number, .number value => value != .nan
  | boolean, .boolean _ => true
  | instant, .instant _ => true
  | variants _, .text _ | variants _, .variant _ => true
  | _, _ => false

namespace ValueType

variable {value : Value}

theorem number_of_holds (fits : number.holds value) (present : value ≠ .null) :
    ∃ content, value = .number content ∧ content ≠ .nan := by
  cases value with
  | null => exact absurd rfl present
  | number content => exact ⟨content, rfl, bne_iff_ne.mp fits⟩
  | text | boolean | instant | variant => cases fits

theorem boolean_of_holds (fits : boolean.holds value) (present : value ≠ .null) :
    ∃ content, value = .boolean content := by
  cases value with
  | null => exact absurd rfl present
  | boolean content => exact ⟨content, rfl⟩
  | text | number | instant | variant => cases fits

theorem instant_of_holds (fits : instant.holds value) (present : value ≠ .null) :
    ∃ content, value = .instant content := by
  cases value with
  | null => exact absurd rfl present
  | instant content => exact ⟨content, rfl⟩
  | text | number | boolean | variant => cases fits

/-- Values of one type have an order unless one of them is null. -/
theorem exists_compare? {type : ValueType} {first second : Value} (fits : type.holds first)
    (present : first ≠ .null) (other : type.holds second) (otherPresent : second ≠ .null) :
    ∃ order, first.compare? second = some order := by
  cases type with
  | text | variants names =>
    cases first <;> cases second <;> cases fits <;> cases other <;>
      first | exact absurd rfl present | exact absurd rfl otherPresent | exact ⟨_, rfl⟩
  | number =>
    obtain ⟨left, rfl, defined⟩ := number_of_holds fits present
    obtain ⟨right, rfl, otherDefined⟩ := number_of_holds other otherPresent
    exact Number.exists_compare? defined otherDefined
  | boolean =>
    obtain ⟨left, rfl⟩ := boolean_of_holds fits present
    obtain ⟨right, rfl⟩ := boolean_of_holds other otherPresent
    exact ⟨_, rfl⟩
  | instant =>
    obtain ⟨left, rfl⟩ := instant_of_holds fits present
    obtain ⟨right, rfl⟩ := instant_of_holds other otherPresent
    exact ⟨_, rfl⟩

end ValueType

/-- The test asks what values of the type can answer. -/
def Test.Suits (type : ValueType) : Test → Prop
  | relation sign value => type.holds value ∧ (value = .null → sign.isOrdering = false)
  | text _ _ => type = .text
  | membership values => values ≠ [] ∧ ∀ value ∈ values, type.holds value

namespace Test

variable {type : ValueType} {question : Test}

private theorem holds_of_coerce? {literal : Literal} {value : Value} (defined : literal ≠ .number .nan)
    (coerced : type.coerce? literal = some value) : type.holds value := by
  unfold ValueType.coerce? at coerced
  split at coerced
  · cases coerced
    cases type <;> rfl
  · cases coerced
    rfl
  · rename_i number
    cases coerced
    exact bne_iff_ne.mpr fun undefined => defined (congrArg Literal.number undefined)
  · rename_i content
    obtain ⟨number, written, rfl⟩ := Option.map_eq_some_iff.mp coerced
    have finite := (Option.filter_eq_some_iff.mp written).2
    refine bne_iff_ne.mpr fun undefined => ?_
    rw [undefined] at finite
    cases finite
  · cases coerced
    rfl
  · obtain ⟨_, -, rfl⟩ := Option.map_eq_some_iff.mp coerced
    rfl
  · obtain ⟨_, -, rfl⟩ := Option.map_eq_some_iff.mp coerced
    rfl
  · obtain ⟨_, -, rfl⟩ := Option.map_eq_some_iff.mp coerced
    rfl
  · cases coerced

theorem coerce_eq_ok_iff {literal : Literal} {value : Value} :
    coerce type literal = .ok value ↔ type.coerce? literal = some value := by
  unfold coerce
  cases type.coerce? literal with
  | none => simp
  | some found => simp

/-- A defined literal becomes a value of the type. -/
theorem holds_of_coerce {literal : Literal} {value : Value} (defined : literal ≠ .number .nan)
    (coerced : coerce type literal = .ok value) : type.holds value :=
  holds_of_coerce? defined (coerce_eq_ok_iff.mp coerced)

/-- A literal that is accepted for a type becomes a value of the type, or it is the undefined number. -/
theorem holds_or_undefined_of_coerce {literal : Literal} {value : Value}
    (coerced : coerce type literal = .ok value) :
    type.holds value ∨ type = .number ∧ value = .number .nan := by
  by_cases undefined : literal = .number .nan
  · subst undefined
    cases type <;> cases coerced
    exact .inr ⟨rfl, rfl⟩
  · exact .inl (holds_of_coerce undefined coerced)

/-- What is asked of a field suits its type. -/
theorem suits_of_ofOperator {operator : Operator} {operand : Operand} (written : operand.literals ≠ [])
    (defined : .number .nan ∉ operand.literals) (accepted : ofOperator type operator operand = .ok question) :
    question.Suits type := by
  cases operator with
  | relation sign =>
    simp only [ofOperator] at accepted
    split at accepted
    · cases accepted
    · cases operand with
      | list => cases accepted
      | single literal =>
        obtain ⟨value, coerced, chosen⟩ := Outcome.bind_eq_ok_iff.mp accepted
        have belongs := holds_of_coerce (fun same => defined (by simp [Operand.literals, same])) coerced
        split at chosen
        · cases chosen
        · rename_i comparable
          cases chosen
          exact ⟨belongs, fun null => by simpa [null] using comparable⟩
  | text word =>
    simp only [ofOperator] at accepted
    split at accepted
    · rename_i isText
      unfold ofTextMatch at accepted
      split at accepted <;> cases accepted
      exact isText
    · cases accepted
  | membership =>
    cases operand with
    | single => cases accepted
    | list literals =>
      obtain ⟨values, coerced, rfl⟩ := Outcome.map_eq_ok_iff.mp accepted
      have related := Outcome.mapM_eq_ok_iff.mp coerced
      constructor
      · rintro rfl
        exact written (List.forall₂_nil_right_iff.mp related)
      · intro value member
        obtain ⟨literal, among, becomes⟩ := Outcome.exists_left_of_mem related member
        exact holds_of_coerce (fun same => defined (same ▸ among)) becomes

/-- No operand of a suitable test is the undefined number. -/
theorem Suits.defined (suits : question.Suits type) : .number .nan ∉ question.operands := by
  have undefined : type.holds (.number .nan) = false := by cases type <;> rfl
  intro member
  cases question with
  | relation sign value =>
    obtain rfl := List.mem_singleton.mp member
    exact absurd suits.1 (Bool.eq_false_iff.mp undefined)
  | text => cases member
  | membership values => exact absurd (suits.2 _ member) (Bool.eq_false_iff.mp undefined)

end Test

/-- The tests of an accepted filter text suit their fields. -/
theorem Catalog.suits_of_readCondition {ρ : Type} {catalog : Catalog ρ} {text : String}
    {condition : Condition ρ} (accepted : catalog.readCondition text = .ok condition)
    {bound : Field ρ × Test} (member : bound ∈ condition.tests) : bound.2.Suits bound.1.type := by
  obtain ⟨filter, parsed, resolved⟩ := Outcome.bind_eq_ok_iff.mp accepted
  have read := Outcome.mapError_eq_ok_iff.mp parsed
  obtain ⟨leaf, among, -, asked⟩ :=
    Outcome.exists_left_of_mem (Filter.forall₂_binds_of_condition resolved) member
  obtain ⟨nonempty, defined⟩ := Filter.written_of_parse read among
  exact Test.suits_of_ofOperator nonempty defined asked

end RecordQuery
