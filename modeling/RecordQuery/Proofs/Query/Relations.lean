import RecordQuery.Proofs.Query.Composition

/-! # Relations compare what has an order

A literal that belongs to the type of a field becomes a value that has an order with everything the field may
hold but null. The relations of a field with one literal are therefore accepted or refused together, apart
from those of order on types without one, and their answers for a row belong together as the relations of a
linear order do.
-/

namespace RecordQuery

/-- Some text has the literal among its tokens. -/
def Literal.IsWritten (literal : Literal) : Prop :=
  ∃ text, ∃ kind ∈ Lexer.kinds text, Grammar.WritesValue kind literal

/-- No text writes the undefined number. -/
theorem Literal.IsWritten.defined {literal : Literal} (written : literal.IsWritten) : literal ≠ .number .nan := by
  rintro rfl
  obtain ⟨text, kind, among, writes⟩ := written
  cases writes
  obtain ⟨negative, whole, fraction, -, digits⟩ := Lexer.number_mem_kinds_iff.mp among
  exact Number.ofDigits_ne_nan negative whole fraction digits

namespace Test

variable {type : ValueType} {sign : Relation} {literal : Literal}

/-- A relation that applies to the type asks for the value of its literal, which may be null only where no
order is asked for. -/
theorem ofOperator_relation_single (applies : (Operator.relation sign).AppliesTo type)
    (comparable : literal = .null → sign.isOrdering = false) :
    ofOperator type (.relation sign) (.single literal) = (coerce type literal).map (.relation sign) := by
  rw [ofOperator, if_neg (Operator.relation_appliesTo_iff.mp applies), ofRelation]
  cases coerced : coerce type literal with
  | error problem => rfl
  | ok value =>
    have nullOnly : ¬(value = .null ∧ sign.isOrdering = true) := by
      rintro ⟨rfl, ordering⟩
      rw [coerce_eq_ok_iff, coerce?_eq_null_iff] at coerced
      rw [comparable coerced] at ordering
      cases ordering
    change (if value = .null ∧ sign.isOrdering = true then _ else _) = _
    rw [if_neg nullOnly]
    rfl

end Test

namespace FieldRegistry

variable {ρ : Type} {registry : FieldRegistry ρ} {field : Field ρ}

/-- A comparison asks the field of its name what the operator makes of the operand. -/
theorem condition_of_resolve (leaf : Comparison) (resolved : registry.resolve leaf.field .filterable = .ok field) :
    registry.condition leaf =
      ((Test.ofOperator field.type leaf.operator leaf.operand).map (.test field)).mapError
        (.mismatch leaf.field) := by
  rw [condition, resolved]
  cases asked : Test.ofOperator field.type leaf.operator leaf.operand <;>
    simp [bind, Except.bind, asked, Except.map, Except.mapError]

/-- A comparison whose field cannot be used is refused for that, whatever it asks. -/
theorem condition_of_unresolved (leaf : Comparison) {error : QueryError}
    (unresolved : registry.resolve leaf.field .filterable = .error error) :
    registry.condition leaf = .error error := by
  rw [condition, unresolved]
  rfl

end FieldRegistry

/-- What the relations of a stored value with a literal answer: nothing equals null, and the inequality is
the opposite of the equality. -/
structure Relation.Complementary (answer : Relation → Bool) (stored : Value) : Prop where
  null : stored = .null → answer .equal = false
  notEqual : answer .notEqual = !answer .equal

/-- The answers of all six relations: a value is either less or equal or greater, null is none of these, and
the other relations follow from the three. -/
structure Relation.Trichotomous (answer : Relation → Bool) (stored : Value) : Prop
    extends Complementary answer stored where
  one : stored ≠ .null → ∃! sign, sign ∈ [.less, .equal, .greater] ∧ answer sign = true
  none : stored = .null → ∀ sign ∈ [.less, .equal, .greater], answer sign = false
  lessOrEqual : answer .lessOrEqual = (answer .less || answer .equal)
  greaterOrEqual : answer .greaterOrEqual = (answer .greater || answer .equal)

namespace Test

variable {type : ValueType} {stored value : Value}

/-- Null has no order with a value. -/
theorem null_compare? (present : value ≠ .null) : Value.null.compare? value = none := by
  cases value <;> first | rfl | exact absurd rfl present

theorem complementary_of_holds (present : value ≠ .null) :
    Relation.Complementary (fun sign => (relation sign value).holds stored) stored where
  null := by
    rintro rfl
    change (Value.null.compare? value == some .eq) = false
    rw [null_compare? present]
    rfl
  notEqual := rfl

/-- The answers of a test are those of a linear order, for every value that the type holds. -/
theorem trichotomous_of_holds (belongs : type.holds value) (present : value ≠ .null)
    (fits : type.holds stored) :
    Relation.Trichotomous (fun sign => (relation sign value).holds stored) stored where
  toComplementary := complementary_of_holds present
  one := by
    intro storedPresent
    obtain ⟨order, compared⟩ := ValueType.exists_compare? fits storedPresent belongs present
    have answers (sign : Relation) : (relation sign value).holds stored = sign.admits (some order) :=
      congrArg sign.admits compared
    simp only [answers]
    cases order with
    | lt => exact ⟨.less, by decide, fun sign => by cases sign <;> decide⟩
    | eq => exact ⟨.equal, by decide, fun sign => by cases sign <;> decide⟩
    | gt => exact ⟨.greater, by decide, fun sign => by cases sign <;> decide⟩
  none := by
    rintro rfl sign member
    change sign.admits (Value.null.compare? value) = false
    rw [null_compare? present]
    revert sign
    decide
  lessOrEqual := rfl
  greaterOrEqual := rfl

end Test

namespace FieldRegistry

variable {ρ : Type} {registry : FieldRegistry ρ} {name : String} {field : Field ρ} {literal : Literal}

/-- The condition of a relation between the field of a name and a literal, as a filter of its own. -/
def relating (registry : FieldRegistry ρ) (name : String) (literal : Literal) (sign : Relation) :
    Except QueryError (Condition ρ) :=
  (Filter.comparison ⟨name, .relation sign, .single literal⟩).condition registry

/-- The relations that apply to the type are accepted or refused together for a literal. Accepted ones ask
for a value that has an order with everything but null that a column of the type holds. -/
theorem relating_together (found : registry.get? name = some field) (defined : literal ≠ .number .nan)
    (present : literal ≠ .null) :
    (∃ error, ∀ sign, (Operator.relation sign).AppliesTo field.type →
      registry.relating name literal sign = .error error) ∨
    ∃ value, field.type.holds value ∧ value ≠ .null ∧ ∀ sign, (Operator.relation sign).AppliesTo field.type →
      registry.relating name literal sign = .ok (.test field (.relation sign value)) := by
  have asks (sign : Relation) (resolved : registry.resolve name .filterable = .ok field)
      (applies : (Operator.relation sign).AppliesTo field.type) :
      registry.relating name literal sign =
        (((Test.coerce field.type literal).map (.relation sign)).map (.test field)).mapError (.mismatch name) := by
    rw [← Test.ofOperator_relation_single applies fun null => absurd null present]
    exact condition_of_resolve ⟨name, .relation sign, .single literal⟩ resolved
  cases resolved : registry.resolve name .filterable with
  | error error =>
    exact .inl ⟨error, fun sign _ => condition_of_unresolved ⟨name, .relation sign, .single literal⟩ resolved⟩
  | ok other =>
    obtain rfl : field = other := Option.some.inj (found.symm.trans (resolve_eq_ok_iff.mp resolved).1)
    cases coerced : Test.coerce field.type literal with
    | error problem =>
      refine .inl ⟨.mismatch name problem, fun sign applies => ?_⟩
      rw [asks sign resolved applies, coerced]
      rfl
    | ok value =>
      refine .inr ⟨value, Test.holds_of_coerce defined coerced, ?_, fun sign applies => ?_⟩
      · rintro rfl
        exact present (Test.coerce?_eq_null_iff.mp (Test.coerce_eq_ok_iff.mp coerced))
      · rw [asks sign resolved applies, coerced]
        rfl

/-- A relation of order does not apply to a type without one. -/
theorem relating_unordered (found : registry.get? name = some field) {sign : Relation}
    (ordering : sign.isOrdering = true) (unordered : field.type.isOrdered = false) :
    ∃ error, registry.relating name literal sign = .error error := by
  cases allowed : field.capabilities.contains .filterable with
  | false => exact ⟨_, condition_eq_error_iff.mpr (.capability found allowed)⟩
  | true => exact ⟨_, condition_eq_error_iff.mpr (.mismatch found allowed (.ordering ordering unordered))⟩

/-- No accepted relation compares values without an order. On texts, numbers and instants all six relations
with a written literal are accepted, or all are refused with one error; on truth values and variants this is
so for the equality and its opposite, and relations of order are refused. What accepted relations answer for
a row belongs together, and unless the row holds null the field has an order with the literal. -/
theorem relating_coheres (found : registry.get? name = some field) (written : literal.IsWritten)
    (present : literal ≠ .null) :
    (field.type ∈ [.text, .number, .instant] →
      (∃ error, ∀ sign, registry.relating name literal sign = .error error) ∨
      ∃ value, (∀ sign, registry.relating name literal sign = .ok (.test field (.relation sign value))) ∧
        ∀ row, field.type.holds (field.read row) →
          (field.read row ≠ .null → ∃ order, (field.read row).compare? value = some order) ∧
          Relation.Trichotomous (fun sign => (Condition.test field (.relation sign value)).holds row)
            (field.read row)) ∧
    (field.type ∉ [.text, .number, .instant] →
      (∀ sign, sign.isOrdering = true → ∃ error, registry.relating name literal sign = .error error) ∧
      ((∃ error, ∀ sign ∈ [.equal, .notEqual], registry.relating name literal sign = .error error) ∨
      ∃ value,
        (∀ sign ∈ [.equal, .notEqual],
          registry.relating name literal sign = .ok (.test field (.relation sign value))) ∧
        ∀ row, field.type.holds (field.read row) →
          (field.read row ≠ .null → ∃ order, (field.read row).compare? value = some order) ∧
          Relation.Complementary (fun sign => (Condition.test field (.relation sign value)).holds row)
            (field.read row))) := by
  have together := relating_together found written.defined present
  constructor
  · intro ordered
    have applies (sign : Relation) : (Operator.relation sign).AppliesTo field.type := by
      intro _
      revert ordered
      cases field.type <;> simp [ValueType.isOrdered]
    rcases together with ⟨error, refused⟩ | ⟨value, belongs, valuePresent, accepted⟩
    · exact .inl ⟨error, fun sign => refused sign (applies sign)⟩
    · refine .inr ⟨value, fun sign => accepted sign (applies sign), fun row fits => ⟨fun rowPresent => ?_, ?_⟩⟩
      · exact ValueType.exists_compare? fits rowPresent belongs valuePresent
      · exact Test.trichotomous_of_holds belongs valuePresent fits
  · intro other
    have unordered : field.type.isOrdered = false := by
      revert other
      cases field.type <;> simp [ValueType.isOrdered]
    have applies (sign : Relation) (equality : sign ∈ [.equal, .notEqual]) :
        (Operator.relation sign).AppliesTo field.type := by
      intro ordering
      rcases List.mem_pair.mp equality with rfl | rfl <;> cases ordering
    refine ⟨fun sign ordering => relating_unordered found ordering unordered, ?_⟩
    rcases together with ⟨error, refused⟩ | ⟨value, belongs, valuePresent, accepted⟩
    · exact .inl ⟨error, fun sign equality => refused sign (applies sign equality)⟩
    · refine .inr ⟨value, fun sign equality => accepted sign (applies sign equality),
        fun row fits => ⟨fun rowPresent => ?_, ?_⟩⟩
      · exact ValueType.exists_compare? fits rowPresent belongs valuePresent
      · exact Test.complementary_of_holds valuePresent

/-- A quoted day is compared with moments, of which one is absent. -/
theorem relating_coheres_of_day :
    let field : Field (String → Value) := .ofName "born" .instant (· "born")
    let registry : FieldRegistry (String → Value) := .ofList [field]
    let literal : Literal := .text "2024-03-01"
    registry.get? "born" = some field ∧ literal.IsWritten ∧ literal ≠ .null ∧
      field.type ∈ [.text, .number, .instant] ∧
      ∃ value, (∀ sign, registry.relating "born" literal sign = .ok (.test field (.relation sign value))) ∧
        ∀ row, field.type.holds (field.read row) →
          (field.read row ≠ .null → ∃ order, (field.read row).compare? value = some order) ∧
          Relation.Trichotomous (fun sign => (Condition.test field (.relation sign value)).holds row)
            (field.read row) := by
  intro field registry literal
  have found : registry.get? "born" = some field := (get?_add .empty field "born").trans (if_pos rfl)
  have written : literal.IsWritten := ⟨"'2024-03-01'", .text "2024-03-01", by decide +kernel, .text _⟩
  have ordered : field.type ∈ [.text, .number, .instant] := by decide
  refine ⟨found, written, nofun, ordered, ?_⟩
  rcases (relating_coheres found written nofun).1 ordered with ⟨error, refused⟩ | accepted
  · have accepted : (registry.relating "born" literal .equal).toOption.isSome = true := by decide +kernel
    rw [refused .equal] at accepted
    cases accepted
  · exact accepted

end FieldRegistry

end RecordQuery
