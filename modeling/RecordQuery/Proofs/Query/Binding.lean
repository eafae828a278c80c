import RecordQuery.Proofs.Outcome
import RecordQuery.Query.Condition
import RecordQuery.Query.RowOrder

/-! # How names are bound to fields

A condition keeps the shape of its filter and has one test for each comparison, in the same order. Each
test asks a registered field that may be filtered, and its operand has become values of the field's type.
The keys of an order are registered fields that may be sorted by.
-/

namespace RecordQuery

/-- The tests of a condition from left to right. -/
def Condition.tests {ρ : Type} : Condition ρ → List (Field ρ × Test)
  | test field question => [(field, question)]
  | conjunction left right => left.tests ++ right.tests
  | disjunction left right => left.tests ++ right.tests
  | negation inner => inner.tests

/-- The values that a test compares with. -/
def Test.operands : Test → List Value
  | relation _ value => [value]
  | text _ _ => []
  | membership values => values

/-- The test is what the comparison asks of the field of its name. -/
def FieldRegistry.Binds {ρ : Type} (registry : FieldRegistry ρ) (leaf : Comparison)
    (bound : Field ρ × Test) : Prop :=
  registry.resolve leaf.field .filterable = .ok bound.1 ∧
    Test.ofOperator bound.1.type leaf.operator leaf.operand = .ok bound.2

namespace Filter

variable {ρ : Type} {registry : FieldRegistry ρ} {condition : Condition ρ}

private theorem binds_of_condition {leaf : Comparison} (accepted : registry.condition leaf = .ok condition) :
    ∃ bound, condition.tests = [bound] ∧ registry.Binds leaf bound := by
  obtain ⟨field, resolved, tested⟩ := Outcome.bind_eq_ok_iff.mp accepted
  split at tested
  · rename_i question asked
    cases tested
    exact ⟨(field, question), rfl, resolved, asked⟩
  · cases tested

/-- Each comparison of an accepted filter is bound to the test at its place. -/
theorem forall₂_binds_of_condition {filter : Filter} (accepted : filter.condition registry = .ok condition) :
    List.Forall₂ registry.Binds filter.comparisons condition.tests := by
  induction filter generalizing condition with
  | comparison leaf =>
    obtain ⟨bound, same, binds⟩ := binds_of_condition accepted
    rw [same]
    exact .cons binds .nil
  | conjunction left right ihLeft ihRight | disjunction left right ihLeft ihRight =>
    simp only [Filter.condition, Outcome.bind_eq_ok_iff, Outcome.pure_eq_ok_iff] at accepted
    obtain ⟨first, before, second, behind, rfl⟩ := accepted
    exact List.rel_append (ihLeft before) (ihRight behind)
  | negation inner ih =>
    simp only [Filter.condition, Outcome.bind_eq_ok_iff, Outcome.pure_eq_ok_iff] at accepted
    obtain ⟨bound, before, rfl⟩ := accepted
    change List.Forall₂ registry.Binds inner.comparisons bound.tests
    exact ih before

end Filter

/-- A field is found under a name if it is registered and allows the use. -/
theorem FieldRegistry.resolve_eq_ok_iff {ρ : Type} {registry : FieldRegistry ρ} {name : String}
    {required : Capability} {field : Field ρ} :
    registry.resolve name required = .ok field ↔
      registry.get? name = some field ∧ field.capabilities.contains required = true := by
  unfold resolve
  cases registry.get? name with
  | none => simp
  | some found =>
    dsimp only
    split
    · rename_i allowed
      simp only [Except.ok.injEq, Option.some.injEq]
      exact ⟨fun same => ⟨same, same ▸ allowed⟩, And.left⟩
    · rename_i refused
      simp only [reduceCtorEq, Option.some.injEq, false_iff, not_and]
      exact fun same => same ▸ refused

/-- A name is refused if it is not registered or its field does not allow the use. -/
theorem FieldRegistry.resolve_eq_error_iff {ρ : Type} {registry : FieldRegistry ρ} {name : String}
    {required : Capability} {error : QueryError} :
    registry.resolve name required = .error error ↔
      registry.get? name = none ∧ error = .unknownField name registry.keys ∨
        ∃ field, registry.get? name = some field ∧ field.capabilities.contains required = false ∧
          error = .missingCapability name required := by
  unfold resolve
  cases registry.get? name with
  | none => simp only [Except.error.injEq, true_and, reduceCtorEq, false_and, exists_false, or_false, eq_comm]
  | some field =>
    cases allowed : field.capabilities.contains required <;>
      simp [allowed, eq_comm (a := error)]

/-- Every key of an order was found under the name of one of the written keys. -/
theorem RowOrder.resolved_of_addKeys {ρ : Type} {registry : FieldRegistry ρ} {written : List SortKey}
    {keys added : List (Field ρ × Direction)} (accepted : written.foldlM (addKey registry) keys = .ok added)
    {bound : Field ρ × Direction} (member : bound ∈ added) :
    bound ∈ keys ∨ ∃ key ∈ written, registry.resolve key.field .sortable = .ok bound.1 := by
  induction written generalizing keys with
  | nil =>
    cases accepted
    exact .inl member
  | cons key rest ih =>
    rw [List.foldlM_cons, Outcome.bind_eq_ok_iff] at accepted
    obtain ⟨between, stepped, remaining⟩ := accepted
    obtain ⟨field, resolved, chosen⟩ := Outcome.bind_eq_ok_iff.mp stepped
    rcases ih remaining with before | ⟨other, among, found⟩
    · split at chosen
      · cases chosen
        exact .inl before
      · cases chosen
        rcases List.mem_append.mp before with before | last
        · exact .inl before
        · obtain rfl := List.mem_singleton.mp last
          exact .inr ⟨key, List.mem_cons_self, resolved⟩
    · exact .inr ⟨other, List.mem_cons_of_mem _ among, found⟩

end RecordQuery
