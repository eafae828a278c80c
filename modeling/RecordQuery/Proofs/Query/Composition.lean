import RecordQuery.Proofs.Query.Suitability

/-! # A filter is resolved comparison by comparison

Whether a filter has a condition, and which error it has otherwise, depends only on what each of its
comparisons has on its own: the first one from the left that is refused decides. The condition joins what the
comparisons answer as the filter joins them. The reasons for which one comparison is refused have an order of
their own.
-/

namespace RecordQuery

/-- The value of the tree over truth values of its comparisons. -/
def Filter.value (truth : Comparison → Bool) : Filter → Bool
  | comparison leaf => truth leaf
  | conjunction left right => left.value truth && right.value truth
  | disjunction left right => left.value truth || right.value truth
  | negation inner => !inner.value truth

/-- The operator may be asked of fields of the type. -/
def Operator.AppliesTo (type : ValueType) : Operator → Prop
  | relation sign => sign.isOrdering = true → type.isOrdered = true
  | text _ => type = .text
  | membership => True

theorem Operator.relation_appliesTo_iff {type : ValueType} {sign : Relation} :
    (relation sign).AppliesTo type ↔ ¬ (sign.isOrdering = true ∧ ¬ type.isOrdered = true) := by
  rw [AppliesTo, not_and, not_not]

theorem Operator.relation_ne_membership {sign : Relation} : relation sign ≠ membership := nofun

theorem Operator.text_ne_membership {word : TextMatch} : text word ≠ membership := nofun

namespace Test

/-- Why an operator with its operand is refused for a type. An operand is looked at only if the operator
applies to the type. -/
inductive Refuses (type : ValueType) : Operator → Operand → Mismatch → Prop where
  | textMatch {word : TextMatch} {operand : Operand} (other : type ≠ .text) :
      Refuses type (.text word) operand ⟨.textField word, .fieldOf type⟩
  | ordering {sign : Relation} {operand : Operand} (orders : sign.isOrdering = true)
      (unordered : type.isOrdered = false) :
      Refuses type (.relation sign) operand ⟨.orderedField sign, .fieldOf type⟩
  | noList {literal : Literal} : Refuses type .membership (.single literal) ⟨.list, .literal literal⟩
  | list {operator : Operator} {literals : List Literal} (applies : operator.AppliesTo type)
      (single : operator ≠ .membership) : Refuses type operator (.list literals) ⟨.valueOf type, .list⟩
  | literal {operator : Operator} {literal : Literal} (applies : operator.AppliesTo type)
      (single : operator ≠ .membership) (foreign : type.coerce? literal = none) :
      Refuses type operator (.single literal) ⟨.valueOf type, .literal literal⟩
  | null {operator : Operator} (applies : operator.AppliesTo type)
      (beyond : operator ∉ [.relation .equal, .relation .notEqual, .membership]) :
      Refuses type operator (.single .null) ⟨.valueOf type, .literal .null⟩
  | item {front back : List Literal} {literal : Literal}
      (belong : ∀ earlier ∈ front, type.coerce? earlier ≠ none) (foreign : type.coerce? literal = none) :
      Refuses type .membership (.list (front ++ literal :: back)) ⟨.valueOf type, .literal literal⟩

variable {type : ValueType} {operator : Operator} {operand : Operand} {literal : Literal} {problem : Mismatch}

theorem coerce_eq_error_iff : coerce type literal = .error problem ↔
    type.coerce? literal = none ∧ problem = ⟨.valueOf type, .literal literal⟩ := by
  unfold coerce
  cases type.coerce? literal with
  | none => simp [eq_comm]
  | some found => simp

theorem coerce?_eq_null_iff : type.coerce? literal = some .null ↔ literal = .null := by
  cases type <;> cases literal <;> simp [ValueType.coerce?]

/-- The first foreign literal of a list decides. -/
theorem firstError_coerce_iff {literals : List Literal} : Outcome.FirstError (coerce type) literals problem ↔
    ∃ front literal back, literals = front ++ literal :: back ∧
      (∀ earlier ∈ front, type.coerce? earlier ≠ none) ∧ type.coerce? literal = none ∧
        problem = ⟨.valueOf type, .literal literal⟩ := by
  have belongs (earlier : Literal) :
      (∃ value, coerce type earlier = .ok value) ↔ type.coerce? earlier ≠ none := by
    simp only [coerce_eq_ok_iff, Option.ne_none_iff_exists']
  simp only [Outcome.FirstError, belongs, coerce_eq_error_iff]

/-- A relation is refused for an order that the type does not have, for a list, for a literal that does not
belong to the type, or for an order with null. -/
theorem ofRelation_eq_error_iff {sign : Relation} : ofOperator type (.relation sign) operand = .error problem ↔
    Refuses type (.relation sign) operand problem := by
  constructor
  · intro refused
    simp only [ofOperator] at refused
    split at refused
    · rename_i ordering
      cases refused
      exact .ordering ordering.1 (Bool.not_eq_true _ ▸ ordering.2)
    · rename_i applies
      have applies := Operator.relation_appliesTo_iff.mpr applies
      cases operand with
      | list literals =>
        cases refused
        exact .list applies Operator.relation_ne_membership
      | single literal =>
        rcases Outcome.bind_eq_error_iff.mp refused with failed | ⟨value, coerced, chosen⟩
        · obtain ⟨foreign, rfl⟩ := coerce_eq_error_iff.mp failed
          exact .literal applies Operator.relation_ne_membership foreign
        · split at chosen
          · rename_i absent
            cases chosen
            rw [absent.1, coerce_eq_ok_iff, coerce?_eq_null_iff] at coerced
            subst coerced
            refine .null applies ?_
            cases sign <;> first | decide | cases absent.2
          · cases chosen
  · intro refuses
    cases refuses with
    | ordering orders unordered => simp [ofOperator, orders, unordered]
    | list applies =>
      simp only [ofOperator, if_neg (Operator.relation_appliesTo_iff.mp applies), ofRelation]
    | literal applies _ foreign =>
      simp only [ofOperator, if_neg (Operator.relation_appliesTo_iff.mp applies), ofRelation]
      exact Outcome.bind_eq_error_iff.mpr (.inl (coerce_eq_error_iff.mpr ⟨foreign, rfl⟩))
    | null applies beyond =>
      have orders : sign.isOrdering = true := by cases sign <;> first | rfl | simp at beyond
      simp only [ofOperator, if_neg (Operator.relation_appliesTo_iff.mp applies), ofRelation]
      refine Outcome.bind_eq_error_iff.mpr (.inr ⟨.null, coerce_eq_ok_iff.mpr (coerce?_eq_null_iff.mpr rfl), ?_⟩)
      rw [if_pos ⟨rfl, orders⟩]

/-- A text match is refused for a type other than that of texts, and for an operand that is not one text. -/
theorem ofTextMatch_eq_error_iff {word : TextMatch} : ofOperator type (.text word) operand = .error problem ↔
    Refuses type (.text word) operand problem := by
  constructor
  · intro refused
    simp only [ofOperator] at refused
    split at refused
    · rename_i isText
      subst isText
      unfold ofTextMatch at refused
      split at refused
      · cases refused
        exact .list rfl Operator.text_ne_membership
      · cases refused
      · rename_i literal noText
        cases refused
        cases literal with
        | text content => exact absurd rfl (noText content)
        | null => exact .null rfl (by simp)
        | number | boolean => exact .literal rfl Operator.text_ne_membership rfl
    · rename_i other
      cases refused
      exact .textMatch other
  · intro refuses
    cases refuses with
    | textMatch other => simp [ofOperator, other]
    | list applies =>
      obtain rfl : type = .text := applies
      rfl
    | @literal _ literal applies _ foreign =>
      obtain rfl : type = .text := applies
      cases literal with
      | text | null => cases foreign
      | number | boolean => rfl
    | null applies =>
      obtain rfl : type = .text := applies
      rfl

/-- A membership is refused for an operand that is no list, and for the first literal of a list that does not
belong to the type. -/
theorem ofMembership_eq_error_iff : ofOperator type .membership operand = .error problem ↔
    Refuses type .membership operand problem := by
  cases operand with
  | single literal =>
    constructor
    · intro refused
      cases refused
      exact .noList
    · intro refuses
      cases refuses with
      | noList => rfl
      | literal _ single => exact absurd rfl single
      | null _ beyond => simp at beyond
  | list literals =>
    change (literals.mapM (coerce type)).map membership = _ ↔ _
    rw [Outcome.map_eq_error_iff, Outcome.mapM_eq_error_iff, firstError_coerce_iff]
    constructor
    · rintro ⟨front, literal, back, rfl, belong, foreign, rfl⟩
      exact .item belong foreign
    · intro refuses
      cases refuses with
      | list _ single => exact absurd rfl single
      | item belong foreign => exact ⟨_, _, _, rfl, belong, foreign, rfl⟩

theorem ofOperator_eq_error_iff :
    ofOperator type operator operand = .error problem ↔ Refuses type operator operand problem := by
  cases operator with
  | relation => exact ofRelation_eq_error_iff
  | text => exact ofTextMatch_eq_error_iff
  | membership => exact ofMembership_eq_error_iff

end Test

namespace FieldRegistry

variable {ρ : Type} {registry : FieldRegistry ρ} {leaf : Comparison} {error : QueryError}

/-- Why a comparison is refused: its field is not registered, may not be filtered, or refuses what is asked
of it. Each reason applies only if those in front of it do not. -/
inductive Refuses (registry : FieldRegistry ρ) (leaf : Comparison) : QueryError → Prop where
  | unknown (absent : registry.get? leaf.field = none) :
      Refuses registry leaf (.unknownField leaf.field registry.keys)
  | capability {field : Field ρ} (found : registry.get? leaf.field = some field)
      (denied : field.capabilities.contains .filterable = false) :
      Refuses registry leaf (.missingCapability leaf.field .filterable)
  | mismatch {field : Field ρ} {problem : Mismatch} (found : registry.get? leaf.field = some field)
      (allowed : field.capabilities.contains .filterable = true)
      (refuses : Test.Refuses field.type leaf.operator leaf.operand problem) :
      Refuses registry leaf (.mismatch leaf.field problem)

/-- A comparison is refused for the first of its reasons. -/
theorem condition_eq_error_iff : registry.condition leaf = .error error ↔ registry.Refuses leaf error := by
  constructor
  · intro refused
    rcases Outcome.bind_eq_error_iff.mp refused with unresolved | ⟨field, resolved, tested⟩
    · rcases resolve_eq_error_iff.mp unresolved with ⟨absent, rfl⟩ | ⟨field, found, denied, rfl⟩
      · exact .unknown absent
      · exact .capability found denied
    · obtain ⟨found, allowed⟩ := resolve_eq_ok_iff.mp resolved
      split at tested
      · cases tested
      · rename_i problem asked
        cases tested
        exact .mismatch found allowed (Test.ofOperator_eq_error_iff.mp asked)
  · intro refuses
    cases refuses with
    | unknown absent =>
      exact Outcome.bind_eq_error_iff.mpr (.inl (resolve_eq_error_iff.mpr (.inl ⟨absent, rfl⟩)))
    | capability found denied =>
      exact Outcome.bind_eq_error_iff.mpr (.inl (resolve_eq_error_iff.mpr (.inr ⟨_, found, denied, rfl⟩)))
    | mismatch found allowed refuses =>
      refine Outcome.bind_eq_error_iff.mpr (.inr ⟨_, resolve_eq_ok_iff.mpr ⟨found, allowed⟩, ?_⟩)
      rw [Test.ofOperator_eq_error_iff.mpr refuses]

/-- The comparison, as a filter of its own, has a condition that the row meets. -/
def answers (registry : FieldRegistry ρ) (row : ρ) (leaf : Comparison) : Bool :=
  match (Filter.comparison leaf).condition registry with
  | .ok condition => condition.holds row
  | .error _ => false

end FieldRegistry

namespace Filter

variable {ρ : Type} {registry : FieldRegistry ρ} {filter : Filter} {condition : Condition ρ} {error : QueryError}

/-- A filter has a condition exactly if each of its comparisons has one. -/
theorem exists_condition_iff : (∃ condition, filter.condition registry = .ok condition) ↔
    ∀ leaf ∈ filter.comparisons, ∃ condition, registry.condition leaf = .ok condition := by
  induction filter with
  | comparison leaf =>
    rw [comparisons, List.forall_mem_singleton]
    rfl
  | conjunction left right ihLeft ihRight | disjunction left right ihLeft ihRight =>
    rw [comparisons, List.forall_mem_append, ← ihLeft, ← ihRight]
    simp only [Filter.condition, Outcome.bind_eq_ok_iff, Outcome.pure_eq_ok_iff]
    constructor
    · rintro ⟨_, first, before, second, behind, -⟩
      exact ⟨⟨first, before⟩, second, behind⟩
    · rintro ⟨⟨first, before⟩, second, behind⟩
      exact ⟨_, first, before, second, behind, rfl⟩
  | negation inner ih =>
    rw [comparisons, ← ih]
    simp only [Filter.condition, Outcome.bind_eq_ok_iff, Outcome.pure_eq_ok_iff]
    constructor
    · rintro ⟨_, bound, before, -⟩
      exact ⟨bound, before⟩
    · rintro ⟨bound, before⟩
      exact ⟨_, bound, before, rfl⟩

/-- The first comparison that is refused gives the error of a filter. -/
theorem condition_eq_error_iff : filter.condition registry = .error error ↔
    Outcome.FirstError registry.condition filter.comparisons error := by
  induction filter with
  | comparison leaf =>
    rw [comparisons, Outcome.firstError_cons]
    simp [Filter.condition, Outcome.not_firstError_nil]
  | conjunction left right ihLeft ihRight | disjunction left right ihLeft ihRight =>
    rw [comparisons, Outcome.firstError_append, ← ihLeft, ← ihRight, ← exists_condition_iff]
    simp only [Filter.condition, Outcome.bind_eq_error_iff, Outcome.pure_ne_error, and_false, exists_false,
      or_false, exists_and_right]
  | negation inner ih =>
    rw [comparisons, ← ih]
    simp only [Filter.condition, Outcome.bind_eq_error_iff, Outcome.pure_ne_error, and_false, exists_false,
      or_false]

/-- A condition joins what the comparisons of its filter answer. -/
theorem holds_of_condition (accepted : filter.condition registry = .ok condition) (row : ρ) :
    condition.holds row = filter.value (registry.answers row) := by
  induction filter generalizing condition with
  | comparison leaf => rw [value, FieldRegistry.answers, accepted]
  | conjunction left right ihLeft ihRight | disjunction left right ihLeft ihRight =>
    simp only [Filter.condition, Outcome.bind_eq_ok_iff, Outcome.pure_eq_ok_iff] at accepted
    obtain ⟨first, before, second, behind, rfl⟩ := accepted
    rw [Condition.holds, value, ihLeft before, ihRight behind]
  | negation inner ih =>
    simp only [Filter.condition, Outcome.bind_eq_ok_iff, Outcome.pure_eq_ok_iff] at accepted
    obtain ⟨bound, before, rfl⟩ := accepted
    rw [Condition.holds, value, ih before]

/-- A filter of any shape is resolved comparison by comparison. It has a condition exactly if each comparison
has one as a filter of its own; otherwise its error is that of the first one from the left that has none,
which is the first reason for which that comparison is refused; and its condition has the value of the tree
over what the comparisons answer on their own. -/
theorem condition_by_comparisons (registry : FieldRegistry ρ) (filter : Filter) :
    ((∃ condition, filter.condition registry = .ok condition) ↔
      ∀ leaf ∈ filter.comparisons, ∃ condition, (comparison leaf).condition registry = .ok condition) ∧
    (∀ error, filter.condition registry = .error error ↔
      ∃ front leaf back, filter.comparisons = front ++ leaf :: back ∧
        (∀ earlier ∈ front, ∃ condition, (comparison earlier).condition registry = .ok condition) ∧
          (comparison leaf).condition registry = .error error) ∧
    (∀ leaf error, (comparison leaf).condition registry = .error error ↔ registry.Refuses leaf error) ∧
    ∀ condition, filter.condition registry = .ok condition →
      ∀ row, condition.holds row = filter.value (registry.answers row) :=
  ⟨exists_condition_iff, fun _ => condition_eq_error_iff, fun _ _ => FieldRegistry.condition_eq_error_iff,
    fun _ accepted => holds_of_condition accepted⟩

end Filter

end RecordQuery
