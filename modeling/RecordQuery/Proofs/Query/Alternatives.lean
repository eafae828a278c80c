import RecordQuery.Proofs.Query.Relations

/-! # A membership is a choice between equalities

To ask whether a field is among some literals is to ask whether it equals the first of them or the second or
any other. Both filters are refused for the first literal that does not belong to the type of the field, and
otherwise they are met by the same rows, also by those that hold null, the undefined number or a value of
another kind than the field declares.
-/

namespace RecordQuery

/-- The field of a name equals a literal. -/
def Comparison.equality (name : String) (literal : Literal) : Comparison :=
  ⟨name, .relation .equal, .single literal⟩

namespace Filter

/-- The field of a name is among some literals. -/
def isAmong (name : String) (literals : List Literal) : Filter := comparison ⟨name, .membership, .list literals⟩

/-- One filter or the equality with one of some literals, joined from the left as an unparenthesized text is. -/
def orEquals (name : String) : Filter → List Literal → Filter
  | joined, [] => joined
  | joined, literal :: rest => orEquals name (disjunction joined (comparison (.equality name literal))) rest

/-- The field of a name equals the first of some literals, or the second, or any other. -/
def equalsAny (name : String) (first : Literal) (rest : List Literal) : Filter :=
  orEquals name (comparison (.equality name first)) rest

variable {name : String}

theorem comparisons_orEquals (joined : Filter) (literals : List Literal) :
    (orEquals name joined literals).comparisons = joined.comparisons ++ literals.map (.equality name) := by
  induction literals generalizing joined with
  | nil => rw [orEquals, List.map_nil, List.append_nil]
  | cons literal rest ih =>
    rw [orEquals, ih, comparisons, comparisons, List.append_assoc, List.singleton_append, List.map_cons]

theorem value_orEquals (truth : Comparison → Bool) (joined : Filter) (literals : List Literal) :
    (orEquals name joined literals).value truth =
      (joined.value truth || literals.any fun literal => truth (.equality name literal)) := by
  induction literals generalizing joined with
  | nil => rw [orEquals, List.any_nil, Bool.or_false]
  | cons literal rest ih => rw [orEquals, ih, value, value, List.any_cons, Bool.or_assoc]

theorem comparisons_equalsAny (first : Literal) (rest : List Literal) :
    (equalsAny name first rest).comparisons = (first :: rest).map (.equality name) :=
  comparisons_orEquals _ rest

theorem value_equalsAny (truth : Comparison → Bool) (first : Literal) (rest : List Literal) :
    (equalsAny name first rest).value truth = (first :: rest).any fun literal => truth (.equality name literal) :=
  value_orEquals truth _ rest

end Filter

namespace FieldRegistry

variable {ρ : Type} {registry : FieldRegistry ρ} {name : String} {field : Field ρ} {literals : List Literal}

/-- An equality has the value of its literal, which may be null. -/
theorem condition_equality (resolved : registry.resolve name .filterable = .ok field) (literal : Literal) :
    registry.condition (.equality name literal) =
      (((Test.coerce field.type literal).map (.relation .equal)).map (.test field)).mapError
        (.mismatch name) := by
  have applies : (Operator.relation .equal).AppliesTo field.type := Operator.relation_appliesTo_iff.mpr nofun
  rw [condition_of_resolve (.equality name literal) resolved, Comparison.equality,
    Test.ofOperator_relation_single applies fun _ => rfl]

/-- A membership has the values of its literals. -/
theorem condition_isAmong (resolved : registry.resolve name .filterable = .ok field) :
    (Filter.isAmong name literals).condition registry =
      (((literals.mapM (Test.coerce field.type)).map .membership).map (.test field)).mapError (.mismatch name) :=
  condition_of_resolve ⟨name, .membership, .list literals⟩ resolved

/-- An equality is met by the rows that hold the value of its literal. -/
theorem answers_equality (resolved : registry.resolve name .filterable = .ok field) {literal : Literal}
    {value : Value} (coerced : Test.coerce field.type literal = .ok value) (row : ρ) :
    registry.answers row (.equality name literal) = ((field.read row).compare? value == some .eq) := by
  have accepted : (Filter.comparison (.equality name literal)).condition registry =
      .ok (.test field (.relation .equal value)) := by
    rw [Filter.condition, condition_equality resolved, coerced]
    rfl
  rw [answers, accepted]
  rfl

/-- The equalities with some literals are met like the list of their values. -/
theorem any_answers_equality (resolved : registry.resolve name .filterable = .ok field) {values : List Value}
    (coerced : List.Forall₂ (fun literal value => Test.coerce field.type literal = .ok value) literals values)
    (row : ρ) :
    (literals.any fun literal => registry.answers row (.equality name literal)) =
      (Test.membership values).holds (field.read row) := by
  induction coerced with
  | nil => rfl
  | cons belongs _ ih =>
    rw [List.any_cons, ih, answers_equality resolved belongs]
    rfl

/-- A membership in a list with items and the equalities with its items, joined by `or`, are refused with the
same error, or they are accepted and met by the same rows. -/
theorem isAmong_alike_equalsAny (registry : FieldRegistry ρ) (name : String) (first : Literal)
    (rest : List Literal) :
    Outcome.Alike id (fun among joined => ∀ row, among.holds row = joined.holds row)
      ((Filter.isAmong name (first :: rest)).condition registry)
      ((Filter.equalsAny name first rest).condition registry) := by
  cases resolved : registry.resolve name .filterable with
  | error problem =>
    have among : (Filter.isAmong name (first :: rest)).condition registry = .error problem :=
      condition_of_unresolved ⟨name, .membership, .list (first :: rest)⟩ resolved
    have joined : (Filter.equalsAny name first rest).condition registry = .error problem := by
      rw [Filter.condition_eq_error_iff, Filter.comparisons_equalsAny, List.map_cons, Outcome.firstError_cons]
      exact .inl (condition_of_unresolved (.equality name first) resolved)
    rw [among, joined]
    exact .error rfl
  | ok field =>
    have among : (Filter.isAmong name (first :: rest)).condition registry = _ := condition_isAmong resolved
    cases coerced : (first :: rest).mapM (Test.coerce field.type) with
    | error problem =>
      have joined : (Filter.equalsAny name first rest).condition registry = .error (.mismatch name problem) := by
        rw [Filter.condition_eq_error_iff, Filter.comparisons_equalsAny]
        refine (Outcome.mapM_eq_error_iff.mp coerced).map ?_ ?_
        · intro literal value belongs
          exact ⟨_, by rw [condition_equality resolved, belongs]; rfl⟩
        · intro literal found foreign
          rw [condition_equality resolved, foreign]
          rfl
      rw [among, coerced, joined]
      exact .error rfl
    | ok values =>
      have belong := Outcome.mapM_eq_ok_iff.mp coerced
      obtain ⟨joined, accepted⟩ : ∃ joined, (Filter.equalsAny name first rest).condition registry = .ok joined := by
        rw [Filter.exists_condition_iff, Filter.comparisons_equalsAny, List.forall_mem_map]
        intro literal member
        obtain ⟨value, -, belongs⟩ := Outcome.exists_left_of_mem belong.flip member
        exact ⟨_, by rw [condition_equality resolved, belongs]; rfl⟩
      rw [among, coerced, accepted]
      refine .ok fun row => ?_
      rw [Filter.holds_of_condition accepted, Filter.value_equalsAny, any_answers_equality resolved belong]
      rfl

end FieldRegistry

end RecordQuery
