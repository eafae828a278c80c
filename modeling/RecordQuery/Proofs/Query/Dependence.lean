import RecordQuery.Proofs.Query.Binding
import RecordQuery.Query.Basic

/-! # What a query reads of its rows

A query reads the fields that its condition tests, those that it sorts by and those that it shows. Two lists
of rows that agree in these fields, row by row, have the same result: the same places are selected, they are
sorted alike, and the objects at each place are equal. Nothing is assumed of the order of the values.
-/

namespace RecordQuery

variable {ρ : Type}

/-- Rows that agree in the tested fields meet the same condition. -/
theorem Condition.holds_congr {condition : Condition ρ} {row other : ρ}
    (same : ∀ bound ∈ condition.tests, bound.1.read row = bound.1.read other) :
    condition.holds row = condition.holds other := by
  induction condition with
  | test field question => rw [holds, holds, same (field, question) (List.mem_singleton_self _)]
  | conjunction left right ihLeft ihRight | disjunction left right ihLeft ihRight =>
    rw [holds, holds, ihLeft fun bound member => same bound (List.mem_append_left _ member),
      ihRight fun bound member => same bound (List.mem_append_right _ member)]
  | negation inner ih => rw [holds, holds, ih same]

/-- Pairs of rows that agree in the keys are in the same order. -/
theorem RowOrder.compareBy_congr {first second firstOther secondOther : ρ} {keys : List (Field ρ × Direction)}
    (sameFirst : ∀ key ∈ keys, key.1.read first = key.1.read firstOther)
    (sameSecond : ∀ key ∈ keys, key.1.read second = key.1.read secondOther) :
    compareBy first second keys = compareBy firstOther secondOther keys := by
  induction keys with
  | nil => rfl
  | cons key rest ih =>
    obtain ⟨field, direction⟩ := key
    rw [compareBy, compareBy, sameFirst _ List.mem_cons_self, sameSecond _ List.mem_cons_self,
      ih (fun key member => sameFirst key (List.mem_cons_of_mem _ member))
        fun key member => sameSecond key (List.mem_cons_of_mem _ member)]

/-- Rows that agree in the shown fields have the same object. -/
theorem Projection.shape_congr {projection : Projection ρ} {row other : ρ}
    (same : ∀ column ∈ projection.columns, column.field.read row = column.field.read other) :
    projection.shape row = projection.shape other := by
  unfold shape
  congr 1
  exact List.map_congr_left fun column member => by rw [same column member]

namespace Query

/-- The tests of the condition, if there is one. -/
def tests (query : Query ρ) : List (Field ρ × Test) := query.condition?.elim [] Condition.tests

/-- The fields that the query reads. -/
def fields (query : Query ρ) : List (Field ρ) :=
  query.tests.map Prod.fst ++ query.order.keys.map Prod.fst ++ query.projection.columns.map Column.field

/-- The values that the condition compares with. -/
def operands (query : Query ρ) : List Value := query.tests.flatMap fun bound => bound.2.operands

/-- The condition compares with an infinite number. -/
def ComparesInfinite (query : Query ρ) : Prop := ∃ negative, .number (.infinite negative) ∈ query.operands

/-- The rows agree in all that the query reads of them. -/
def Agree (query : Query ρ) (row other : ρ) : Prop :=
  ∀ field ∈ query.fields, field.read row = field.read other

variable {query : Query ρ} {row other first second firstOther secondOther : ρ}

theorem mem_tests_iff {bound : Field ρ × Test} :
    bound ∈ query.tests ↔ ∃ condition, query.condition? = some condition ∧ bound ∈ condition.tests := by
  unfold tests
  cases query.condition? <;> simp

theorem mem_fields_iff {field : Field ρ} :
    field ∈ query.fields ↔ (∃ bound ∈ query.tests, bound.1 = field) ∨
      (∃ key ∈ query.order.keys, key.1 = field) ∨ ∃ column ∈ query.projection.columns, column.field = field := by
  simp only [fields, List.mem_append, List.mem_map, or_assoc]

theorem mem_operands_iff {value : Value} :
    value ∈ query.operands ↔ ∃ bound ∈ query.tests, value ∈ bound.2.operands := List.mem_flatMap

theorem Agree.selects_eq (agree : query.Agree row other) : query.selects row = query.selects other := by
  unfold selects
  cases found : query.condition? with
  | none => rfl
  | some condition =>
    refine Condition.holds_congr fun bound member => agree _ ?_
    exact mem_fields_iff.mpr (.inl ⟨bound, mem_tests_iff.mpr ⟨condition, found, member⟩, rfl⟩)

theorem Agree.compare_eq (agree : query.Agree first firstOther) (agreeOther : query.Agree second secondOther) :
    query.order.compare first second = query.order.compare firstOther secondOther := by
  have read : ∀ key ∈ query.order.keys, key.1 ∈ query.fields :=
    fun key member => mem_fields_iff.mpr (.inr (.inl ⟨key, member, rfl⟩))
  exact RowOrder.compareBy_congr (fun key member => agree _ (read key member))
    fun key member => agreeOther _ (read key member)

theorem Agree.shape_eq (agree : query.Agree row other) :
    query.projection.shape row = query.projection.shape other := by
  refine Projection.shape_congr fun column member => agree _ ?_
  exact mem_fields_iff.mpr (.inr (.inr ⟨column, member, rfl⟩))

/-- One side of paired rows is selected and sorted as the pairs are by their first sides. -/
private theorem apply_map {pairs : List (ρ × ρ)} (side : ρ × ρ → ρ)
    (agree : ∀ pair ∈ pairs, query.Agree pair.1 (side pair)) :
    query.apply (pairs.map side) =
      ((pairs.filter fun pair => query.selects pair.1).mergeSort fun pair other =>
        query.order.compare pair.1 other.1 != .gt).map side := by
  have chosen : (pairs.map side).filter query.selects =
      (pairs.filter fun pair => query.selects pair.1).map side := by
    rw [List.filter_map]
    congr 1
    exact List.filter_congr fun pair member => (agree pair member).selects_eq.symm
  rw [apply, RowOrder.sort, chosen]
  symm
  apply List.map_mergeSort
  intro pair member other otherMember
  have among := List.mem_of_mem_filter member
  have otherAmong := List.mem_of_mem_filter otherMember
  rw [(agree pair among).compare_eq (agree other otherAmong)]

/-- Rows that agree in what the query reads have the same result. -/
theorem shapeAll_congr {rows others : List ρ} (agree : List.Forall₂ query.Agree rows others) :
    query.shapeAll rows = query.shapeAll others := by
  have paired : ∀ pair ∈ rows.zip others, query.Agree pair.1 pair.2 := fun pair member =>
    List.forall₂_zip agree member
  have firsts : (rows.zip others).map Prod.fst = rows := List.map_fst_zip (Nat.le_of_eq agree.length_eq)
  have seconds : (rows.zip others).map Prod.snd = others :=
    List.map_snd_zip (Nat.le_of_eq agree.length_eq.symm)
  have itself : ∀ pair ∈ rows.zip others, query.Agree pair.1 pair.1 := fun _ _ _ _ => rfl
  have left := apply_map Prod.fst itself
  have right := apply_map Prod.snd paired
  rw [firsts] at left
  rw [seconds] at right
  rw [shapeAll, shapeAll, left, right, List.map_map, List.map_map]
  refine List.map_congr_left fun pair member => ?_
  exact (paired pair (List.mem_of_mem_filter (List.mem_mergeSort.mp member))).shape_eq

end Query

end RecordQuery
