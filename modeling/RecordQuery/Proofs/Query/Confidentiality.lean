import RecordQuery.Proofs.Query.Suitability
import RecordQuery.Proofs.Sql.Columns

/-! # A client sees only what it was granted

A request names fields in its filter, in its sort list and through the output names of its view. Only those
that are registered under these names and allow the use are granted; an accepted request reads no others.
Hence rows that agree in the granted fields have the same result, whatever their other fields hold, and the
text of the statement for the storage names the columns of granted fields. The one exception is an infinite
number, whose text has no digits and reads as a column.
-/

namespace RecordQuery

variable {ρ : Type}

/-- The columns of a bound view are its output names in order, each with the field that it shows. -/
theorem View.resolve_columns {view : View} {registry : FieldRegistry ρ} {projection : Projection ρ}
    (accepted : view.resolve registry = .ok projection) :
    List.Forall₂ (fun output column => column.output = output ∧
        registry.resolve (view.fieldName output) .projectable = .ok column.field)
      view.fields projection.columns := by
  obtain ⟨columns, bound, same⟩ := Outcome.bind_eq_ok_iff.mp accepted
  cases same
  refine (Outcome.mapM_eq_ok_iff.mp bound).imp fun output column resolved => ?_
  obtain ⟨field, found, same⟩ := Outcome.bind_eq_ok_iff.mp resolved
  cases same
  exact ⟨rfl, found⟩

namespace Catalog

/-- The request names a field for this use. -/
def Names (catalog : Catalog ρ) (request : Request) : Capability → String → Prop
  | .filterable, name => ∃ text filter, request.filter? = some text ∧
      Filter.parse catalog.limits text = .ok filter ∧ ∃ leaf ∈ filter.comparisons, leaf.field = name
  | .sortable, name => ∃ text keys, request.sort? = some text ∧
      SortList.parse text = .ok keys ∧ ∃ key ∈ keys, key.field = name
  | .projectable, name => ∃ view, catalog.views.get request.view? = .ok view ∧
      ∃ output ∈ view.fields, view.fieldName output = name

/-- The field is registered under a name that the request has for this use, and allows the use. -/
def Grants (catalog : Catalog ρ) (request : Request) (use : Capability) (field : Field ρ) : Prop :=
  ∃ name, catalog.Names request use name ∧ catalog.fields.get? name = some field ∧
    field.capabilities.contains use = true

variable {catalog : Catalog ρ} {request : Request} {query : Query ρ}

/-- The parts of a query come from the parts of its request. -/
theorem query_eq_ok_iff :
    catalog.query request = .ok query ↔
      ∃ condition? order?, request.filter?.mapM catalog.readCondition = .ok condition? ∧
        request.sort?.mapM catalog.readOrder = .ok order? ∧
        catalog.views.resolve request.view? catalog.fields = .ok query.projection ∧
        query.condition? = condition? ∧ query.order = order?.getD .unordered := by
  obtain ⟨condition?, order, projection⟩ := query
  simp only [Catalog.query, Outcome.bind_eq_ok_iff, Outcome.pure_eq_ok_iff, Query.mk.injEq]
  constructor
  · rintro ⟨condition?, filtered, order?, sorted, projection, shown, rfl, rfl, rfl⟩
    exact ⟨condition?, order?, filtered, sorted, shown, rfl, rfl⟩
  · rintro ⟨_, order?, filtered, sorted, shown, rfl, rfl⟩
    exact ⟨condition?, filtered, order?, sorted, projection, shown, rfl, rfl, rfl⟩

section Accepted

variable (accepted : catalog.query request = .ok query)
include accepted

/-- The tests are those of the filter of the request. -/
theorem exists_readCondition {bound : Field ρ × Test} (member : bound ∈ query.tests) :
    ∃ text condition, request.filter? = some text ∧ catalog.readCondition text = .ok condition ∧
      bound ∈ condition.tests := by
  obtain ⟨condition?, order?, filtered, -, -, same, -⟩ := query_eq_ok_iff.mp accepted
  obtain ⟨condition, found, tested⟩ := Query.mem_tests_iff.mp member
  rw [← same, found] at filtered
  obtain ⟨text, given, read⟩ := Outcome.exists_of_optionMapM filtered
  exact ⟨text, condition, given, read, tested⟩

theorem grants_of_mem_tests {bound : Field ρ × Test} (member : bound ∈ query.tests) :
    catalog.Grants request .filterable bound.1 := by
  obtain ⟨text, condition, given, accepted, tested⟩ := exists_readCondition accepted member
  obtain ⟨filter, parsed, resolved⟩ := Outcome.bind_eq_ok_iff.mp accepted
  have read := Outcome.mapError_eq_ok_iff.mp parsed
  obtain ⟨leaf, named, found, -⟩ :=
    Outcome.exists_left_of_mem (Filter.forall₂_binds_of_condition resolved) tested
  exact ⟨leaf.field, ⟨text, filter, given, read, leaf, named, rfl⟩, FieldRegistry.resolve_eq_ok_iff.mp found⟩

theorem grants_of_mem_keys {key : Field ρ × Direction} (member : key ∈ query.order.keys) :
    catalog.Grants request .sortable key.1 := by
  obtain ⟨condition?, order?, -, sorted, -, -, same⟩ := query_eq_ok_iff.mp accepted
  rw [same] at member
  cases order? with
  | none => cases member
  | some order =>
    obtain ⟨text, given, read⟩ := Outcome.exists_of_optionMapM sorted
    obtain ⟨keys, parsed, resolved⟩ := Outcome.bind_eq_ok_iff.mp read
    obtain ⟨added, gone, rfl⟩ := Outcome.map_eq_ok_iff.mp resolved
    rcases RowOrder.resolved_of_addKeys gone member with before | ⟨key, named, found⟩
    · cases before
    · exact ⟨key.field, ⟨text, keys, given, Outcome.mapError_eq_ok_iff.mp parsed, key, named, rfl⟩,
        FieldRegistry.resolve_eq_ok_iff.mp found⟩

/-- The shown columns are outputs of the selected view, bound to the fields behind them. -/
theorem exists_view_columns :
    ∃ view, catalog.views.get request.view? = .ok view ∧
      ∀ column ∈ query.projection.columns, column.output ∈ view.fields ∧
        catalog.fields.get? (view.fieldName column.output) = some column.field ∧
        column.field.capabilities.contains .projectable = true := by
  obtain ⟨condition?, order?, -, -, shown, -, -⟩ := query_eq_ok_iff.mp accepted
  obtain ⟨view, selected, bound⟩ := Outcome.bind_eq_ok_iff.mp shown
  refine ⟨view, selected, fun column member => ?_⟩
  obtain ⟨output, listed, rfl, found⟩ := Outcome.exists_left_of_mem (View.resolve_columns bound) member
  exact ⟨listed, FieldRegistry.resolve_eq_ok_iff.mp found⟩

/-- Whatever the query reads was granted for some use. -/
theorem grants_of_mem_fields {field : Field ρ} (member : field ∈ query.fields) :
    ∃ use, catalog.Grants request use field := by
  rcases Query.mem_fields_iff.mp member with ⟨bound, tested, rfl⟩ | ⟨key, sorted, rfl⟩ | ⟨column, shown, rfl⟩
  · exact ⟨.filterable, grants_of_mem_tests accepted tested⟩
  · exact ⟨.sortable, grants_of_mem_keys accepted sorted⟩
  · obtain ⟨view, selected, columns⟩ := exists_view_columns accepted
    obtain ⟨listed, found, allowed⟩ := columns column shown
    exact ⟨.projectable, view.fieldName column.output, ⟨view, selected, column.output, listed, rfl⟩, found, allowed⟩

/-- No operand is the undefined number. -/
theorem nan_not_mem_operands : .number .nan ∉ query.operands := by
  intro member
  obtain ⟨bound, tested, among⟩ := Query.mem_operands_iff.mp member
  obtain ⟨text, condition, -, read, inside⟩ := exists_readCondition accepted tested
  exact (suits_of_readCondition read inside).defined among

/-- The names in the statement are the columns of the fields that the query reads, and the word of infinite
numbers where the condition compares with one. -/
theorem mem_names_iff {table name : String} :
    name ∈ (Sql.Statement.ofQuery table query).names ↔
      (∃ field ∈ query.fields, field.column = name) ∨ name = "inf" ∧ query.ComparesInfinite := by
  have words {value : Value} (member : value ∈ query.operands) :
      name ∈ Sql.valueNames value ↔ name = "inf" ∧ ∃ negative, value = .number (.infinite negative) :=
    Sql.mem_valueNames_iff fun undefined => nan_not_mem_operands accepted (undefined ▸ member)
  rw [Sql.mem_names_ofQuery]
  apply or_congr_right
  constructor
  · rintro ⟨value, compared, inside⟩
    obtain ⟨same, negative, rfl⟩ := (words compared).mp inside
    exact ⟨same, negative, compared⟩
  · rintro ⟨same, negative, compared⟩
    exact ⟨_, compared, (words compared).mpr ⟨same, negative, rfl⟩⟩

end Accepted

/-- An accepted request reads only what it was granted: the tested, sorting and shown fields are registered
under the names that it has for them and allow this use, and lists of rows that agree in the granted fields
have the same result. The text of the statement is read as tokens that name the columns of granted fields; an
infinite operand, and nothing else, names the column "inf" beside them. -/
theorem query_reads_granted (accepted : catalog.query request = .ok query) :
    (∀ bound ∈ query.tests, catalog.Grants request .filterable bound.1) ∧
    (∀ key ∈ query.order.keys, catalog.Grants request .sortable key.1) ∧
    (∃ view, catalog.views.get request.view? = .ok view ∧
      ∀ column ∈ query.projection.columns, column.output ∈ view.fields ∧
        catalog.fields.get? (view.fieldName column.output) = some column.field ∧
        column.field.capabilities.contains .projectable = true) ∧
    (∀ rows others, List.Forall₂ (fun row other =>
        ∀ use field, catalog.Grants request use field → field.read row = field.read other) rows others →
      query.shapeAll rows = query.shapeAll others) ∧
    ∀ table, ∃ tokens, Sql.tokens? (Sql.Statement.ofQuery table query).text = some tokens ∧
      (∀ name ∈ Sql.columnNames tokens,
        (∃ use field, catalog.Grants request use field ∧ field.column = name) ∨
          name = "inf" ∧ query.ComparesInfinite) ∧
      (query.ComparesInfinite → "inf" ∈ Sql.columnNames tokens) := by
  refine ⟨fun _ => grants_of_mem_tests accepted, fun _ => grants_of_mem_keys accepted,
    exists_view_columns accepted, fun rows others agree => ?_,
    fun table => ⟨_, Sql.Statement.tokens?_text _, ?_⟩⟩
  · refine Query.shapeAll_congr (agree.imp fun row other same field member => ?_)
    obtain ⟨use, grants⟩ := grants_of_mem_fields accepted member
    exact same use field grants
  · rw [Sql.Statement.columnNames_tokens]
    constructor
    · intro name member
      rcases (mem_names_iff accepted).mp member with ⟨field, read, same⟩ | infinite
      · obtain ⟨use, grants⟩ := grants_of_mem_fields accepted read
        exact .inl ⟨use, field, grants, same⟩
      · exact .inr infinite
    · intro infinite
      exact (mem_names_iff accepted).mpr (.inr ⟨rfl, infinite⟩)

/-- An aliased output name, a sort key and a filter name their three columns; a field of which nothing is
granted is not among them. -/
theorem query_reads_granted_of_alias :
    let read : String → Capabilities → Field (String → Value) := fun name capabilities =>
      { Field.ofName name .text (· name) with capabilities }
    let catalog : Catalog (String → Value) :=
      ⟨.ofList [read "name" .all, read "city" (.ofList [.filterable]), read "note" .all, read "secret" .none],
        ⟨[(View.ofFields "list" ["label"]).withAliases [("LABEL", "Name")]], some "list"⟩, .standard⟩
    let request : Request := ⟨some "not city = 'x'", some "NOTE:desc", none⟩
    ∃ query tokens, catalog.query request = .ok query ∧
      Sql.tokens? (Sql.Statement.ofQuery "people" query).text = some tokens ∧
      ∀ name ∈ Sql.columnNames tokens,
        (∃ use field, catalog.Grants request use field ∧ field.column = name) ∨
          name = "inf" ∧ query.ComparesInfinite := by
  intro read catalog request
  have accepted : (catalog.query request).isOk = true := by decide +kernel
  cases found : catalog.query request with
  | error refused =>
    rw [found] at accepted
    cases accepted
  | ok query =>
    obtain ⟨tokens, readable, named, -⟩ := (query_reads_granted found).2.2.2.2 "people"
    exact ⟨query, tokens, rfl, readable, named⟩

/-- A filter may well compare with an infinite number: it has to write 310 digits. -/
example : Number.ofDigits false (List.replicate 310 '9') [] = .infinite false := by decide +kernel

end Catalog

end RecordQuery
