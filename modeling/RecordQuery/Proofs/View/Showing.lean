import Mathlib.Data.List.Nodup
import RecordQuery.Proofs.Firsts
import RecordQuery.Proofs.Query.Confidentiality
import RecordQuery.Proofs.Sql.SelectList
import RecordQuery.View.Builder

/-! # What a view shows

A view is made of output names and aliases that were listed in any order. It shows the first spelling of each
output name, under the last alias of that name wherever this stands, also beside a spelling that was dropped.
A row becomes an object with these names in this order, none of which takes the place of another one, and a
statement selects the columns of the same fields under the same names.
-/

namespace RecordQuery

namespace Json

/-- Puts a member in the place of the one with its name, or at the end. -/
def put (members : List (String × Json)) (member : String × Json) : List (String × Json) :=
  if members.any fun other => other.1 == member.1 then
    members.map fun other => if other.1 == member.1 then (other.1, member.2) else other
  else members ++ [member]

/-- The members of an object into which members were put one after the other. -/
def collected (members : List (String × Json)) : List (String × Json) := members.foldl put []

theorem foldl_put {members kept : List (String × Json)} (distinct : ((kept ++ members).map Prod.fst).Nodup) :
    members.foldl put kept = kept ++ members := by
  induction members generalizing kept with
  | nil => exact (List.append_nil kept).symm
  | cons member rest ih =>
    have fresh : ¬ (kept.any fun other => other.1 == member.1) = true := by
      rw [List.map_append, List.nodup_append] at distinct
      rw [List.any_eq_true]
      rintro ⟨other, among, same⟩
      exact distinct.2.2 _ (List.mem_map_of_mem among) _ (List.mem_map_of_mem List.mem_cons_self) (eq_of_beq same)
    rw [List.foldl_cons, put, if_neg fresh, ih (by simpa using distinct), List.append_assoc]
    rfl

/-- Members of different names are all kept. -/
theorem collected_eq {members : List (String × Json)} (distinct : (members.map Prod.fst).Nodup) :
    collected members = members :=
  foldl_put distinct

end Json

/-- The field name of the last alias of an output name. -/
def latestAlias? (aliases : List (String × String)) (output : String) : Option String :=
  (aliases.findRev? fun written => Text.fold written.1 == Text.fold output).map Prod.snd

theorem latestAlias?_concat (aliases : List (String × String)) (name field output : String) :
    latestAlias? (aliases ++ [(name, field)]) output =
      if Text.fold output = Text.fold name then some field else latestAlias? aliases output := by
  rw [latestAlias?, List.findRev?_eq_find?_reverse, List.reverse_append, List.reverse_singleton,
    List.singleton_append, List.find?_cons]
  by_cases same : Text.fold name = Text.fold output
  · simp [same]
  · rw [beq_eq_false_iff_ne.mpr same, if_neg (Ne.symm same), latestAlias?, List.findRev?_eq_find?_reverse]

namespace View

variable {view : View} {outputs : List String} {aliases : List (String × String)}

/-! ## Listing -/

/-- The view has the listed output names in their first spellings, with their last aliases. -/
structure Lists (view : View) (outputs : List String) (aliases : List (String × String)) : Prop where
  fields : view.fields = firsts Text.fold outputs
  bound : ∀ output, view.aliases.get? (Text.fold output) = latestAlias? aliases output

theorem lists_ofFields (name : String) (outputs : List String) : (ofFields name outputs).Lists outputs [] where
  fields := foldl_addFirst_nil outputs
  bound := fun _ => rfl

/-- Later aliases count before earlier ones. -/
theorem Lists.withAliases (lists : view.Lists outputs aliases) (more : List (String × String)) :
    (view.withAliases more).Lists outputs (aliases ++ more) := by
  refine ⟨lists.fields, fun output => ?_⟩
  induction more using List.reverseRecOn with
  | nil => rw [List.append_nil, ← lists.bound]; rfl
  | append_singleton more last ih =>
    obtain ⟨name, field⟩ := last
    have inserted : (view.withAliases (more ++ [(name, field)])).aliases =
        (view.withAliases more).aliases.insert (Text.fold name) field := by
      simp [View.withAliases]
    rw [inserted, Dictionary.get?_insert, ih, ← List.append_assoc, latestAlias?_concat]

theorem Lists.withIncludes (lists : view.Lists outputs aliases) (paths : List String) :
    (view.withIncludes paths).Lists outputs aliases := ⟨lists.fields, lists.bound⟩

theorem Lists.fieldName (lists : view.Lists outputs aliases) (output : String) :
    view.fieldName output = (latestAlias? aliases output).getD output := by
  rw [View.fieldName, lists.bound]

end View

namespace ViewBuilder

/-- The output names that a call lists. -/
def Call.outputs : Call → List String
  | select outputs => outputs
  | selectAs output _ => [output]
  | load _ => []

/-- The alias that a call sets. -/
def Call.aliases : Call → List (String × String)
  | selectAs output field => [(output, field)]
  | select _ | load _ => []

/-- A call adds what it lists. -/
theorem call_adds (builder : ViewBuilder) (call : Call) :
    (builder.call call).outputs = builder.outputs ++ call.outputs ∧
      (builder.call call).aliases = builder.aliases ++ call.aliases := by
  cases call with
  | select outputs => exact ⟨rfl, (List.append_nil _).symm⟩
  | selectAs output field => exact ⟨rfl, rfl⟩
  | load path => exact ⟨(List.append_nil _).symm, (List.append_nil _).symm⟩

/-- A builder has collected what its calls list, in their order. -/
theorem run_collects (name : String) (calls : List Call) :
    (run name calls).outputs = calls.flatMap Call.outputs ∧
      (run name calls).aliases = calls.flatMap Call.aliases := by
  induction calls using List.reverseRecOn with
  | nil => exact ⟨rfl, rfl⟩
  | append_singleton calls call ih =>
    have stepped : run name (calls ++ [call]) = (run name calls).call call := by
      rw [run, List.foldl_append, List.foldl_cons, List.foldl_nil, run]
    rw [stepped, (call_adds _ call).1, (call_adds _ call).2, ih.1, ih.2, List.flatMap_append, List.flatMap_append,
      List.flatMap_singleton, List.flatMap_singleton]
    exact ⟨rfl, rfl⟩

theorem lists_view (builder : ViewBuilder) : builder.view.Lists builder.outputs builder.aliases :=
  ((View.lists_ofFields _ _).withAliases _).withIncludes _

end ViewBuilder

namespace View

variable {view : View} {outputs : List String} {aliases : List (String × String)}

/-! ## Showing -/

/-- The view shows the listed output names, each in its first spelling, as the fields of their last aliases or
of their own names: in the objects of rows and in the list that a statement selects. -/
structure Shows (view : View) (outputs : List String) (aliases : List (String × String)) : Prop where
  fields : view.fields = firsts Text.fold outputs
  distinct : (view.fields.map Text.fold).Nodup
  shown : ∀ {ρ : Type} (registry : FieldRegistry ρ) (projection : Projection ρ),
    view.resolve registry = .ok projection →
    ∃ fields : List (Field ρ),
      List.Forall₂ (fun output field =>
        registry.get? ((latestAlias? aliases output).getD output) = some field) view.fields fields ∧
      (∀ row, ∃ members, projection.shape row = .object members ∧ Json.collected members = members ∧
        members.map Prod.fst = view.fields ∧
        members.map Prod.snd = fields.map fun field => (field.read row).toJson) ∧
      ∀ condition? order table, ∃ tokens selections,
        Sql.tokens? (Sql.Statement.ofQuery table ⟨condition?, order, projection⟩).text = some tokens ∧
        Sql.selectList? tokens = some selections ∧
        selections.map Sql.Selection.output = view.fields ∧
        selections.map Sql.Selection.column = fields.map Field.column

theorem Lists.shows (lists : view.Lists outputs aliases) : view.Shows outputs aliases where
  fields := lists.fields
  distinct := by
    rw [lists.fields]
    exact nodup_map_firsts outputs
  shown := by
    intro ρ registry projection resolved
    have columns := resolve_columns resolved
    have names : List.Forall₂ Eq view.fields (projection.columns.map Column.output) :=
      List.forall₂_map_right_iff.mpr (columns.imp fun _ _ parts => parts.1.symm)
    rw [List.forall₂_eq_eq_eq] at names
    refine ⟨projection.columns.map Column.field, ?_, fun row => ?_, fun condition? order table => ?_⟩
    · refine List.forall₂_map_right_iff.mpr (columns.imp fun output column parts => ?_)
      rw [← lists.fieldName]
      exact (FieldRegistry.resolve_eq_ok_iff.mp parts.2).1
    · have keys : (projection.columns.map fun column =>
          (column.output, (column.field.read row).toJson)).map Prod.fst = view.fields := by
        rw [List.map_map, names]
        rfl
      refine ⟨_, rfl, Json.collected_eq ?_, keys, ?_⟩
      · rw [keys, lists.fields]
        exact List.Nodup.of_map Text.fold (nodup_map_firsts _)
      · rw [List.map_map, List.map_map]
        rfl
    · refine ⟨_, _, Sql.Statement.tokens?_text _, Sql.Statement.selectList?_tokens _, ?_, ?_⟩
      · rw [Sql.Statement.ofQuery, List.map_map, names]
        rfl
      · rw [Sql.Statement.ofQuery, List.map_map, List.map_map]
        rfl

/-- However its output names and aliases are listed, by calls to a builder or in lists of their own, a view
shows the listed output names under their last aliases. -/
theorem shows_listed :
    (∀ (name : String) (calls : List ViewBuilder.Call), (ViewBuilder.run name calls).view.Shows
      (calls.flatMap ViewBuilder.Call.outputs) (calls.flatMap ViewBuilder.Call.aliases)) ∧
    ∀ (name : String) (outputs : List String) (batches : List (List (String × String))) (includes : List String),
      ((batches.foldl withAliases (ofFields name outputs)).withIncludes includes).Shows outputs
        batches.flatten := by
  constructor
  · intro name calls
    obtain ⟨outputs, aliases⟩ := ViewBuilder.run_collects name calls
    rw [← outputs, ← aliases]
    exact (ViewBuilder.lists_view _).shows
  · intro name outputs batches includes
    have lists : (batches.foldl withAliases (ofFields name outputs)).Lists outputs batches.flatten := by
      induction batches using List.reverseRecOn with
      | nil => exact lists_ofFields name outputs
      | append_singleton batches last ih =>
        rw [List.foldl_append, List.flatten_append, List.flatten_singleton]
        exact ih.withAliases last
    exact (lists.withIncludes includes).shows

end View

end RecordQuery
