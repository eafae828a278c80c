import RecordQuery.Proofs.View.History

/-! # Views in numbered places

A registry can be kept as a table: the views in a row, the place of each folded name, and the place of the
default. A place that was stored once is kept while views are replaced and added, so no stored place ever
points behind the row, and the table gives the answers of the registry, which are those that the history of
calls tells.
-/

namespace RecordQuery

open ViewRegistry

/-- Views in a row, the place of each folded name, and the place of the default. -/
structure PlacedViews where
  views : List View
  places : Dictionary Nat
  default? : Option Nat

namespace PlacedViews

/-- A table without views. -/
def empty : PlacedViews := ⟨[], .empty, none⟩

/-- Puts a view at the place of its folded name, or at a new place behind the others. -/
def register (table : PlacedViews) (view : View) : PlacedViews :=
  match table.places.get? view.key with
  | some place => { table with views := table.views.set place view }
  | none =>
    { table with
      views := table.views ++ [view]
      places := table.places.insert view.key table.views.length }

/-- Makes the place of a registered name the default. -/
def setDefault (table : PlacedViews) (name : String) : Except QueryError PlacedViews :=
  match table.places.get? (Text.fold name) with
  | some place => .ok { table with default? := some place }
  | none => .error (.unknownView name (table.views.map View.name))

/-- The table after a call. A default that is refused leaves it as it was. -/
def call (table : PlacedViews) : Call → PlacedViews
  | .register name fields => table.register (.ofFields name fields)
  | .define view => table.register view
  | .build name fields aliases includes =>
    table.register (((View.ofFields name fields).withAliases aliases).withIncludes includes)
  | .setDefault name =>
    match table.setDefault name with
    | .ok chosen => chosen
    | .error _ => table

/-- The table after calls. -/
def run (calls : List Call) : PlacedViews := calls.foldl call empty

/-- What the table answers for a name, or without one for the default; there is no answer where the stored
place is behind the row. -/
def get? (table : PlacedViews) (name? : Option String) : Option (Except QueryError View) :=
  match (name?.map Text.trim).filter (· ≠ "") with
  | some name =>
    match table.places.get? (Text.fold name) with
    | some place => table.views[place]?.map .ok
    | none => some (.error (.unknownView name (table.views.map View.name)))
  | none =>
    match table.default? with
    | some place => table.views[place]?.map .ok
    | none => some (.error .noDefaultView)

/-- The place at which the first view of a folded name stands. -/
def placeOf? (views : List View) (key : String) : Option Nat := (views.map View.key).idxOf? key

/-- The table keeps the registry: its places are those at which the names stand. -/
structure Keeps (table : PlacedViews) (registry : ViewRegistry) : Prop where
  views : table.views = registry.views
  places : ∀ key, table.places.get? key = placeOf? registry.views key
  default : table.default? = registry.default?.bind (placeOf? registry.views)

variable {table : PlacedViews} {registry : ViewRegistry} {view : View} {views : List View} {calls : List Call}
  {key name : String} {place : Nat}

theorem placeOf?_eq_none_iff : placeOf? views key = none ↔ key ∉ views.map View.key := List.idxOf?_eq_none_iff

theorem mem_of_placeOf? (found : placeOf? views key = some place) : key ∈ views.map View.key := by
  by_contra missing
  rw [placeOf?_eq_none_iff.mpr missing] at found
  cases found

/-- A folded name has a place exactly if a view has the name. -/
theorem isSome_placeOf? (views : List View) (key : String) :
    (placeOf? views key).isSome = (views.find? fun view => view.key == key).isSome := by
  rw [Bool.eq_iff_iff, placeOf?, List.isSome_idxOf?, List.find?_isSome, List.mem_map]
  simp only [beq_iff_eq]

/-- At the place of a folded name stands the first view that has it. -/
theorem getElem?_of_placeOf? (found : placeOf? views key = some place) :
    views[place]? = views.find? fun view => view.key == key := by
  induction views generalizing place with
  | nil => cases found
  | cons first rest ih =>
    rw [placeOf?, List.map_cons, List.idxOf?_cons] at found
    split at found
    · rename_i own
      cases found
      rw [List.find?_cons, own]
      rfl
    · rename_i passed
      obtain ⟨before, later, rfl⟩ := Option.map_eq_some_iff.mp found
      rw [List.find?_cons, Bool.eq_false_iff.mpr passed, List.getElem?_cons_succ]
      exact ih later

theorem exists_getElem?_of_placeOf? (found : placeOf? views key = some place) :
    ∃ view, views[place]? = some view ∧ (views.find? fun view => view.key == key) = some view := by
  have present : (views.find? fun view => view.key == key).isSome = true := by
    rw [← isSome_placeOf?, found, Option.isSome_some]
  obtain ⟨view, same⟩ := Option.isSome_iff_exists.mp present
  exact ⟨view, (getElem?_of_placeOf? found).trans same, same⟩

/-- Putting a view is setting it at its place, or adding it behind the others. -/
theorem put_of_placeOf? (found : placeOf? views view.key = some place) : put view views = views.set place view := by
  induction views generalizing place with
  | nil => cases found
  | cons first rest ih =>
    rw [placeOf?, List.map_cons, List.idxOf?_cons] at found
    split at found
    · rename_i own
      cases found
      exact if_pos (beq_iff_eq.mp own)
    · rename_i passed
      obtain ⟨before, later, rfl⟩ := Option.map_eq_some_iff.mp found
      rw [List.set_cons_succ, ← ih later]
      exact if_neg (mt beq_iff_eq.mpr passed)

theorem put_of_not_mem (fresh : view.key ∉ views.map View.key) : put view views = views ++ [view] := by
  induction views with
  | nil => rfl
  | cons first rest ih =>
    rw [List.map_cons, List.mem_cons, not_or] at fresh
    rw [List.cons_append, ← ih fresh.2]
    exact if_neg (Ne.symm fresh.1)

/-- Places stay where they are when a view is put, and a new name comes behind them. -/
theorem placeOf?_put (view : View) (views : List View) (key : String) :
    placeOf? (put view views) key =
      if view.key ∉ views.map View.key ∧ key = view.key then some views.length else placeOf? views key := by
  by_cases member : view.key ∈ views.map View.key
  · rw [if_neg fun fresh => fresh.1 member, placeOf?, map_key_put, if_pos member, placeOf?]
  · have behind : [view.key].findIdx? (· == key) = if key = view.key then some 0 else none := by
      by_cases own : key = view.key
      · simp [own]
      · simp [own, Ne.symm own]
    rw [placeOf?, map_key_put, if_neg member, List.idxOf?, List.findIdx?_append, behind, List.length_map]
    by_cases own : key = view.key
    · have absent : (views.map View.key).findIdx? (· == key) = none :=
        placeOf?_eq_none_iff.mpr (own ▸ member)
      rw [absent, if_pos own, if_pos ⟨member, own⟩]
      exact congrArg some (Nat.zero_add _)
    · rw [if_neg own, if_neg fun fresh => own fresh.2]
      exact Option.or_none

/-- Registering a view keeps the places of all names and of the default. -/
theorem Keeps.register (keeps : Keeps table registry) (hasDefault : registry.HasDefault) (view : View) :
    Keeps (table.register view) (registry.register view) := by
  have kept (key : String) (chosen : registry.default? = some key) :
      placeOf? (put view registry.views) key = placeOf? registry.views key := by
    have member := hasDefault key chosen
    rw [placeOf?_put, if_neg fun fresh => fresh.1 (fresh.2 ▸ member)]
  have default : table.default? = registry.default?.bind (placeOf? (put view registry.views)) := by
    rw [keeps.default]
    cases chosen : registry.default? with
    | none => rfl
    | some key => exact (kept key chosen).symm
  unfold PlacedViews.register
  cases found : table.places.get? view.key with
  | some place =>
    rw [keeps.places] at found
    refine ⟨?_, fun key => ?_, default⟩
    · dsimp only
      rw [keeps.views, ← put_of_placeOf? found]
      rfl
    · change table.places.get? key = placeOf? (put view registry.views) key
      rw [keeps.places, placeOf?_put, if_neg fun fresh => fresh.1 (mem_of_placeOf? found)]
  | none =>
    rw [keeps.places, placeOf?_eq_none_iff] at found
    refine ⟨?_, fun key => ?_, default⟩
    · dsimp only
      rw [keeps.views, ← put_of_not_mem found]
      rfl
    · change (table.places.insert view.key table.views.length).get? key = placeOf? (put view registry.views) key
      rw [Dictionary.get?_insert, keeps.places, keeps.views, placeOf?_put]
      simp only [found, not_false_eq_true, true_and]

theorem call_setDefault (table : PlacedViews) (name : String) : table.call (.setDefault name) =
    match table.places.get? (Text.fold name) with
    | some place => { table with default? := some place }
    | none => table := by
  rw [PlacedViews.call, setDefault]
  cases table.places.get? (Text.fold name) <;> rfl

/-- The place of a name becomes the default where the name becomes it. -/
theorem Keeps.setDefault (keeps : Keeps table registry) (name : String) :
    Keeps (table.call (.setDefault name)) (registry.call (.setDefault name)) := by
  have both : (registry.find? name).isSome = (placeOf? registry.views (Text.fold name)).isSome := by
    rw [isSome_placeOf?]
    rfl
  rw [call_setDefault, ViewRegistry.call_setDefault, both, keeps.places]
  cases found : placeOf? registry.views (Text.fold name) with
  | none => exact keeps
  | some place => exact ⟨keeps.views, keeps.places, found.symm⟩

/-- A table that keeps a registry keeps it through a call. -/
theorem Keeps.after (keeps : Keeps table registry) (hasDefault : registry.HasDefault) (call : Call) :
    Keeps (table.call call) (registry.call call) := by
  cases call with
  | register name fields => exact keeps.register hasDefault _
  | define view => exact keeps.register hasDefault view
  | build name fields aliases includes => exact keeps.register hasDefault _
  | setDefault name => exact keeps.setDefault name

theorem keeps_run (calls : List Call) : Keeps (run calls) (ViewRegistry.run calls) := by
  induction calls using List.reverseRecOn with
  | nil => exact ⟨rfl, fun _ => rfl, rfl⟩
  | append_singleton calls call ih =>
    have step : run (calls ++ [call]) = (run calls).call call := by
      rw [run, List.foldl_append, List.foldl_cons, List.foldl_nil, run]
    rw [step, run_concat]
    exact ih.after (hasDefault_run calls) call

/-- The view at the place of a folded name is the one that the registry has for it. -/
theorem Keeps.getElem?_of_place (keeps : Keeps table registry) (stored : placeOf? registry.views key = some place) :
    ∃ view, table.views[place]? = some view ∧ registry.withKey? key = some view := by
  rw [keeps.views]
  exact exists_getElem?_of_placeOf? stored

theorem Keeps.place_lt (keeps : Keeps table registry) (stored : placeOf? registry.views key = some place) :
    place < table.views.length := by
  obtain ⟨view, at_place, -⟩ := keeps.getElem?_of_place stored
  exact (List.getElem?_eq_some_iff.mp at_place).1

theorem Keeps.default_lt (keeps : Keeps table registry) (stored : table.default? = some place) :
    place < table.views.length := by
  rw [keeps.default] at stored
  obtain ⟨key, -, found⟩ := Option.bind_eq_some_iff.mp stored
  exact keeps.place_lt found

/-- The table answers every look-up, and as the registry does. -/
theorem Keeps.get?_eq (keeps : Keeps table registry) (hasDefault : registry.HasDefault) (name? : Option String) :
    table.get? name? = some (registry.get name?) := by
  have names : table.views.map View.name = registry.names := by rw [keeps.views, names]
  rw [get?, ViewRegistry.get]
  cases (name?.map Text.trim).filter (· ≠ "") with
  | some name =>
    dsimp only
    rw [ViewRegistry.find, find?, keeps.places, names]
    cases stored : placeOf? registry.views (Text.fold name) with
    | some place =>
      obtain ⟨view, at_place, same⟩ := keeps.getElem?_of_place stored
      rw [same]
      dsimp only
      rw [at_place, Option.map_some]
    | none =>
      have absent := isSome_placeOf? registry.views (Text.fold name)
      rw [stored, ← withKey?_eq, eq_comm, Option.isSome_none, Option.isSome_eq_false_iff, Option.isNone_iff_eq_none]
        at absent
      rw [absent]
  | none =>
    dsimp only
    rw [defaultView, defaultView?, keeps.default]
    cases chosen : registry.default? with
    | none => rfl
    | some key =>
      have present : (placeOf? registry.views key).isSome = true := List.isSome_idxOf?.mpr (hasDefault key chosen)
      obtain ⟨place, stored⟩ := Option.isSome_iff_exists.mp present
      obtain ⟨view, at_place, same⟩ := keeps.getElem?_of_place stored
      rw [Option.bind_some, Option.bind_some, stored, same]
      dsimp only
      rw [at_place, Option.map_some]

end PlacedViews

/-- A registry of views is an ordered map whose default sticks to a name. After any calls it answers by the
last view of each folded name, in the order of their first registration, and by the name that was accepted
last as the default. Kept as a table, it has no place behind the row of views, and every look-up in the table
has the same answer. -/
theorem ViewRegistry.answers_of_history (calls : List Call) :
    Answers calls (run calls) ∧
      let table := PlacedViews.run calls
      table.views = (run calls).views ∧
      (∀ key place, table.places.get? key = some place → place < table.views.length) ∧
      (∀ place, table.default? = some place → place < table.views.length) ∧
      (∀ name, (table.places.get? (Text.fold name)).isSome = (run calls).contains name) ∧
      ∀ name?, table.get? name? = some ((run calls).get name?) := by
  have keeps := PlacedViews.keeps_run calls
  refine ⟨answers_run calls, keeps.views, fun key place stored => ?_, fun place => keeps.default_lt,
    fun name => ?_, keeps.get?_eq (hasDefault_run calls)⟩
  · rw [keeps.places] at stored
    exact keeps.place_lt stored
  · rw [keeps.places, PlacedViews.isSome_placeOf?]
    rfl

end RecordQuery
