import Mathlib.Data.List.Forall2
import RecordQuery.Proofs.Firsts
import RecordQuery.Proofs.Query.Binding

/-! # Repeated sort keys decide nothing

A sort list may name a field more than once, in any spelling and in both directions. Each of its keys has to
name a field that may be sorted by, but only the first key of a field is kept: two rows that reach a later one
are equal in that field, so that rows compare as they do by all keys that were written.
-/

namespace RecordQuery

variable {ρ : Type}

namespace FieldRegistry

/-- Fields are found under their own folded names only. -/
def FindsByName (registry : FieldRegistry ρ) : Prop :=
  ∀ name field, registry.get? name = some field → field.key = Text.fold name

theorem FindsByName.add {registry : FieldRegistry ρ} (named : registry.FindsByName) (field : Field ρ) :
    (registry.add field).FindsByName := by
  intro name found
  rw [get?_add]
  split
  · rename_i same
    rintro ⟨⟩
    exact same.symm
  · exact named name found

/-- Registered fields are found by their names. -/
theorem findsByName_ofList (fields : List (Field ρ)) : (ofList fields).FindsByName :=
  List.foldlRecOn fields add (motive := FindsByName) nofun fun _ named field _ => named.add field

theorem FindsByName.get?_eq {registry : FieldRegistry ρ} (named : registry.FindsByName) {name other : String}
    {field second : Field ρ} (found : registry.get? name = some field)
    (otherFound : registry.get? other = some second) (same : field.key = second.key) : field = second := by
  have alike : Text.fold name = Text.fold other := by
    rw [← named name field found, same, named other second otherFound]
  rw [get?, alike] at found
  exact Option.some.inj (found.symm.trans otherFound)

end FieldRegistry

namespace RowOrder

variable {first second : ρ} {keys : List (Field ρ × Direction)}

/-! ## Comparing by keys -/

/-- The order of two rows by one key, which a descending key reverses. -/
def keyOrder (first second : ρ) (key : Field ρ × Direction) : Ordering :=
  match key.2 with
  | .ascending => (key.1.read first).sortOrder (key.1.read second)
  | .descending => ((key.1.read first).sortOrder (key.1.read second)).swap

theorem compareBy_cons (first second : ρ) (key : Field ρ × Direction) (rest : List (Field ρ × Direction)) :
    compareBy first second (key :: rest) = (keyOrder first second key).then (compareBy first second rest) := by
  obtain ⟨field, _ | _⟩ := key <;> rfl

/-- Rows are equal by a key if they are equal in its field, whatever its direction is. -/
theorem keyOrder_eq_eq_iff {key : Field ρ × Direction} : keyOrder first second key = .eq ↔
    (key.1.read first).sortOrder (key.1.read second) = .eq := by
  obtain ⟨field, _ | _⟩ := key
  · exact Iff.rfl
  · exact Ordering.swap_eq_eq

/-- Rows are compared by one key after the other, none of which is left out. -/
theorem compareBy_eq_foldr (first second : ρ) (keys : List (Field ρ × Direction)) :
    compareBy first second keys = (keys.map (keyOrder first second)).foldr Ordering.then .eq := by
  induction keys with
  | nil => rfl
  | cons key rest ih => rw [compareBy_cons, ih, List.map_cons, List.foldr_cons]

theorem compareBy_concat (first second : ρ) (keys : List (Field ρ × Direction)) (key : Field ρ × Direction) :
    compareBy first second (keys ++ [key]) = (compareBy first second keys).then (keyOrder first second key) := by
  induction keys with
  | nil =>
    rw [List.nil_append, compareBy_cons]
    exact Ordering.then_eq
  | cons leading rest ih =>
    rw [List.cons_append, compareBy_cons, ih, compareBy_cons, Ordering.then_assoc]

/-- Rows are equal if they are equal in the field of every key, whatever its direction is. -/
theorem compareBy_eq_eq_iff : compareBy first second keys = .eq ↔
    ∀ key ∈ keys, (key.1.read first).sortOrder (key.1.read second) = .eq := by
  induction keys with
  | nil => exact iff_of_true rfl nofun
  | cons key rest ih => rw [compareBy_cons, Ordering.then_eq_eq, ih, keyOrder_eq_eq_iff, List.forall_mem_cons]

/-- Keys whose fields are there already tell no rows apart. -/
theorem compareBy_firsts (named : ∀ key ∈ keys, ∀ other ∈ keys, key.1.key = other.1.key → key.1 = other.1) :
    compareBy first second (firsts (·.1.key) keys) = compareBy first second keys := by
  induction keys using List.reverseRecOn with
  | nil => rw [firsts_nil]
  | append_singleton keys key ih =>
    have earlier := ih fun one member other among =>
      named one (List.mem_append_left _ member) other (List.mem_append_left _ among)
    rw [firsts_concat, addFirst]
    split
    · rename_i repeated
      obtain ⟨other, kept, same⟩ := List.any_eq_true.mp repeated
      have sameField : other.1 = key.1 := named other (List.mem_append_left _ (mem_of_mem_firsts kept)) key
        (List.mem_append_right _ List.mem_cons_self) (eq_of_beq same)
      rw [compareBy_concat, ← earlier]
      cases decided : compareBy first second (firsts (·.1.key) keys) with
      | lt | gt => rfl
      | eq =>
        -- the rows are equal in all kept fields, the repeated one among them
        have equal := compareBy_eq_eq_iff.mp decided other kept
        rw [sameField] at equal
        rw [keyOrder_eq_eq_iff.mpr equal]
        rfl
    · rw [compareBy_concat, compareBy_concat, earlier]

/-! ## Binding a sort list -/

/-- The field of a written key with its direction. -/
def bindKey (registry : FieldRegistry ρ) (key : SortKey) : Except QueryError (Field ρ × Direction) :=
  (registry.resolve key.field .sortable).map fun field => (field, key.direction)

theorem addKey_of_resolve {registry : FieldRegistry ρ} {key : SortKey} {field : Field ρ}
    (resolved : registry.resolve key.field .sortable = .ok field) (kept : List (Field ρ × Direction)) :
    addKey registry kept key = .ok (addFirst (·.1.key) kept (field, key.direction)) := by
  rw [addKey, resolved, addFirst]
  exact (apply_ite Except.ok _ _ _).symm

/-- A sort list is refused where one of its keys is, and otherwise keeps the first key of each field. -/
theorem foldlM_addKey (registry : FieldRegistry ρ) (written : List SortKey)
    (kept : List (Field ρ × Direction)) : written.foldlM (addKey registry) kept =
      (written.mapM (bindKey registry)).map (List.foldl (addFirst (·.1.key)) kept) := by
  induction written generalizing kept with
  | nil => rfl
  | cons key rest ih =>
    rw [List.foldlM_cons, List.mapM_cons]
    cases resolved : registry.resolve key.field .sortable with
    | error refused =>
      rw [addKey, bindKey, resolved]
      rfl
    | ok field =>
      have bound : bindKey registry key = .ok (field, key.direction) := by rw [bindKey, resolved]; rfl
      rw [addKey_of_resolve resolved, bound]
      change rest.foldlM (addKey registry) _ = _
      rw [ih]
      cases rest.mapM (bindKey registry) <;> rfl

theorem ofSortKeys_eq (registry : FieldRegistry ρ) (written : List SortKey) : ofSortKeys registry written =
    (written.mapM (bindKey registry)).map fun bound => ⟨firsts (·.1.key) bound⟩ := by
  rw [ofSortKeys, foldlM_addKey]
  cases written.mapM (bindKey registry) with
  | error refused => rfl
  | ok bound => exact congrArg (Except.ok ∘ mk) (foldl_addFirst_nil bound)

theorem bindKey_eq_ok_iff {registry : FieldRegistry ρ} {key : SortKey} {bound : Field ρ × Direction} :
    bindKey registry key = .ok bound ↔
      registry.get? key.field = some bound.1 ∧ bound.1.capabilities.contains .sortable = true ∧
        bound.2 = key.direction := by
  obtain ⟨field, direction⟩ := bound
  simp only [bindKey, Outcome.map_eq_ok_iff, FieldRegistry.resolve_eq_ok_iff, Prod.mk.injEq]
  constructor
  · rintro ⟨_, ⟨found, sortable⟩, rfl, rfl⟩
    exact ⟨found, sortable, rfl⟩
  · rintro ⟨found, sortable, rfl⟩
    exact ⟨field, ⟨found, sortable⟩, rfl, rfl⟩

theorem exists_bindKey_iff {registry : FieldRegistry ρ} {key : SortKey} :
    (∃ bound, bindKey registry key = .ok bound) ↔ ∃ field, registry.resolve key.field .sortable = .ok field := by
  simp only [bindKey, Outcome.map_eq_ok_iff]
  constructor
  · rintro ⟨_, field, resolved, -⟩
    exact ⟨field, resolved⟩
  · rintro ⟨field, resolved⟩
    exact ⟨_, field, resolved, rfl⟩

/-- A sort list is accepted if each of its keys has a field to sort by. -/
theorem exists_ofSortKeys_iff {registry : FieldRegistry ρ} {written : List SortKey} :
    (∃ order, ofSortKeys registry written = .ok order) ↔
      ∀ key ∈ written, ∃ field, registry.resolve key.field .sortable = .ok field := by
  simp only [← exists_bindKey_iff, ← Outcome.exists_mapM_iff, ofSortKeys_eq, Outcome.map_eq_ok_iff]
  constructor
  · rintro ⟨_, bound, resolved, -⟩
    exact ⟨bound, resolved⟩
  · rintro ⟨bound, resolved⟩
    exact ⟨_, bound, resolved, rfl⟩

theorem ofSortKeys_eq_error_iff {registry : FieldRegistry ρ} {written : List SortKey} {error : QueryError} :
    ofSortKeys registry written = .error error ↔
      Outcome.FirstError (fun key => registry.resolve key.field .sortable) written error := by
  rw [ofSortKeys_eq, Outcome.map_eq_error_iff, Outcome.mapM_eq_error_iff]
  exact Outcome.firstError_congr (fun _ => exists_bindKey_iff) fun _ => Outcome.map_eq_error_iff

/-- A written key stands for one field in one direction. -/
theorem rightUnique_bound (registry : FieldRegistry ρ) :
    Relator.RightUnique fun (key : SortKey) (bound : Field ρ × Direction) =>
      registry.get? key.field = some bound.1 ∧ bound.2 = key.direction := by
  rintro key bound other ⟨found, turns⟩ ⟨otherFound, otherTurns⟩
  exact Prod.ext (Option.some.inj (found.symm.trans otherFound)) (turns.trans otherTurns.symm)

/-- A sort list over registered fields is accepted if each of its keys, repeated ones included, names a field
that may be sorted by, and otherwise the first key that does not is refused. An accepted list keeps the first
key of each field, in order, and compares any two rows as all written keys do one after the other, of which the
descending ones reverse what they find. -/
theorem ofSortKeys_compares_by_all (fields : List (Field ρ)) (written : List SortKey) :
    let registry := FieldRegistry.ofList fields
    ((∃ order, ofSortKeys registry written = .ok order) ↔
      ∀ key ∈ written, ∃ field, registry.get? key.field = some field ∧
        field.capabilities.contains .sortable = true) ∧
    (∀ error, ofSortKeys registry written = .error error ↔
      Outcome.FirstError (fun key => registry.resolve key.field .sortable) written error) ∧
    ∀ order, ofSortKeys registry written = .ok order →
      ∃ bound : List (Field ρ × Direction),
        List.Forall₂ (fun key bound => registry.get? key.field = some bound.1 ∧ bound.2 = key.direction)
          written bound ∧
        order.keys = firsts (·.1.key) bound ∧ (order.keys.map (·.1.key)).Nodup ∧
        ∀ first second, order.compare first second =
          (bound.map fun key => match key.2 with
            | .ascending => (key.1.read first).sortOrder (key.1.read second)
            | .descending => ((key.1.read first).sortOrder (key.1.read second)).swap).foldr
              Ordering.then .eq := by
  intro registry
  have named : registry.FindsByName := FieldRegistry.findsByName_ofList fields
  refine ⟨?_, fun error => ofSortKeys_eq_error_iff, ?_⟩
  · rw [exists_ofSortKeys_iff]
    simp only [FieldRegistry.resolve_eq_ok_iff]
  · intro order accepted
    rw [ofSortKeys_eq] at accepted
    obtain ⟨bound, resolved, rfl⟩ := Outcome.map_eq_ok_iff.mp accepted
    have found := (Outcome.mapM_eq_ok_iff.mp resolved).imp fun _ _ => bindKey_eq_ok_iff.mp
    refine ⟨bound, found.imp fun _ _ parts => ⟨parts.1, parts.2.2⟩, rfl, nodup_map_firsts bound, ?_⟩
    intro first second
    refine (compareBy_firsts ?_).trans (compareBy_eq_foldr first second bound)
    intro one member other among same
    obtain ⟨key, -, keyFound, -⟩ := Outcome.exists_left_of_mem found member
    obtain ⟨otherKey, -, otherFound, -⟩ := Outcome.exists_left_of_mem found among
    exact named.get?_eq keyFound otherFound same

/-- A field is listed in both directions, and in two spellings. Its first key is kept and reverses the order, and the
last key would not have reversed it. -/
theorem ofSortKeys_compares_by_all_of_repeated :
    let level : Field (Value × Value) := .ofName "level" .number Prod.fst
    let batch : Field (Value × Value) := .ofName "batch" .text Prod.snd
    let registry := FieldRegistry.ofList [level, batch]
    let written : List SortKey := [⟨"level", .descending⟩, ⟨"batch", .ascending⟩, ⟨"LEVEL", .ascending⟩]
    ∃ order, ofSortKeys registry written = .ok order ∧
      order.keys = [(level, .descending), (batch, .ascending)] ∧
      (∀ first second : Value × Value, order.compare first second =
        (first.1.sortOrder second.1).swap.then
          ((first.2.sortOrder second.2).then ((first.1.sortOrder second.1).then .eq))) ∧
      order.compare (.number (.ofInt 1), .text "b") (.number (.ofInt 2), .text "a") = .gt := by
  intro level batch registry written
  have apart : level.key ≠ batch.key := by decide +kernel
  have levelFound (name : String) (same : Text.fold name = level.key) : registry.get? name = some level := by
    change ((FieldRegistry.empty.add level).add batch).get? name = _
    rw [FieldRegistry.get?_add, if_neg (by rwa [same]), FieldRegistry.get?_add, if_pos same]
  have first : registry.get? "level" = some level := levelFound _ (by decide +kernel)
  have second : registry.get? "batch" = some batch := (FieldRegistry.get?_add _ batch _).trans (if_pos rfl)
  have last : registry.get? "LEVEL" = some level := levelFound _ (by decide +kernel)
  obtain ⟨accepts, -, compares⟩ := ofSortKeys_compares_by_all [level, batch] written
  have sortable : ∀ key ∈ written, ∃ field, registry.get? key.field = some field ∧
      field.capabilities.contains .sortable = true :=
    List.forall_mem_cons.mpr ⟨⟨level, first, rfl⟩, List.forall_mem_cons.mpr ⟨⟨batch, second, rfl⟩,
      List.forall_mem_singleton.mpr ⟨level, last, rfl⟩⟩⟩
  obtain ⟨order, accepted⟩ := accepts.mpr sortable
  obtain ⟨bound, found, kept, -, all⟩ := compares order accepted
  have same : bound = [(level, .descending), (batch, .ascending), (level, .ascending)] :=
    (rightUnique_bound registry).forall₂ found
      (.cons ⟨first, rfl⟩ (.cons ⟨second, rfl⟩ (.cons ⟨last, rfl⟩ .nil)))
  subst same
  refine ⟨order, accepted, kept.trans ?_, all, (all _ _).trans ?_⟩
  · simp [firsts_cons, firsts_nil, apart.symm]
  · decide +kernel

end RowOrder

end RecordQuery
