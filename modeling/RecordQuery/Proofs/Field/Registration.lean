import Mathlib.Data.List.Induction
import RecordQuery.Proofs.Dictionary
import RecordQuery.Proofs.Query.Binding
import RecordQuery.Proofs.Text.Lowercase

/-! # The registry of fields after registrations

Whatever fields were registered before, the last one under a folded name is found by every name of that folded form,
and the folded names are listed in ascending order. Since a folded name is its own folded form, each listed name
finds its field again. So the order of registration counts only among fields of the same folded name.
-/

namespace RecordQuery.FieldRegistry

variable {ρ : Type} {fields reordered : List (Field ρ)} {key name : String}

theorem ofList_concat (fields : List (Field ρ)) (field : Field ρ) :
    ofList (fields ++ [field]) = (ofList fields).add field := by
  rw [ofList, List.foldl_append, List.foldl_cons, List.foldl_nil, ofList]

theorem findRev?_concat (sought : Field ρ → Bool) (fields : List (Field ρ)) (field : Field ρ) :
    (fields ++ [field]).findRev? sought = if sought field then some field else fields.findRev? sought := by
  rw [List.findRev?_eq_find?_reverse, List.reverse_append, List.reverse_singleton, List.singleton_append,
    List.find?_cons, ← List.findRev?_eq_find?_reverse]
  cases sought field <;> rfl

/-- The dictionary of the registry has the fields that were registered last. -/
theorem get?_fields_ofList (fields : List (Field ρ)) (key : String) :
    (ofList fields).fields.get? key = fields.findRev? fun field => field.key == key := by
  induction fields using List.reverseRecOn with
  | nil => rfl
  | append_singleton fields field ih =>
    rw [ofList_concat, add, Dictionary.get?_insert, ih, findRev?_concat]
    simp only [beq_iff_eq, eq_comm (a := key)]

theorem get?_ofList (fields : List (Field ρ)) (name : String) :
    (ofList fields).get? name = fields.findRev? fun field => field.key == Text.fold name :=
  get?_fields_ofList fields (Text.fold name)

/-- The keys ascend after any registrations. -/
theorem ascending_ofList (fields : List (Field ρ)) : (ofList fields).fields.Ascending :=
  List.foldlRecOn fields add (motive := fun registry => registry.fields.Ascending) Dictionary.ascending_empty
    fun _ ascending field _ => ascending.insert field.key field

theorem mem_keys_ofList : key ∈ (ofList fields).keys ↔ ∃ field ∈ fields, field.key = key := by
  rw [keys, (ascending_ofList fields).mem_keys_iff, get?_fields_ofList, ← Option.isSome_iff_exists,
    List.findRev?_eq_find?_reverse, List.find?_isSome]
  simp only [List.mem_reverse, beq_iff_eq]

/-- A listed key is a folded name, and finds the field whose key it is. -/
theorem get?_of_mem_keys (listed : key ∈ (ofList fields).keys) :
    Text.fold key = key ∧ ∃ field ∈ fields, (ofList fields).get? key = some field ∧ field.key = key := by
  have folded : Text.fold key = key := by
    obtain ⟨registered, -, rfl⟩ := mem_keys_ofList.mp listed
    exact Text.fold_fold registered.name
  obtain ⟨found, lookup⟩ := (ascending_ofList fields).mem_keys_iff.mp listed
  have latest : fields.reverse.find? (fun field => field.key == key) = some found := by
    rw [← List.findRev?_eq_find?_reverse, ← get?_fields_ofList, lookup]
  have named := List.find?_some latest
  refine ⟨folded, found, List.mem_reverse.mp (List.mem_of_find?_eq_some latest), ?_, beq_iff_eq.mp named⟩
  rw [get?, folded, lookup]

/-- The field registered last under a key is the last one among those with the key. -/
theorem findRev?_eq_getLast?_filter (fields : List (Field ρ)) (key : String) :
    (fields.findRev? fun field => field.key == key) = (fields.filter fun field => field.key == key).getLast? := by
  rw [List.findRev?_eq_find?_reverse, List.getLast?_filter]

/-- Only the order among fields of the same key counts. -/
theorem ofList_eq_of_filter (same : ∀ key, (reordered.filter fun field => field.key == key) =
    fields.filter fun field => field.key == key) : ofList reordered = ofList fields := by
  have contents : (ofList reordered).fields = (ofList fields).fields := by
    refine (ascending_ofList reordered).eq_of_get? (ascending_ofList fields) fun key => ?_
    rw [get?_fields_ofList, get?_fields_ofList, findRev?_eq_getLast?_filter, same, findRev?_eq_getLast?_filter]
  exact congrArg mk contents

/-- A registry finds the field that was registered last under the folded form of a name. Its keys are the folded
names in ascending order, each of which finds the field of that key. To resolve a name is to find a field that has
the capability; a name that finds none is refused with all keys, and a field without the capability for the lack of
it. Registering the same fields in another order, but those of each key in the same one, makes the same registry. -/
theorem ofList_finds_latest (fields : List (Field ρ)) :
    (∀ name, (ofList fields).get? name = fields.findRev? fun field => Text.fold field.name == Text.fold name) ∧
    ((ofList fields).keys.Pairwise (· < ·) ∧
      (∀ key, key ∈ (ofList fields).keys ↔ ∃ field ∈ fields, Text.fold field.name = key) ∧
      (∀ key ∈ (ofList fields).keys, Text.fold key = key ∧
        ∃ field ∈ fields, (ofList fields).get? key = some field ∧ Text.fold field.name = key) ∧
      (ofList fields).size = (ofList fields).keys.length) ∧
    (∀ name required,
      ((ofList fields).resolve name required = .error (.unknownField name (ofList fields).keys) ↔
        (ofList fields).get? name = none) ∧
      ((ofList fields).resolve name required = .error (.missingCapability name required) ↔
        ∃ field, (ofList fields).get? name = some field ∧ field.capabilities.contains required = false) ∧
      ∀ field, (ofList fields).resolve name required = .ok field ↔
        (ofList fields).get? name = some field ∧ field.capabilities.contains required = true) ∧
    ∀ reordered : List (Field ρ), (∀ key, (reordered.filter fun field => Text.fold field.name == key) =
      fields.filter fun field => Text.fold field.name == key) → ofList reordered = ofList fields := by
  refine ⟨get?_ofList fields, ⟨ascending_ofList fields, fun _ => mem_keys_ofList, fun _ => get?_of_mem_keys, ?_⟩,
    fun name required => ⟨?_, ?_, fun _ => resolve_eq_ok_iff⟩, fun _ => ofList_eq_of_filter⟩
  · exact (List.length_map _).symm
  · simp [resolve_eq_error_iff]
  · simp [resolve_eq_error_iff]

end RecordQuery.FieldRegistry
