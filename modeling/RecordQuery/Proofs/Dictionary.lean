import Mathlib.Data.List.Sort
import RecordQuery.Dictionary

/-! # Dictionaries with ascending keys

What is put into a dictionary keeps its keys in ascending order. With that order a dictionary is determined by the
values of its keys, however they came into it.
-/

namespace RecordQuery.Dictionary

variable {α : Type} {dictionary other : Dictionary α} {key sought : String} {value : α}

/-- The keys ascend, so that each of them stands once. -/
def Ascending (dictionary : Dictionary α) : Prop := dictionary.keys.Pairwise (· < ·)

theorem compare_eq_lt_iff : compare key sought = .lt ↔ key < sought := compareOfLessAndEq_eq_lt

theorem compare_eq_gt_iff : compare key sought = .gt ↔ sought < key := by
  rw [Std.OrientedOrd.eq_swap, Ordering.swap_eq_gt, compare_eq_lt_iff]

theorem mem_keys_insertEntry {entries : List (String × α)} :
    sought ∈ (insertEntry key value entries).map Prod.fst ↔ sought = key ∨ sought ∈ entries.map Prod.fst := by
  induction entries with
  | nil => exact List.mem_cons
  | cons entry rest ih =>
    obtain ⟨first, kept⟩ := entry
    unfold insertEntry
    split
    · exact List.mem_cons
    · rename_i equal
      obtain rfl := Std.compare_eq_iff_eq.mp equal
      simp only [List.map_cons, List.mem_cons, or_self_left]
    · rw [List.map_cons, List.map_cons, List.mem_cons, List.mem_cons, ih]
      exact or_left_comm

theorem ascending_empty : (empty : Dictionary α).Ascending := .nil

/-- A key is put between the smaller and the greater ones. -/
theorem Ascending.insert (ascending : dictionary.Ascending) (key : String) (value : α) :
    (dictionary.insert key value).Ascending := by
  obtain ⟨entries⟩ := dictionary
  unfold Ascending Dictionary.insert keys at *
  dsimp only at *
  induction entries with
  | nil => exact List.pairwise_singleton _ _
  | cons entry rest ih =>
    obtain ⟨first, kept⟩ := entry
    obtain ⟨least, others⟩ := List.pairwise_cons.mp ascending
    unfold insertEntry
    split
    · rename_i less
      have front := compare_eq_lt_iff.mp less
      refine List.pairwise_cons.mpr ⟨?_, ascending⟩
      exact List.forall_mem_cons.mpr ⟨front, fun other member => String.lt_trans front (least other member)⟩
    · rename_i equal
      obtain rfl := Std.compare_eq_iff_eq.mp equal
      exact ascending
    · rename_i greater
      refine List.pairwise_cons.mpr ⟨fun other member => ?_, ih others⟩
      rcases mem_keys_insertEntry.mp member with rfl | behind
      · exact compare_eq_gt_iff.mp greater
      · exact least other behind

/-- In ascending order an entry is what its key is looked up as. -/
theorem Ascending.mem_entries_iff (ascending : dictionary.Ascending) :
    (key, value) ∈ dictionary.entries ↔ dictionary.get? key = some value := by
  rw [get?, List.lookup_eq_some_iff]
  constructor
  · intro member
    obtain ⟨front, back, whole⟩ := List.append_of_mem member
    refine ⟨front, back, whole, fun entry before => ?_⟩
    unfold Ascending keys at ascending
    rw [whole, List.map_append, List.pairwise_append] at ascending
    have smaller := ascending.2.2 entry.1 (List.mem_map_of_mem before) key List.mem_cons_self
    rw [bne_iff_ne]
    rintro rfl
    exact String.lt_irrefl _ smaller
  · rintro ⟨front, back, whole, -⟩
    rw [whole]
    exact List.mem_append_right _ List.mem_cons_self

theorem Ascending.mem_keys_iff (ascending : dictionary.Ascending) :
    key ∈ dictionary.keys ↔ ∃ value, dictionary.get? key = some value := by
  simp only [keys, List.mem_map, Prod.exists, exists_and_right, exists_eq_right, ascending.mem_entries_iff]

/-- Two dictionaries with the same values are the same. -/
theorem Ascending.eq_of_get? (ascending : dictionary.Ascending) (otherAscending : other.Ascending)
    (same : ∀ key, dictionary.get? key = other.get? key) : dictionary = other := by
  have irreflexive : Std.Irrefl fun first second : String × α => first.1 < second.1 := ⟨fun _ => String.lt_irrefl _⟩
  have antisymmetric : Std.Antisymm fun first second : String × α => first.1 < second.1 :=
    ⟨fun _ _ less greater => absurd (String.lt_trans less greater) (String.lt_irrefl _)⟩
  have entries : dictionary.entries = other.entries := by
    refine (List.pairwise_map.mp ascending).eq_of_mem_iff (List.pairwise_map.mp otherAscending) ?_
    rintro ⟨key, value⟩
    rw [ascending.mem_entries_iff, otherAscending.mem_entries_iff, same]
  exact congrArg mk entries

end RecordQuery.Dictionary
