import Mathlib.Data.List.Induction

/-! # The first items of their keys

Output names and sort keys are collected one after the other, and an item whose key is already there is
dropped. What stays are the items in front of which no item has the same key, in their order.
-/

namespace RecordQuery

variable {α κ : Type} [BEq κ] {key : α → κ} {items kept : List α} {item : α}

/-- The items in front of which no item has the same key. -/
def firsts (key : α → κ) (items : List α) : List α := items.eraseDupsBy fun item other => key item == key other

/-- Adds an item, unless one of its key is there. -/
def addFirst (key : α → κ) (kept : List α) (item : α) : List α :=
  if kept.any fun other => key other == key item then kept else kept ++ [item]

theorem firsts_nil : firsts key [] = [] := List.eraseDupsBy_nil

theorem firsts_cons : firsts key (item :: items) =
    item :: firsts key (items.filter fun other => !(key other == key item)) := by
  rw [firsts, List.eraseDupsBy_cons, firsts]
  simp

variable [LawfulBEq κ]

/-- Items are added to others if their keys are new and they are the first ones of their keys. -/
theorem foldl_addFirst (items kept : List α) : items.foldl (addFirst key) kept =
    kept ++ firsts key (items.filter fun item => !kept.any fun other => key other == key item) := by
  induction items generalizing kept with
  | nil => rw [List.foldl_nil, List.filter_nil, firsts_nil, List.append_nil]
  | cons item rest ih =>
    rw [List.foldl_cons, ih, addFirst]
    by_cases seen : (kept.any fun other => key other == key item) = true
    · rw [if_pos seen, List.filter_cons_of_neg (by rw [seen]; decide)]
    · rw [if_neg seen, List.filter_cons_of_pos (by simpa using seen), firsts_cons, List.filter_filter,
        List.append_assoc, List.singleton_append]
      congr 4
      funext other
      simp [List.any_append, Bool.and_comm, BEq.comm (a := key item)]

/-- The first items of their keys are what is left when one item after the other is added. -/
theorem foldl_addFirst_nil (items : List α) : items.foldl (addFirst key) [] = firsts key items := by
  rw [foldl_addFirst, List.nil_append]
  exact congrArg _ (List.filter_eq_self.mpr fun _ _ => rfl)

theorem firsts_concat (items : List α) (item : α) :
    firsts key (items ++ [item]) = addFirst key (firsts key items) item := by
  rw [← foldl_addFirst_nil, List.foldl_append, foldl_addFirst_nil, List.foldl_cons, List.foldl_nil]

theorem mem_of_mem_firsts (member : item ∈ firsts key items) : item ∈ items := by
  induction items using List.reverseRecOn with
  | nil => exact member
  | append_singleton items last ih =>
    rw [firsts_concat, addFirst] at member
    split at member
    · exact List.mem_append_left _ (ih member)
    · exact List.mem_append.mpr ((List.mem_append.mp member).imp_left ih)

/-- No two of the first items have the same key. -/
theorem nodup_map_firsts (items : List α) : ((firsts key items).map key).Nodup := by
  induction items using List.reverseRecOn with
  | nil => exact .nil
  | append_singleton items last ih =>
    rw [firsts_concat, addFirst]
    split
    · exact ih
    · rename_i fresh
      rw [List.map_append, List.map_singleton]
      refine List.nodup_append.mpr ⟨ih, List.pairwise_singleton _ _, ?_⟩
      rintro _ member _ last same
      obtain ⟨other, among, rfl⟩ := List.mem_map.mp member
      exact fresh (List.any_eq_true.mpr ⟨other, among, by simpa [same] using last⟩)

end RecordQuery
