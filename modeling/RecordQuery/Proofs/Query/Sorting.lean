import Mathlib.Data.List.FinRange
import RecordQuery.Proofs.Value.Order
import RecordQuery.Query.Basic

/-! # Selected rows in order

Defined values are sorted by their places, so that rows with defined keys are compared by a total preorder,
whatever the directions are. A query therefore takes the places of the selected rows, each of them once, and
leaves equal rows in the order of the input.
-/

namespace RecordQuery

variable {ρ α : Type}

/-- Items are ordered by what is seen of them, in either direction. -/
theorem Direction.transCmp_orient {β : Type} (order : β → β → Ordering) [Std.TransCmp order]
    (direction : Direction) (view : α → β) :
    Std.TransCmp fun first second => direction.orient (order (view first) (view second)) := by
  cases direction with
  | ascending =>
    change Std.TransCmp fun first second => order (view first) (view second)
    have : Std.OrientedCmp fun first second => order (view first) (view second) := ⟨Std.OrientedCmp.eq_swap⟩
    exact ⟨Std.TransCmp.isLE_trans⟩
  | descending =>
    have turned : (fun first second => descending.orient (order (view first) (view second))) =
        fun first second => order (view second) (view first) := by
      funext first second
      exact Std.OrientedCmp.eq_swap.symm
    have : Std.OrientedCmp fun first second => order (view second) (view first) := ⟨Std.OrientedCmp.eq_swap⟩
    rw [turned]
    exact ⟨fun before behind => Std.TransCmp.isLE_trans behind before⟩

/-- Rows whose keys are defined are compared by a total preorder: each key adds a lexicographic step. -/
theorem RowOrder.transCmp_compareBy {item : α → ρ} {keys : List (Field ρ × Direction)}
    (defined : ∀ index, ∀ key ∈ keys, key.1.read (item index) ≠ .number .nan) :
    Std.TransCmp fun first second => compareBy (item first) (item second) keys := by
  induction keys with
  | nil =>
    have : Std.OrientedCmp fun first second => compareBy (item first) (item second) [] := ⟨rfl⟩
    exact ⟨fun _ _ => rfl⟩
  | cons key rest ih =>
    obtain ⟨field, direction⟩ := key
    have value (index : α) : field.read (item index) ≠ .number .nan := defined index _ List.mem_cons_self
    have lexicographic :
        (fun first second => compareBy (item first) (item second) ((field, direction) :: rest)) =
          compareLex
            (fun first second =>
              direction.orient ((field.read (item first)).placeOrder (field.read (item second))))
            fun first second => compareBy (item first) (item second) rest := by
      funext first second
      rw [compareBy, Value.sortOrder_eq_placeOrder (value first) (value second), compareLex]
    have leading := direction.transCmp_orient Value.placeOrder fun index => field.read (item index)
    have remaining := ih fun index key member => defined index key (List.mem_cons_of_mem _ member)
    rw [lexicographic]
    infer_instance

section Stability

variable {count : Nat} {order : Fin count → Fin count → Ordering} [Std.TransCmp order]

/-- A place with its index is lower if it is less, or equal with a smaller index. -/
private theorem zipIdxLE_iff {first second : Fin count × Nat} :
    List.zipIdxLE (fun first second => order first second != .gt) first second = true ↔
      order first.1 second.1 ≠ .gt ∧ (order first.1 second.1 = .eq → first.2 ≤ second.2) := by
  have turned : order second.1 first.1 = (order first.1 second.1).swap := Std.OrientedCmp.eq_swap
  simp only [List.zipIdxLE, turned]
  cases order first.1 second.1 <;> simp

variable (order) in
private theorem not_gt_trans (first second third : Fin count) (before : order first second != .gt)
    (behind : order second third != .gt) : order first third != .gt := by
  rw [bne_iff_ne, Ne, ← Ordering.isLE_iff_ne_gt] at before behind ⊢
  exact Std.TransCmp.isLE_trans before behind

variable (order) in
private theorem not_gt_total (first second : Fin count) :
    (order first second != .gt || order second first != .gt) = true := by
  have turned : order second first = (order first second).swap := Std.OrientedCmp.eq_swap
  rw [turned]
  cases order first second <;> rfl

/-- Sorting an ascending list of places turns no two equal ones around. -/
private theorem pairwise_mergeSort_le {places : List (Fin count)} (ascending : places.Pairwise (· < ·)) :
    (places.mergeSort fun first second => order first second != .gt).Pairwise fun earlier later =>
      order earlier later ≠ .gt ∧ (order earlier later = .eq → earlier ≤ later) := by
  -- The stable sort is the sort by the order and then by the index in the list.
  rw [← List.mergeSort_zipIdx, List.pairwise_map]
  have sorted := List.pairwise_mergeSort (List.zipIdxLE_trans (not_gt_trans order))
    (List.zipIdxLE_total (not_gt_total order)) places.zipIdx
  refine sorted.imp_of_mem ?_
  rintro ⟨earlier, index⟩ ⟨later, laterIndex⟩ member laterMember lower
  obtain ⟨bound, found⟩ := List.mem_zipIdx' (List.mem_mergeSort.mp member)
  obtain ⟨laterBound, laterFound⟩ := List.mem_zipIdx' (List.mem_mergeSort.mp laterMember)
  obtain ⟨below, same⟩ := zipIdxLE_iff.mp lower
  refine ⟨below, fun equal => ?_⟩
  change earlier ≤ later
  rw [found, laterFound]
  rcases Nat.lt_or_eq_of_le (same equal) with less | rfl
  · exact Fin.le_of_lt (List.pairwise_iff_getElem.mp ascending _ _ bound laterBound less)
  · exact Fin.le_refl _

/-- Sorting an ascending list of places leaves equal ones in ascending order. -/
theorem pairwise_mergeSort_ascending {places : List (Fin count)} (ascending : places.Pairwise (· < ·)) :
    (places.mergeSort fun first second => order first second != .gt).Pairwise fun earlier later =>
      order earlier later ≠ .gt ∧ (order earlier later = .eq → earlier < later) := by
  have distinct : (places.mergeSort fun first second => order first second != .gt).Nodup :=
    (List.mergeSort_perm _ _).nodup_iff.mpr (ascending.imp fun less => Fin.ne_of_lt less)
  refine ((pairwise_mergeSort_le ascending).and distinct).imp ?_
  rintro earlier later ⟨⟨below, same⟩, differs⟩
  exact ⟨below, fun equal => lt_of_le_of_ne (same equal) differs⟩

end Stability

namespace Query

/-- If no key is undefined, the rows of the input are compared by a total preorder, and the result shows the
places of exactly the selected rows, each of them once: no earlier row is greater than a later one, and equal
rows stand in the order of their places. -/
theorem apply_eq_map_places {query : Query ρ} {rows : List ρ}
    (defined : ∀ row ∈ rows, ∀ key ∈ query.order.keys, key.1.read row ≠ .number .nan) :
    Std.TransCmp (fun first second : {row // row ∈ rows} => query.order.compare first.1 second.1) ∧
    ∃ places : List (Fin rows.length),
      query.apply rows = places.map rows.get ∧ places.Nodup ∧
      (∀ place, place ∈ places ↔ query.selects (rows.get place) = true) ∧
      places.Pairwise fun earlier later =>
        query.order.compare (rows.get earlier) (rows.get later) ≠ .gt ∧
        (query.order.compare (rows.get earlier) (rows.get later) = .eq → earlier < later) := by
  have preorder {α : Type} (item : α → ρ) (inside : ∀ index, item index ∈ rows) :
      Std.TransCmp fun first second => query.order.compare (item first) (item second) :=
    RowOrder.transCmp_compareBy fun index key member => defined _ (inside index) key member
  refine ⟨preorder Subtype.val Subtype.property, ?_⟩
  have places := preorder rows.get (rows.get_mem ·)
  let selected := (List.finRange rows.length).filter fun place => query.selects (rows.get place)
  have ascending : selected.Pairwise (· < ·) := (List.pairwise_lt_finRange _).filter _
  have sorted := List.mergeSort_perm selected fun first second =>
    query.order.compare (rows.get first) (rows.get second) != .gt
  refine ⟨_, ?_, sorted.nodup_iff.mpr (ascending.imp fun less => Fin.ne_of_lt less), ?_,
    pairwise_mergeSort_ascending ascending⟩
  · have shown : selected.map rows.get = rows.filter query.selects := by
      change ((List.finRange rows.length).filter (query.selects ∘ rows.get)).map rows.get = _
      rw [← List.filter_map, List.map_get_finRange]
    rw [apply, RowOrder.sort, ← shown]
    symm
    apply List.map_mergeSort
    exact fun _ _ _ _ => rfl
  · intro place
    rw [sorted.mem_iff]
    simp [selected]

/-- Two keys in both directions over nulls, values of several kinds and equal rows. -/
theorem apply_eq_map_places_of_ties :
    let read : String → ValueType → Field (String → Value) := fun name type => .ofName name type (· name)
    let catalog : Catalog (String → Value) :=
      ⟨.ofList [read "group" (.variants ["a", "b"]), read "level" .number],
        ⟨[View.ofFields "list" ["group"]], some "list"⟩, .standard⟩
    let request : Request := ⟨some "not level > 7", some "group:desc, level", none⟩
    let row : Value → Value → String → Value := fun group level name =>
      if name = "group" then group else level
    let rows := [row (.variant "a") (.number (.ofInt 3)), row .null (.text "high"),
      row (.text "a") (.number (.ofInt 3)), row (.boolean true) .null,
      row (.variant "b") (.number (.ofInt 9)), row .null (.number (.ofInt 3))]
    ∃ query, catalog.query request = .ok query ∧
      (∀ row ∈ rows, ∀ key ∈ query.order.keys, key.1.read row ≠ .number .nan) ∧
      Std.TransCmp (fun first second : {row // row ∈ rows} => query.order.compare first.1 second.1) ∧
      ∃ places : List (Fin rows.length),
        query.apply rows = places.map rows.get ∧ places.Nodup ∧
        (∀ place, place ∈ places ↔ query.selects (rows.get place) = true) ∧
        places.Pairwise fun earlier later =>
          query.order.compare (rows.get earlier) (rows.get later) ≠ .gt ∧
          (query.order.compare (rows.get earlier) (rows.get later) = .eq → earlier < later) := by
  intro read catalog request row rows
  have checked : (catalog.query request).toOption.any (fun query =>
      decide (∀ row ∈ rows, ∀ key ∈ query.order.keys, key.1.read row ≠ .number .nan)) = true := by
    decide +kernel
  cases accepted : catalog.query request with
  | error refused =>
    rw [accepted] at checked
    cases checked
  | ok query =>
    rw [accepted] at checked
    have defined := of_decide_eq_true checked
    exact ⟨query, rfl, defined, apply_eq_map_places defined⟩

end Query

end RecordQuery
