import RecordQuery.Proofs.Query.Suitability
import RecordQuery.Proofs.Sql.Pieces
import RecordQuery.Proofs.Sql.Selection

/-! # SQL and memory sort rows alike

The sorting clause is read from the tokens of a statement as keys, each with its column, its direction and the
place of nulls. SQL compares two rows by one key after the other and puts nulls where the key says, in either
direction; in memory null is the lowest value and the direction turns the whole order around. Both give the
same order, since nulls are written to come first where a key ascends and last where it descends.
-/

namespace RecordQuery

namespace Sql

/-- A key of a sorting clause: its column, whether greater values come first, and whether nulls do. -/
structure OrderItem where
  column : String
  descends : Bool
  nullsFirst : Bool
deriving DecidableEq, Repr

/-- Whether a key with this word descends. -/
def descends? : String → Option Bool
  | "ASC" => some false
  | "DESC" => some true
  | _ => none

/-- Whether nulls come first with this word behind NULLS. -/
def nullsFirst? : String → Option Bool
  | "FIRST" => some true
  | "LAST" => some false
  | _ => none

/-- The key of a column and the three words behind it. -/
def OrderItem.ofWords? (column direction nulls place : String) : Option OrderItem := do
  let descends ← descends? direction
  let nullsFirst ← nullsFirst? place
  if nulls = "NULLS" then some ⟨column, descends, nullsFirst⟩ else none

/-- Reads keys with commas between them. -/
def orderItems? : List Token → Option (List OrderItem)
  | .identifier column :: .word direction :: .word nulls :: .word place :: rest => do
    let item ← OrderItem.ofWords? (String.ofList column) (String.ofList direction) (String.ofList nulls)
      (String.ofList place)
    match rest with
    | [] => some [item]
    | .sign [','] :: more => (orderItems? more).map (item :: ·)
    | _ => none
  | _ => none

/-- Reads the sorting clause of a statement, which need not have one. -/
def orderBy? (tokens : List Token) : Option (List OrderItem) :=
  match tokens.dropWhile (· != .word "ORDER".toList) with
  | [] => some []
  | _ :: .word word :: keys => if word = "BY".toList then orderItems? keys else none
  | _ => none

/-- The order of two values by a key, which gives nulls a place of their own. -/
def OrderItem.order? (item : OrderItem) (first second : Value) : Option Ordering :=
  match first, second with
  | .null, .null => some .eq
  | .null, _ => some (if item.nullsFirst then .lt else .gt)
  | _, .null => some (if item.nullsFirst then .gt else .lt)
  | _, _ => (first.compare? second).map fun order => if item.descends then order.swap else order

/-- The order of two rows of columns by keys, of which the first that tells them apart decides. -/
def rowOrder? (first second : String → Value) : List OrderItem → Option Ordering
  | [] => some .eq
  | item :: rest => do
    let order ← item.order? (first item.column) (second item.column)
    if order = .eq then rowOrder? first second rest else some order

/-- The key that a column to sort by is meant to be. -/
def SortColumn.item (sortColumn : SortColumn) : OrderItem :=
  match sortColumn.direction with
  | .ascending => ⟨sortColumn.column, false, true⟩
  | .descending => ⟨sortColumn.column, true, false⟩

section Reading

/-- A column to sort by is written with four tokens that make up its key. -/
private theorem exists_words (sortColumn : SortColumn) :
    ∃ direction place : String,
      sortColumn.pieces.flatMap Piece.tokens =
        [.identifier sortColumn.column.toList, .word direction.toList, .word "NULLS".toList,
          .word place.toList] ∧
      OrderItem.ofWords? sortColumn.column direction "NULLS" place = some sortColumn.item := by
  obtain ⟨column, direction⟩ := sortColumn
  cases direction with
  | ascending => exact ⟨"ASC", "FIRST", rfl, rfl⟩
  | descending => exact ⟨"DESC", "LAST", rfl, rfl⟩

/-- The columns to sort by are read as their keys. -/
theorem orderItems?_commaSeparated {order : List SortColumn} (nonempty : order ≠ []) :
    orderItems? ((commaSeparated (order.map SortColumn.pieces)).flatMap Piece.tokens) =
      some (order.map SortColumn.item) := by
  induction order with
  | nil => exact absurd rfl nonempty
  | cons sortColumn rest ih =>
    obtain ⟨direction, place, tokens, words⟩ := exists_words sortColumn
    cases rest with
    | nil =>
      change orderItems? (sortColumn.pieces.flatMap Piece.tokens) = _
      rw [tokens]
      simp only [orderItems?, String.ofList_toList, words]
      rfl
    | cons second more =>
      have remaining := ih (List.cons_ne_nil _ _)
      have separated : (commaSeparated ((sortColumn :: second :: more).map SortColumn.pieces)).flatMap
          Piece.tokens = sortColumn.pieces.flatMap Piece.tokens ++ .sign [','] ::
            (commaSeparated ((second :: more).map SortColumn.pieces)).flatMap Piece.tokens := by
        simp [commaSeparated, Piece.tokens]
      rw [separated, tokens]
      simp only [List.cons_append, List.nil_append, orderItems?, String.ofList_toList, words, remaining]
      rfl

/-- The sorting clause of a statement is read as the keys of its columns. -/
theorem Statement.orderBy?_tokens (statement : Statement) :
    orderBy? (statement.pieces.flatMap Piece.tokens) = some (statement.order.map SortColumn.item) := by
  have front : ∀ token ∈ { statement with order := [] }.pieces.flatMap Piece.tokens,
      (token != .word "ORDER".toList) = true :=
    fun token member => bne_iff_ne.mpr fun same => statement.order_not_mem_tokens (same ▸ member)
  unfold orderBy?
  rw [pieces_eq_append, List.flatMap_append, List.dropWhile_append_of_pos front]
  by_cases unsorted : statement.order = []
  · rw [orderPieces, if_pos unsorted, unsorted]
    rfl
  · rw [orderPieces, if_neg unsorted]
    exact orderItems?_commaSeparated unsorted

end Reading

section Comparison

/-- Nulls aside, a key compares values in its direction. -/
private theorem order?_of_ne_null {item : OrderItem} {first second : Value} (present : first ≠ .null)
    (otherPresent : second ≠ .null) : item.order? first second =
      (first.compare? second).map fun order => if item.descends then order.swap else order := by
  unfold OrderItem.order?
  split
  · exact absurd rfl present
  · exact absurd rfl present
  · exact absurd rfl otherPresent
  · rfl

/-- A key orders two values of one type as memory does in its direction, also where one of them is null. -/
theorem order?_item {type : ValueType} {first second : Value} (column : String) (direction : Direction)
    (fits : type.holds first) (other : type.holds second) :
    (SortColumn.item ⟨column, direction⟩).order? first second =
      some (direction.orient (first.sortOrder second)) := by
  by_cases null : first = .null
  · subst null
    cases direction <;> cases second <;> rfl
  · by_cases otherNull : second = .null
    · subst otherNull
      cases direction <;> cases first <;> rfl
    · obtain ⟨order, compared⟩ := ValueType.exists_compare? fits null other otherNull
      rw [order?_of_ne_null null otherNull, Value.sortOrder, compared]
      cases direction <;> rfl

/-- Rows are compared by the written keys as they are by the keys in memory. -/
theorem rowOrder?_map_item {ρ : Type} {columns others : String → Value} {first second : ρ}
    {keys : List (Field ρ × Direction)} (stored : ∀ key ∈ keys, Stores columns first key.1)
    (otherStored : ∀ key ∈ keys, Stores others second key.1) :
    rowOrder? columns others (keys.map fun key => SortColumn.item ⟨key.1.column, key.2⟩) =
      some (RowOrder.compareBy first second keys) := by
  induction keys with
  | nil => rfl
  | cons key rest ih =>
    obtain ⟨field, direction⟩ := key
    obtain ⟨same, fits⟩ := stored _ List.mem_cons_self
    obtain ⟨otherSame, otherFits⟩ := otherStored _ List.mem_cons_self
    have remaining := ih (fun key member => stored key (List.mem_cons_of_mem _ member))
      fun key member => otherStored key (List.mem_cons_of_mem _ member)
    have leading := order?_item field.column direction fits otherFits
    have column : (SortColumn.item ⟨field.column, direction⟩).column = field.column := by
      cases direction <;> rfl
    rw [List.map_cons, rowOrder?, column, same, otherSame, leading, remaining, RowOrder.compareBy]
    cases direction.orient ((field.read first).sortOrder (field.read second)) <;> rfl

end Comparison

end Sql

/-- The text of a statement sorts by keys that compare two rows as the order of an accepted sort list does,
whatever else the statement selects. The columns hold null or a defined value of the type of each field. -/
theorem RowOrder.rowOrder?_eq_compare {ρ : Type} {registry : FieldRegistry ρ} {written : List SortKey}
    {order : RowOrder ρ} (accepted : ofSortKeys registry written = .ok order)
    {columns others : String → Value} {first second : ρ}
    (stored : ∀ key ∈ written, ∀ field, registry.resolve key.field .sortable = .ok field →
      Sql.Stores columns first field ∧ Sql.Stores others second field)
    (condition? : Option (Condition ρ)) (projection : Projection ρ) (table : String) :
    ∃ tokens items,
      Sql.tokens? (Sql.Statement.ofQuery table ⟨condition?, order, projection⟩).text = some tokens ∧
      Sql.orderBy? tokens = some items ∧
      Sql.rowOrder? columns others items = some (order.compare first second) := by
  obtain ⟨keys, added, rfl⟩ := Outcome.map_eq_ok_iff.mp accepted
  have sorted : ∀ key ∈ keys, Sql.Stores columns first key.1 ∧ Sql.Stores others second key.1 := by
    intro key member
    rcases resolved_of_addKeys added member with before | ⟨source, among, found⟩
    · cases before
    · exact stored source among key.1 found
  refine ⟨_, _, Sql.Statement.tokens?_text _, Sql.Statement.orderBy?_tokens _, ?_⟩
  rw [Sql.Statement.ofQuery, List.map_map]
  exact Sql.rowOrder?_map_item (fun key member => (sorted key member).1) fun key member =>
    (sorted key member).2

/-- Nulls on either side, a field in both letter cases and both directions. -/
theorem RowOrder.rowOrder?_eq_compare_of_nulls :
    let read : String → ValueType → Field (String → Value) := fun name type => .ofName name type (· name)
    let registry : FieldRegistry (String → Value) := .ofList [read "age" .number, read "name" .text]
    let written : List SortKey := [⟨"Age", .descending⟩, ⟨"name", .ascending⟩, ⟨"AGE", .ascending⟩]
    let first := fun column => if column = "age" then .null else .text "a"
    let second := fun column => if column = "age" then .number (.ofInt 3) else .null
    ∃ order, ofSortKeys registry written = .ok order ∧
      (∀ key ∈ written, ∀ field, registry.resolve key.field .sortable = .ok field →
        Sql.Stores first first field ∧ Sql.Stores second second field) ∧
      ∃ tokens items,
        Sql.tokens? (Sql.Statement.ofQuery "people" ⟨none, order, ⟨View.ofFields "none" [], []⟩⟩).text =
          some tokens ∧
        Sql.orderBy? tokens = some items ∧
        Sql.rowOrder? first second items = some (order.compare first second) := by
  intro read registry written first second
  have sortable : (ofSortKeys registry written).isOk = true := by decide +kernel
  have checked : ∀ key ∈ written, (registry.resolve key.field .sortable).toOption.all (fun field =>
      decide (Sql.Stores first first field ∧ Sql.Stores second second field)) = true := by decide +kernel
  have stored : ∀ key ∈ written, ∀ field, registry.resolve key.field .sortable = .ok field →
      Sql.Stores first first field ∧ Sql.Stores second second field := by
    intro key member field resolved
    have fits := checked key member
    rw [resolved] at fits
    exact of_decide_eq_true fits
  cases accepted : ofSortKeys registry written with
  | error refused =>
    rw [accepted] at sortable
    cases sortable
  | ok order =>
    exact ⟨order, rfl, stored, RowOrder.rowOrder?_eq_compare accepted stored none _ "people"⟩

end RecordQuery
