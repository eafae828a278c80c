import RecordQuery.Field.Registry

/-! # The order of rows

Rows are compared by one sort key after the other. A field that is listed again under a key that is
already there adds nothing and is dropped.
-/

namespace RecordQuery

/-- Fields with their directions, the most significant first. -/
structure RowOrder (ρ : Type) where
  keys : List (Field ρ × Direction)

/-- An order as it is, or turned around. -/
def Direction.orient : Direction → Ordering → Ordering
  | ascending, order => order
  | descending, order => order.swap

/-- The direction for display. -/
def Direction.display : Direction → String
  | ascending => "Asc"
  | descending => "Desc"

namespace RowOrder

variable {ρ : Type}

/-- The order in which all rows are equal. -/
def unordered : RowOrder ρ := ⟨[]⟩

/-- No key tells rows apart. -/
def isUnordered (order : RowOrder ρ) : Bool := order.keys.isEmpty

/-- The order of two rows by keys. -/
def compareBy (first second : ρ) : List (Field ρ × Direction) → Ordering
  | [] => .eq
  | (field, direction) :: rest =>
    (direction.orient ((field.read first).sortOrder (field.read second))).then
      (compareBy first second rest)

/-- The order of two rows. -/
def compare (order : RowOrder ρ) (first second : ρ) : Ordering := compareBy first second order.keys

/-- Rows in order; rows that compare as equal keep their places. -/
def sort (order : RowOrder ρ) (rows : List ρ) : List ρ :=
  rows.mergeSort fun first second => order.compare first second != .gt

/-- Adds a key, unless its field is there. -/
def addKey (registry : FieldRegistry ρ) (keys : List (Field ρ × Direction)) (key : SortKey) :
    Except QueryError (List (Field ρ × Direction)) := do
  let field ← registry.resolve key.field .sortable
  if keys.any fun (other, _) => other.key == field.key then return keys
  else return keys ++ [(field, key.direction)]

/-- The order of a sort list; its first refused key decides. -/
def ofSortKeys (registry : FieldRegistry ρ) (keys : List SortKey) : Except QueryError (RowOrder ρ) :=
  (keys.foldlM (addKey registry) []).map RowOrder.mk

/-- The order for display. -/
def display (order : RowOrder ρ) : String :=
  let keys := order.keys.map fun (field, direction) =>
    s!"({Text.quoted field.key}, {direction.display})"
  Text.bracketed "[" keys "]"

end RowOrder

end RecordQuery
