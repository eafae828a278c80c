import RecordQuery.Instant.Text
import RecordQuery.Json.Basic

/-! # Values of fields

A value is read from a row. Values of one kind have an order, and so have texts and variants among each
other; the order for sorting ranks the kinds where values have none, with null below everything.
-/

namespace RecordQuery

/-- What a field holds in a row. -/
inductive Value where
  | null
  | text (content : String)
  | number (value : Number)
  | boolean (value : Bool)
  | instant (value : Instant)
  | variant (name : String)
deriving DecidableEq

namespace Value

/-- The text of a text or of a variant. -/
def text? : Value → Option String
  | text content => some content
  | variant name => some name
  | _ => none

/-- The order of two values of the same kind. The undefined number has none. -/
def compare? : Value → Value → Option Ordering
  | null, null => some .eq
  | text first, text second => some (compare first second)
  | text first, variant second => some (compare first second)
  | variant first, text second => some (compare first second)
  | variant first, variant second => some (compare first second)
  | number first, number second => first.compare? second
  | boolean first, boolean second => some (compare first second)
  | instant first, instant second => some (first.order second)
  | _, _ => none

/-- The place of the value's kind among the kinds. -/
def rank : Value → Nat
  | null => 0
  | boolean _ => 1
  | number _ => 2
  | instant _ => 3
  | text _ => 4
  | variant _ => 5

/-- The order in which values are sorted. -/
def sortOrder (first second : Value) : Ordering :=
  (first.compare? second).getD (compare first.rank second.rank)

/-- The value as it is written into a row's object. -/
def toJson : Value → Json
  | null => .null
  | text content => .text content
  | number value => .ofNumber value
  | boolean value => .boolean value
  | instant value => .text value.text
  | variant name => .text name

end Value

end RecordQuery
