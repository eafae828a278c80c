import RecordQuery.Filter.Basic
import RecordQuery.Value.Basic

/-! # Types of fields

A field declares the type of its values. A literal of a filter becomes a value of the type: texts may name
numbers, truth values and instants, and a variant is found in any letter case. Null belongs to every type.
-/

namespace RecordQuery

/-- The declared type of a field; variants are a closed set of texts. -/
inductive ValueType where
  | text
  | number
  | boolean
  | instant
  | variants (names : List String)
deriving DecidableEq, Repr

namespace ValueType

/-- The values of the type have an order beside their equality. -/
def isOrdered : ValueType → Bool
  | text | number | instant => true
  | boolean | variants _ => false

/-- The name of the type. -/
def name : ValueType → String
  | text => "string"
  | number => "number"
  | boolean => "bool"
  | instant => "date"
  | variants _ => "enum"

/-- The values of the type in words. -/
def description : ValueType → String
  | variants names => "one of [" ++ ", ".intercalate names ++ "]"
  | other => other.name

/-- The finite number that a text writes between blanks. -/
def numberOfText? (content : String) : Option Number :=
  (Number.ofText? (Text.trim content)).filter Number.isFinite

/-- The truth value that a text names in any letter case. -/
def booleanOfText? (content : String) : Option Bool :=
  if Text.equalIgnoringCase content "true" then some true
  else if Text.equalIgnoringCase content "false" then some false
  else none

/-- The value of the type that a literal stands for. -/
def coerce? : ValueType → Literal → Option Value
  | _, .null => some .null
  | text, .text content => some (.text content)
  | number, .number value => some (.number value)
  | number, .text content => (numberOfText? content).map .number
  | boolean, .boolean value => some (.boolean value)
  | boolean, .text content => (booleanOfText? content).map .boolean
  | instant, .text content => (Instant.ofText? content).map .instant
  | variants names, .text content => (names.find? (Text.equalIgnoringCase · content)).map .variant
  | _, _ => none

end ValueType

end RecordQuery
