import RecordQuery.Number.Shortest

/-! # Filters

A filter is a tree of comparisons joined by `and`, `or` and `not`. It says what a text means before any
field is known: names keep their spelling, and an operator may stand beside any operand.
-/

namespace RecordQuery

/-- Relations of equality and order. -/
inductive Relation where
  | equal
  | notEqual
  | greater
  | greaterOrEqual
  | less
  | lessOrEqual
deriving DecidableEq, Repr

namespace Relation

/-- The relation as it is written in a filter. -/
def symbol : Relation → String
  | equal => "="
  | notEqual => "!="
  | greater => ">"
  | greaterOrEqual => ">="
  | less => "<"
  | lessOrEqual => "<="

/-- The relation speaks of order and not only of equality. -/
def isOrdering : Relation → Bool
  | equal | notEqual => false
  | greater | greaterOrEqual | less | lessOrEqual => true

end Relation

/-- Ways in which a text holds another one. -/
inductive TextMatch where
  | contains
  | startsWith
  | endsWith
deriving DecidableEq, Repr

/-- The word for a text match in a filter. -/
def TextMatch.symbol : TextMatch → String
  | contains => "contains"
  | startsWith => "startswith"
  | endsWith => "endswith"

/-- What a comparison asks of its field. -/
inductive Operator where
  | relation (wanted : Relation)
  | text (wanted : TextMatch)
  | membership
deriving DecidableEq, Repr

namespace Operator

/-- The operator as it is written in a filter. -/
def symbol : Operator → String
  | relation wanted => wanted.symbol
  | text wanted => wanted.symbol
  | membership => "in"

/-- The operator applies to text fields only. -/
def isTextMatch : Operator → Bool
  | text _ => true
  | _ => false

/-- The operator applies to ordered fields only. -/
def isOrdering : Operator → Bool
  | relation wanted => wanted.isOrdering
  | _ => false

/-- All operators in the order in which they are offered. -/
def all : List Operator :=
  [.relation .equal, .relation .notEqual, .relation .greater, .relation .greaterOrEqual, .relation .less,
    .relation .lessOrEqual, .text .contains, .text .startsWith, .text .endsWith, .membership]

end Operator

/-- A value as it is written in a filter. -/
inductive Literal where
  | text (content : String)
  | number (value : Number)
  | boolean (value : Bool)
  | null
deriving DecidableEq

namespace Literal

/-- The kind of the literal. -/
def kindName : Literal → String
  | text _ => "string"
  | number _ => "number"
  | boolean _ => "bool"
  | null => "null"

/-- The literal with its kind, for messages. -/
def description : Literal → String
  | text content => s!"string '{content}'"
  | number value => s!"number {value.text}"
  | boolean value => s!"bool {value}"
  | null => "null"

end Literal

/-- The right side of a comparison. -/
inductive Operand where
  | single (literal : Literal)
  | list (literals : List Literal)
deriving DecidableEq

/-- The operand for messages. -/
def Operand.description : Operand → String
  | single literal => literal.description
  | list _ => "list"

/-- A field name, an operator and an operand. -/
structure Comparison where
  field : String
  operator : Operator
  operand : Operand
deriving DecidableEq

/-- A tree of comparisons. -/
inductive Filter where
  | comparison (leaf : Comparison)
  | conjunction (left right : Filter)
  | disjunction (left right : Filter)
  | negation (inner : Filter)
deriving DecidableEq

/-- The comparisons of a filter from left to right. -/
def Filter.comparisons : Filter → List Comparison
  | comparison leaf => [leaf]
  | conjunction left right => left.comparisons ++ right.comparisons
  | disjunction left right => left.comparisons ++ right.comparisons
  | negation inner => inner.comparisons

/-- Which way a sort key runs. -/
inductive Direction where
  | ascending
  | descending
deriving DecidableEq, Repr

/-- A field name and the direction in which it sorts. -/
structure SortKey where
  field : String
  direction : Direction
deriving DecidableEq, Repr

end RecordQuery
