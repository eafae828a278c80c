import RecordQuery.Sql.Basic

/-! # The text of statements

A statement is written as a sequence of pieces, each of which has its own text. Identifiers stand between
double quotes, texts between single ones; a text with an escaped character carries the mark E. An operand
of AND, OR or NOT that is itself one of them is put between parentheses, unless it is the left operand of
the same joining word.
-/

namespace RecordQuery.Sql

/-- A part of the text of a statement. -/
inductive Piece where
  | blank
  | word (letters : String)
  | mark (sign : String)
  | identifier (name : String)
  | text (content : String)
  | number (digits : String)
deriving DecidableEq, Repr

/-- A character between double quotes. -/
def identifierCharacter (character : Char) : List Char :=
  if character = '\x22' then ['\x22', '\x22'] else [character]

/-- A character between single quotes. -/
def textCharacter (character : Char) : List Char :=
  match character with
  | '\\' => ['\\', '\\']
  | '\x22' => ['\\', '\x22']
  | '\x27' => ['\\', '\x27']
  | '\x00' => ['\\', '0']
  | '\x08' => ['\\', 'b']
  | '\t' => ['\\', 't']
  | '\x1a' => ['\\', 'z']
  | '\n' => ['\\', 'n']
  | '\r' => ['\\', 'r']
  | other => [other]

/-- A name between double quotes. -/
def identifierText (name : String) : List Char :=
  '\x22' :: name.toList.flatMap identifierCharacter ++ ['\x22']

/-- A text between single quotes. -/
def literalText (content : String) : List Char :=
  let escaped := content.toList.flatMap textCharacter
  let quoted := '\x27' :: escaped ++ ['\x27']
  if '\\' ∈ escaped then 'E' :: quoted else quoted

/-- The characters of a piece. -/
def Piece.characters : Piece → List Char
  | blank => [' ']
  | word letters => letters.toList
  | mark sign => sign.toList
  | identifier name => identifierText name
  | text content => literalText content
  | number digits => digits.toList

/-- The piece of a constant. -/
def Scalar.piece : Scalar → Piece
  | text content => .text content
  | integer value => .number (toString value)
  | number value => .number value.text
  | boolean value => .word (if value then "TRUE" else "FALSE")

/-- The sign of a relation. -/
def relationSign : Relation → String
  | .notEqual => "<>"
  | other => other.symbol

/-- Sequences of pieces with a comma between two of them. -/
def commaSeparated : List (List Piece) → List Piece
  | [] => []
  | [item] => item
  | item :: rest => item ++ [.mark ",", .blank] ++ commaSeparated rest

/-- Pieces between parentheses. -/
def parenthesized (pieces : List Piece) : List Piece := [.mark "("] ++ pieces ++ [.mark ")"]

namespace Expression

/-- The expression joins or negates others. -/
def isCompound : Expression → Bool
  | conjunction _ _ | disjunction _ _ | negation _ => true
  | _ => false

/-- The expression joins others by AND. -/
def isConjunction : Expression → Bool
  | conjunction _ _ => true
  | _ => false

/-- The expression joins others by OR. -/
def isDisjunction : Expression → Bool
  | disjunction _ _ => true
  | _ => false

/-- Pieces between parentheses where they are needed. -/
def wrapped (needed : Bool) (pieces : List Piece) : List Piece :=
  if needed then parenthesized pieces else pieces

/-- The pieces of an expression. -/
def pieces : Expression → List Piece
  | relation column sign value =>
    [.identifier column, .blank, .mark (relationSign sign), .blank, value.piece]
  | membership column values =>
    [.identifier column, .blank, .word "IN", .blank] ++
      parenthesized (commaSeparated (values.map fun value => [value.piece]))
  | like column pattern =>
    [.identifier column, .blank, .word "LIKE", .blank, .text pattern, .blank, .word "ESCAPE", .blank,
      .text "\\"]
  | isNull column => [.identifier column, .blank, .word "IS", .blank, .word "NULL"]
  | isNotNull column =>
    [.identifier column, .blank, .word "IS", .blank, .word "NOT", .blank, .word "NULL"]
  | conjunction left right =>
    wrapped (left.isCompound && !left.isConjunction) left.pieces ++ [.blank, .word "AND", .blank] ++
      wrapped right.isCompound right.pieces
  | disjunction left right =>
    wrapped (left.isCompound && !left.isDisjunction) left.pieces ++ [.blank, .word "OR", .blank] ++
      wrapped right.isCompound right.pieces
  | negation inner => [.word "NOT", .blank] ++ wrapped inner.isCompound inner.pieces

end Expression

/-- The pieces of a selected column. -/
def Selection.pieces (selection : Selection) : List Piece :=
  [.identifier selection.column, .blank, .word "AS", .blank, .identifier selection.output]

/-- The pieces of a column to sort by. -/
def SortColumn.pieces (sortColumn : SortColumn) : List Piece :=
  let (direction, nulls) := match sortColumn.direction with
    | .ascending => ("ASC", "FIRST")
    | .descending => ("DESC", "LAST")
  [.identifier sortColumn.column, .blank, .word direction, .blank, .word "NULLS", .blank, .word nulls]

namespace Statement

/-- The pieces of a statement. -/
def pieces (statement : Statement) : List Piece :=
  let condition := match statement.condition? with
    | some condition => [.blank, .word "WHERE", .blank] ++ condition.pieces
    | none => []
  let order :=
    if statement.order = [] then []
    else
      [.blank, .word "ORDER", .blank, .word "BY", .blank] ++
        commaSeparated (statement.order.map SortColumn.pieces)
  [.word "SELECT", .blank] ++ commaSeparated (statement.selections.map Selection.pieces) ++
    [.blank, .word "FROM", .blank, .identifier statement.table] ++ condition ++ order

/-- The text of a statement. -/
def text (statement : Statement) : String :=
  String.ofList (statement.pieces.flatMap Piece.characters)

end Statement

end RecordQuery.Sql
