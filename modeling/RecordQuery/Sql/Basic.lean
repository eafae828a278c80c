import RecordQuery.Query.Basic

/-! # Queries as SELECT statements

A query becomes a statement over the storage columns of its fields. A comparison with a null column is
unknown in SQL, whereas in memory it has a result: it is true for "not equal" and for a list that holds
null, and false otherwise. A guard is added where the unknown result would select other rows: that depends
on whether the comparison stands under an even or an odd number of negations.
-/

namespace RecordQuery.Sql

/-- A constant that is not null. -/
inductive Scalar where
  | text (content : String)
  | integer (value : Int)
  | number (value : Number)
  | boolean (value : Bool)
deriving DecidableEq

/-- The constant of a number; whole numbers below 2⁶³ are integers. -/
def Scalar.ofNumber (value : Number) : Scalar :=
  match value.wholeValue? with
  | some whole => .integer whole
  | none => .number value

/-- The constant of a value; instants are stored as their texts. -/
def Scalar.ofValue? : Value → Option Scalar
  | .null => none
  | .text content => some (.text content)
  | .number value => some (.ofNumber value)
  | .boolean value => some (.boolean value)
  | .instant value => some (.text value.text)
  | .variant name => some (.text name)

/-- A condition over columns. -/
inductive Expression where
  | relation (column : String) (sign : Relation) (value : Scalar)
  | membership (column : String) (values : List Scalar)
  | like (column pattern : String)
  | isNull (column : String)
  | isNotNull (column : String)
  | conjunction (left right : Expression)
  | disjunction (left right : Expression)
  | negation (inner : Expression)
deriving DecidableEq

namespace Expression

/-- Guards an expression that is unknown for a null column. `matchesNull` is its result in memory, and
`negated` tells that it stands under an odd number of negations. -/
def guarded (column : String) (matchesNull negated : Bool) (expression : Expression) : Expression :=
  match matchesNull, negated with
  | true, false => .disjunction expression (.isNull column)
  | false, true => .conjunction expression (.isNotNull column)
  | _, _ => expression

end Expression

/-- A character of a pattern that stands for itself. -/
def escapedPatternCharacter (character : Char) : List Char :=
  if character = '\\' ∨ character = '%' ∨ character = '_' then ['\\', character] else [character]

/-- A text as a part of a pattern. -/
def escapedPattern (needle : String) : String :=
  String.ofList (needle.toList.flatMap escapedPatternCharacter)

/-- The pattern of a text match. -/
def pattern (textMatch : TextMatch) (needle : String) : String :=
  match textMatch with
  | .contains => "%" ++ escapedPattern needle ++ "%"
  | .startsWith => escapedPattern needle ++ "%"
  | .endsWith => "%" ++ escapedPattern needle

/-- The expression of a test on a column under an even or odd number of negations. -/
def ofTest (column : String) (negated : Bool) : Test → Expression
  | .relation sign value =>
    match Scalar.ofValue? value with
    | some scalar => .guarded column (sign = .notEqual) negated (.relation column sign scalar)
    | none => if sign = .notEqual then .isNotNull column else .isNull column
  | .text word needle => .guarded column false negated (.like column (pattern word needle))
  | .membership values =>
    let present := values.filterMap Scalar.ofValue?
    if present = [] then .isNull column
    else
      .guarded column (present.length < values.length) negated (.membership column present)

/-- The expression of a condition under an even or odd number of negations. -/
def ofCondition {ρ : Type} (negated : Bool) : Condition ρ → Expression
  | .test field question => ofTest field.column negated question
  | .conjunction left right => .conjunction (ofCondition negated left) (ofCondition negated right)
  | .disjunction left right => .disjunction (ofCondition negated left) (ofCondition negated right)
  | .negation inner => .negation (ofCondition (!negated) inner)

/-- A selected column under its output name. -/
structure Selection where
  column : String
  output : String
deriving DecidableEq, Repr

/-- A column to sort by; nulls come first when it ascends and last when it descends. -/
structure SortColumn where
  column : String
  direction : Direction
deriving DecidableEq, Repr

/-- A SELECT statement over one table. -/
structure Statement where
  selections : List Selection
  table : String
  condition? : Option Expression
  order : List SortColumn
deriving DecidableEq

/-- The statement of a query over a table. -/
def Statement.ofQuery {ρ : Type} (table : String) (query : Query ρ) : Statement where
  selections := query.projection.columns.map fun column => ⟨column.field.column, column.output⟩
  table := table
  condition? := query.condition?.map (ofCondition false)
  order := query.order.keys.map fun (field, direction) => ⟨field.column, direction⟩

end RecordQuery.Sql
