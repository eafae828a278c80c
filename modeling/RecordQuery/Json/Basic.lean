import RecordQuery.Number.Shortest

/-! # JSON values

The values that are written for rows, and their compact text. Whole numbers below 2⁶³ are written as
integers; other numbers by their shortest digits, without an exponent as long as the leading digit lies
between 10⁻⁵ and 10¹⁵. Numbers that are not finite have no JSON form and become null.
-/

namespace RecordQuery

/-- A JSON value without arrays. -/
inductive Json where
  | null
  | boolean (value : Bool)
  | integer (value : Int)
  | number (value : Number)
  | text (content : String)
  | object (entries : List (String × Json))

namespace Json

/-- The JSON value of a number. -/
def ofNumber (value : Number) : Json :=
  match value.wholeValue? with
  | some whole => .integer whole
  | none => if value.isFinite then .number value else .null

/-- A character as it stands in a text. -/
def escapedCharacter (character : Char) : List Char :=
  match character with
  | '\x22' => ['\\', '\x22']
  | '\\' => ['\\', '\\']
  | '\x08' => ['\\', 'b']
  | '\x0c' => ['\\', 'f']
  | '\n' => ['\\', 'n']
  | '\r' => ['\\', 'r']
  | '\t' => ['\\', 't']
  | other =>
    if other.toNat < 32 then
      ['\\', 'u', '0', '0', (other.toNat / 16).digitChar, (other.toNat % 16).digitChar]
    else [other]

/-- A text between its quotes. -/
def textLiteral (content : String) : String :=
  String.ofList ('\x22' :: content.toList.flatMap escapedCharacter ++ ['\x22'])

/-- A number by its shortest digits; a tie between two of them goes to the even one. -/
def numberLiteral : Number → String
  | .finite negative steps _ _ =>
    let digits := Decimal.shortest .even steps
    let leading := digits.scientificExponent
    let magnitude := if -5 ≤ leading ∧ leading ≤ 15 then digits.positional else digits.scientific
    Number.signText negative ++ magnitude
  | _ => "null"

mutual

/-- The compact text of a value. -/
def render : Json → String
  | null => "null"
  | boolean value => toString value
  | integer value => toString value
  | number value => numberLiteral value
  | text content => textLiteral content
  | object entries => "\x7b" ++ ",".intercalate (renderEntries entries) ++ "\x7d"

/-- The texts of the entries of an object. -/
def renderEntries : List (String × Json) → List String
  | [] => []
  | (key, value) :: rest => (textLiteral key ++ ":" ++ render value) :: renderEntries rest

end

end Json

end RecordQuery
