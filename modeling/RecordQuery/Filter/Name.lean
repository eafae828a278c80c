/-! # Field names

A name starts with a letter or an underscore; digits and dots may follow. Only the letters A to Z and a to
z and the digits 0 to 9 count.
-/

namespace RecordQuery.Name

/-- The character may start a name. -/
def isStart (character : Char) : Bool := character.isAlpha || character == '_'

/-- The character may stand inside a name. -/
def isPart (character : Char) : Bool := character.isAlphanum || character == '_' || character == '.'

/-- The characters form a name. -/
def isName : List Char → Bool
  | [] => false
  | first :: rest => isStart first && rest.all isPart

end RecordQuery.Name
