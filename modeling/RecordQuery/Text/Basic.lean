import RecordQuery.Text.Ranges

/-! # Texts

Blank characters and trimming, byte lengths in UTF-8, values of digits, and comparison without regard to
the case of the letters A to Z.
-/

namespace RecordQuery.Text

/-- The ranges of White_Space. -/
def blankRanges : List (Nat × Nat) :=
  [(9, 13), (32, 32), (133, 133), (160, 160), (5760, 5760), (8192, 8202), (8232, 8233), (8239, 8239),
   (8287, 8287), (12288, 12288)]

/-- The character separates words and is trimmed from ends. -/
def isBlank (character : Char) : Bool := inRanges blankRanges character

/-- The characters without blanks at the beginning. -/
def trimLeft (characters : List Char) : List Char := characters.dropWhile isBlank

/-- The characters without blanks at the end. -/
def trimRight (characters : List Char) : List Char := (characters.reverse.dropWhile isBlank).reverse

/-- The characters without blanks at either end. -/
def trimBoth (characters : List Char) : List Char := trimRight (trimLeft characters)

/-- The text without blanks at either end. -/
def trim (text : String) : String := String.ofList (trimBoth text.toList)

/-- The number of bytes of the characters in UTF-8. -/
def byteLength : List Char → Nat
  | [] => 0
  | character :: rest => character.utf8Size + byteLength rest

theorem byteLength_append (first second : List Char) :
    byteLength (first ++ second) = byteLength first + byteLength second := by
  induction first with
  | nil => rw [List.nil_append, byteLength, Nat.zero_add]
  | cons character rest ih => rw [List.cons_append, byteLength, byteLength, ih, Nat.add_assoc]

/-- The value of decimal digits. -/
def digitsValue (digits : List Char) : Nat := Nat.ofDigitChars 10 digits 0

/-- Equality that takes the letters A to Z for a to z. -/
def equalIgnoringCase (first second : String) : Bool :=
  first.toList.map Char.toLower == second.toList.map Char.toLower

end RecordQuery.Text
