import RecordQuery.Text.GraphemeExtend
import RecordQuery.Text.Printable

/-! # Quoted texts

A text between double quotes for display. Quotes, backslashes and the common controls are written with a
backslash; characters that have no form of their own are written by their code points.
-/

namespace RecordQuery.Text

/-- A character by its code point in hexadecimal digits. -/
def codePointEscape (character : Char) : List Char :=
  "\\u\x7b".toList ++ Nat.toDigits 16 character.toNat ++ ['\x7d']

/-- A character as it stands in a quoted text. -/
def quotedCharacter (character : Char) : List Char :=
  match character with
  | '\x00' => ['\\', '0']
  | '\t' => ['\\', 't']
  | '\n' => ['\\', 'n']
  | '\r' => ['\\', 'r']
  | '\\' => ['\\', '\\']
  | '\x22' => ['\\', '\x22']
  | other =>
    if isCombining other || !isPrintable other then codePointEscape other else [other]

/-- The text between quotes. -/
def quoted (text : String) : String :=
  String.ofList ('\x22' :: text.toList.flatMap quotedCharacter ++ ['\x22'])

/-- Items between brackets. -/
def bracketed (opening : String) (items : List String) (closing : String) : String :=
  opening ++ ", ".intercalate items ++ closing

/-- A list of quoted texts. -/
def quotedList (texts : List String) : String := bracketed "[" (texts.map quoted) "]"

/-- A map between braces, its keys and values quoted. -/
def quotedMap (entries : List (String × String)) : String :=
  bracketed "\x7b" (entries.map fun (key, value) => s!"{quoted key}: {quoted value}") "\x7d"

/-- A set of quoted texts. -/
def quotedSet (texts : List String) : String := bracketed "\x7b" (texts.map quoted) "\x7d"

/-- A record under its type's name; `open?` tells that some fields are not shown. -/
def displayedRecord (name : String) (fields : List (String × String)) (isPartial : Bool) : String :=
  let shown := fields.map fun (field, value) => s!"{field}: {value}"
  bracketed s!"{name} \x7b " (if isPartial then shown ++ [".."] else shown) " \x7d"

end RecordQuery.Text
