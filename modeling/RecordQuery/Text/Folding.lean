import RecordQuery.Text.Basic
import RecordQuery.Text.Casing
import RecordQuery.Text.CaseBlocks

/-! # Names without regard to case

Two names are the same when their folded forms agree: blanks at the ends do not count, and letters are
taken in lower case. A capital sigma becomes its final form at the end of a word, and the dotted capital I
becomes two characters.
-/

namespace RecordQuery.Text

/-- The nearest character that counts is a letter with case. -/
def meetsCased (characters : List Char) : Bool :=
  match characters.dropWhile isCaseIgnorable with
  | [] => false
  | character :: _ => isCased character

/-- A capital sigma in lower case, where `before` holds the characters in front of it, nearest first. -/
def lowerSigma (before after : List Char) : Char :=
  if meetsCased before && !meetsCased after then 'ς' else 'σ'

/-- Lower case of the characters that follow `before`, which is held nearest first. -/
def lowerFrom (before : List Char) : List Char → List Char
  | [] => []
  | character :: after =>
    let lowered :=
      if character = 'Σ' then [lowerSigma before after]
      else if character = 'İ' then ['i', '\u0307']
      else [lowerLetter character]
    lowered ++ lowerFrom (character :: before) after

/-- The text in lower case. -/
def lowercase (text : String) : String := String.ofList (lowerFrom [] text.toList)

/-- The form in which names are compared. -/
def fold (name : String) : String := lowercase (trim name)

end RecordQuery.Text
