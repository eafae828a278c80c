import RecordQuery.Filter.Name
import RecordQuery.Filter.SyntaxError
import RecordQuery.Text.Basic

/-! # Sort lists

A sort list is a sequence of field names between commas, each with an optional direction behind a colon.
A blank list has no keys. Problems are reported at the first character of their item that is not blank.
-/

namespace RecordQuery.SortList

/-- The parts of a text between commas, which are at least one. -/
def items : List Char → List (List Char)
  | [] => [[]]
  | character :: rest =>
    if character = ',' then [] :: items rest
    else
      match items rest with
      | [] => [[character]]
      | item :: more => (character :: item) :: more

/-- Cuts an item at its first colon. -/
def splitAtColon (item : List Char) : List Char × Option (List Char) :=
  match item.dropWhile (· != ':') with
  | [] => (item, none)
  | _ :: rest => (item.takeWhile (· != ':'), some rest)

/-- Reads a direction in any letter case; without one a key ascends. -/
def readDirection? : Option (List Char) → Option Direction
  | none => some .ascending
  | some written =>
    let word := String.ofList written
    if Text.equalIgnoringCase word Direction.ascending.word then some .ascending
    else if Text.equalIgnoringCase word Direction.descending.word then some .descending
    else none

/-- Reads an item without blanks at its ends. -/
def readTrimmed (item : List Char) : Except SyntaxProblem SortKey :=
  let (name, written) := splitAtColon item
  let field := Text.trimBoth name
  let direction := written.map Text.trimBoth
  if item = [] then .error .blankItem
  else if ¬ Name.isName field then .error (.invalidField (String.ofList field))
  else
    match readDirection? direction with
    | some direction => .ok ⟨String.ofList field, direction⟩
    | none =>
      .error (.invalidDirection (String.ofList (direction.getD [])) (String.ofList field))

/-- Reads an item that starts at a byte offset. -/
def readItem (offset : Nat) (item : List Char) : Except SyntaxError SortKey :=
  let position := offset + Text.byteLength (item.takeWhile Text.isBlank)
  (readTrimmed (Text.trimBoth item)).mapError fun problem => ⟨position, problem⟩

/-- Reads items of which the first starts at a byte offset; a comma of one byte stands between two. -/
def readItems (offset : Nat) : List (List Char) → Except SyntaxError (List SortKey)
  | [] => .ok []
  | item :: more => do
    let key ← readItem offset item
    let keys ← readItems (offset + Text.byteLength item + 1) more
    return key :: keys

/-- Reads a text as a sort list. -/
def parse (text : String) : Except SyntaxError (List SortKey) :=
  if text.toList.all Text.isBlank then .ok []
  else readItems 0 (items text.toList)

end RecordQuery.SortList
