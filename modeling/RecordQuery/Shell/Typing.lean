import RecordQuery.Text.Basic
import RecordQuery.Text.Grapheme

/-! # Lines as they are typed

A backspace among the characters of a line takes back the grapheme cluster that was written before it. The
length of each cluster is kept in one byte, so of a cluster of 256 bytes and more the backspace takes back
the bytes beyond a multiple of 256 only. A line without a backspace stays as it is.
-/

namespace RecordQuery.Shell

/-- What has been written of a line, the last character first, and the lengths in bytes of its clusters,
the last one first. -/
structure Typing where
  written : List Char
  lengths : List UInt8
deriving DecidableEq, Repr

namespace Typing

/-- Nothing has been written. -/
def empty : Typing := ⟨[], []⟩

/-- Writes a cluster. -/
def write (typing : Typing) (cluster : List Char) : Typing :=
  ⟨cluster.reverse ++ typing.written, UInt8.ofNat (Text.byteLength cluster) :: typing.lengths⟩

/-- The characters without so many bytes at the beginning, and without a character that this cuts. -/
def dropBytes (count : Nat) : List Char → List Char
  | [] => []
  | character :: rest =>
    if count = 0 then character :: rest else dropBytes (count - character.utf8Size) rest

/-- Takes the last cluster back. -/
def takeBack (typing : Typing) : Typing :=
  match typing.lengths with
  | [] => typing
  | length :: lengths => ⟨dropBytes length.toNat typing.written, lengths⟩

/-- Takes a cluster in, which takes one back if it is the backspace. -/
def enter (typing : Typing) (cluster : List Char) : Typing :=
  if cluster = ['\x08'] then typing.takeBack else typing.write cluster

/-- The line as far as it is written. -/
def line (typing : Typing) : String := String.ofList typing.written.reverse

theorem written_foldl_enter (typing : Typing) (clusters : List (List Char))
    (absent : ['\x08'] ∉ clusters) :
    (clusters.foldl enter typing).written = clusters.flatten.reverse ++ typing.written := by
  induction clusters generalizing typing with
  | nil => rfl
  | cons cluster rest ih =>
    have other : cluster ≠ ['\x08'] := fun same => absent (same ▸ List.mem_cons_self)
    rw [List.foldl_cons, ih _ fun later => absent (List.mem_cons_of_mem _ later)]
    simp [enter, other, write]

end Typing

/-- The line that remains of the characters typed for it. -/
def typed (characters : String) : String :=
  ((Text.graphemes characters.toList).foldl Typing.enter .empty).line

/-- A line without a backspace stays as it is. -/
theorem typed_eq_self {characters : String} (absent : '\x08' ∉ characters.toList) :
    typed characters = characters := by
  have noBackspace : ['\x08'] ∉ Text.graphemes characters.toList := fun inside =>
    absent (Text.flatten_graphemes characters.toList ▸ List.mem_flatten_of_mem inside List.mem_cons_self)
  simp [typed, Typing.line, Typing.written_foldl_enter _ _ noBackspace, Typing.empty, Text.flatten_graphemes]

end RecordQuery.Shell
