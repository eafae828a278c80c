import RecordQuery.Filter.Cursor
import RecordQuery.Proofs.Text.Digits

/-! # The steps of a cursor

A cursor yields one after the other what the stream of its text holds. Behind that it yields nothing, however often it
is asked.
-/

namespace RecordQuery.Lexer

variable {blanks rest : List Char} {offset : Nat}

theorem tokensFrom_blanks (blank : blanks.all Text.isBlank) (offset : Nat) (rest : List Char) :
    tokensFrom offset (blanks ++ rest) = tokensFrom (offset + Text.byteLength blanks) rest := by
  induction blanks generalizing offset with
  | nil => rfl
  | cons first others ih =>
    rw [List.all_cons, Bool.and_eq_true] at blank
    rw [List.cons_append, tokensFrom, if_pos blank.1, ih blank.2, Text.byteLength, Nat.add_assoc]

namespace Cursor

/-- What is still to be read. -/
def stream (cursor : Cursor) : TokenStream :=
  if cursor.finished then .done else tokensFrom cursor.position cursor.rest

/-- Skipping blanks leads to the same tokens. -/
theorem exists_skipBlanks (offset : Nat) (characters : List Char) : ∃ start rest,
    (⟨offset, characters, false⟩ : Cursor).skipBlanks = ⟨start, rest, false⟩ ∧
      rest.head?.any Text.isBlank = false ∧ tokensFrom offset characters = tokensFrom start rest := by
  obtain ⟨blanks, rest, rfl, blank, solid⟩ := Text.exists_run Text.isBlank characters
  refine ⟨offset + Text.byteLength blanks, rest, ?_, solid, tokensFrom_blanks (List.all_eq_true.mpr blank) offset rest⟩
  rw [skipBlanks, Text.takeWhile_run blank solid, advance, List.take_left, List.drop_left]

/-- A step takes the first item off. -/
theorem next_eq (cursor : Cursor) :
    cursor.next.1 = cursor.stream.items.head? ∧ cursor.next.2.stream.items = cursor.stream.items.tail := by
  obtain ⟨offset, characters, finished⟩ := cursor
  cases finished with
  | true => exact ⟨rfl, rfl⟩
  | false =>
    obtain ⟨start, rest, place, solid, same⟩ := exists_skipBlanks offset characters
    rw [show (⟨offset, characters, false⟩ : Cursor).stream = tokensFrom start rest from same]
    simp only [next, place, Bool.false_eq_true, if_false]
    cases rest with
    | nil =>
      rw [tokensFrom]
      exact ⟨rfl, rfl⟩
    | cons first others =>
      have visible : Text.isBlank first = false := solid
      rw [tokensFrom, if_neg (Bool.eq_false_iff.mp visible)]
      dsimp only [advance]
      cases scanned : scan first others with
      | error problem => exact ⟨rfl, rfl⟩
      | ok found =>
        obtain ⟨kind, count⟩ := found
        dsimp only
        rw [List.take_succ_cons, Text.byteLength, ← Nat.add_assoc]
        exact ⟨rfl, rfl⟩

/-- The items come one by one. -/
theorem next_after (cursor : Cursor) (count : Nat) : (cursor.after count).next.1 = cursor.stream.items[count]? := by
  induction count generalizing cursor with
  | zero => rw [after, (next_eq cursor).1, List.head?_eq_getElem?]
  | succ count ih => rw [after, ih, (next_eq cursor).2, List.getElem?_tail]

end Cursor

/-- A cursor yields the tokens of a text, then its error if there is one, and then nothing. -/
theorem next_after_start (text : String) (count : Nat) :
    ((Cursor.start text).after count).next.1 = (tokens text).items[count]? :=
  Cursor.next_after (Cursor.start text) count

end RecordQuery.Lexer
