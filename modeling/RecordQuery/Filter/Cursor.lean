import RecordQuery.Filter.Lexer

/-! # Reading token by token

A cursor stands in a text behind what has been read of it. Each step skips blanks and yields one token, or the error
of characters that are no token. It yields nothing more behind an error, nor once the text has ended.
-/

namespace RecordQuery

/-- What the stream holds one after the other: its tokens, and the error that ends it. -/
def TokenStream.items (stream : TokenStream) : List (Except LexicalError Token) :=
  stream.tokens.map .ok ++ stream.error?.toList.map .error

namespace Lexer

/-- A place in a text: its byte, the characters behind it, and whether reading has come to an end. -/
structure Cursor where
  position : Nat
  rest : List Char
  finished : Bool
deriving DecidableEq, Repr

namespace Cursor

/-- The beginning of a text. -/
def start (text : String) : Cursor := ⟨0, text.toList, false⟩

/-- The place so many characters further on. -/
def advance (cursor : Cursor) (count : Nat) : Cursor :=
  { cursor with
    position := cursor.position + Text.byteLength (cursor.rest.take count)
    rest := cursor.rest.drop count }

/-- The place behind the blanks. -/
def skipBlanks (cursor : Cursor) : Cursor := cursor.advance (cursor.rest.takeWhile Text.isBlank).length

/-- What comes next, and the place behind it. -/
def next (cursor : Cursor) : Option (Except LexicalError Token) × Cursor :=
  if cursor.finished then (none, cursor)
  else
    let place := cursor.skipBlanks
    match place.rest with
    | [] => (none, { place with finished := true })
    | first :: rest =>
      match scan first rest with
      | .error problem => (some (.error ⟨place.position, problem⟩), { place with finished := true })
      | .ok (kind, count) =>
        let behind := place.advance (count + 1)
        (some (.ok ⟨kind, place.position, behind.position⟩), behind)

/-- The place after so many steps. -/
def after (cursor : Cursor) : Nat → Cursor
  | 0 => cursor
  | count + 1 => cursor.next.2.after count

end Cursor

end Lexer

end RecordQuery
