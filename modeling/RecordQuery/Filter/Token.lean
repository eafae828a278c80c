import RecordQuery.Filter.Basic

/-! # Tokens of the filter language

Tokens carry what the grammar needs to know of them and the bytes at which they start and stop.
-/

namespace RecordQuery

/-- What a token stands for. -/
inductive TokenKind where
  | conjunction
  | disjunction
  | negation
  | membership
  | textMatch (word : TextMatch)
  | relation (sign : Relation)
  | name (word : String)
  | text (content : String)
  | number (value : Number)
  | boolean (value : Bool)
  | null
  | opening
  | closing
  | comma
deriving DecidableEq

/-- The token for messages. -/
def TokenKind.description : TokenKind → String
  | conjunction => "'and'"
  | disjunction => "'or'"
  | negation => "'not'"
  | membership => "'in'"
  | textMatch word => s!"'{word.symbol}'"
  | relation sign => s!"'{sign.symbol}'"
  | name word => s!"identifier '{word}'"
  | text content => s!"string '{content}'"
  | number value => s!"number {value.text}"
  | boolean value => s!"'{value}'"
  | null => "'null'"
  | opening => "'('"
  | closing => "')'"
  | comma => "','"

/-- The literal that a token writes. -/
def TokenKind.literal? : TokenKind → Option Literal
  | text content => some (.text content)
  | number value => some (.number value)
  | boolean value => some (.boolean value)
  | null => some .null
  | _ => none

/-- A token and the bytes between which it stands. -/
structure Token where
  kind : TokenKind
  start : Nat
  stop : Nat
deriving DecidableEq

/-- Why no token begins at a place. -/
inductive LexicalProblem where
  | unterminatedText
  | loneBang
  | unrecognized (character : Char)
deriving DecidableEq, Repr

/-- The problem in words. -/
def LexicalProblem.message : LexicalProblem → String
  | unterminatedText => "Unterminated string literal"
  | loneBang => "Expected '=' after '!'"
  | unrecognized character => s!"Unrecognized character '{character}'"

/-- A problem and the byte at which it stands. -/
structure LexicalError where
  position : Nat
  problem : LexicalProblem
deriving DecidableEq, Repr

/-- The error in words. -/
def LexicalError.message (error : LexicalError) : String :=
  s!"{error.problem.message} at position {error.position}"

/-- Tokens up to the end of the text or to the first place where no token begins. -/
inductive TokenStream where
  | done
  | failed (error : LexicalError)
  | token (token : Token) (rest : TokenStream)
deriving DecidableEq

namespace TokenStream

/-- The tokens of the stream. -/
def tokens : TokenStream → List Token
  | done => []
  | failed _ => []
  | token first rest => first :: rest.tokens

/-- The error that ends the stream. -/
def error? : TokenStream → Option LexicalError
  | done => none
  | failed error => some error
  | token _ rest => rest.error?

end TokenStream

end RecordQuery
