import RecordQuery.Filter.Token

/-! # What is wrong with a text

Every way in which a filter or a sort list fails to be one, with its wording, and what would have been
accepted instead.
-/

namespace RecordQuery

/-- Something that could have stood at a place. -/
inductive Expectation where
  | expression
  | field
  | negation
  | conjunction
  | disjunction
  | opening
  | closing
  | comma
  | operator (operator : Operator)
  | value
  | text
  | number
  | boolean (value : Bool)
  | null
  | endOfInput
  | direction (direction : Direction)
deriving DecidableEq, Repr

/-- The word for a direction in a sort list. -/
def Direction.word : Direction → String
  | ascending => "asc"
  | descending => "desc"

/-- The expectation in words. -/
def Expectation.description : Expectation → String
  | expression => "expression"
  | field => "field"
  | negation => "'not'"
  | conjunction => "'and'"
  | disjunction => "'or'"
  | opening => "'('"
  | closing => "')'"
  | comma => "','"
  | operator wanted => wanted.symbol
  | value => "value"
  | text => "string"
  | number => "number"
  | boolean wanted => s!"'{wanted}'"
  | null => "'null'"
  | endOfInput => "end of input"
  | direction wanted => wanted.word

/-- Why a text is no filter or no sort list. -/
inductive SyntaxProblem where
  | tooLong (limit : Nat)
  | blank
  | tooDeep (limit : Nat)
  | missingOperand
  | missingOperator (field : String)
  | missingList
  | missingValue
  | unclosedList
  | unclosedGroup
  | fieldExpected (found : TokenKind)
  | operatorExpected (found : TokenKind)
  | listExpected (found : TokenKind)
  | valueExpected (found : TokenKind)
  | separatorExpected (found : TokenKind)
  | closingExpected (opening : Nat) (found : TokenKind)
  | strayClosing
  | trailing (found : TokenKind)
  | blankItem
  | invalidField (found : String)
  | invalidDirection (found field : String)
deriving DecidableEq

namespace SyntaxProblem

/-- The problem in words. -/
def message : SyntaxProblem → String
  | tooLong limit => s!"Filter exceeds {limit} bytes"
  | blank => "Empty filter expression"
  | tooDeep limit => s!"Expression nested deeper than {limit} levels"
  | missingOperand => "Unexpected end of input, missing operand"
  | missingOperator field => s!"Missing operator after field '{field}'"
  | missingList => "Expected '(' after 'in'"
  | missingValue => "Unexpected end of input, missing value"
  | unclosedList => "Unclosed value list after 'in'"
  | unclosedGroup => "Unmatched opening parenthesis"
  | fieldExpected found => s!"Expected field name, found {found.description}"
  | operatorExpected found => s!"Expected comparison operator, found {found.description}"
  | listExpected found => s!"Expected '(' after 'in', found {found.description}"
  | valueExpected found => s!"Expected literal value, found {found.description}"
  | separatorExpected found => s!"Expected ',' or ')' in value list, found {found.description}"
  | closingExpected opening found =>
    s!"Expected ')' to close '(' at {opening}, found {found.description}"
  | strayClosing => "Unmatched closing parenthesis"
  | trailing found => s!"Unexpected {found.description} after complete expression"
  | blankItem => "Empty sort item"
  | invalidField found => s!"Invalid sort field '{found}'"
  | invalidDirection found field => s!"Invalid sort direction '{found}' for field '{field}'"

/-- What would have been accepted at the place of the problem. -/
def expected : SyntaxProblem → List Expectation
  | tooLong _ | tooDeep _ => []
  | blank => [.expression]
  | missingOperand | fieldExpected _ => [.field, .negation, .opening]
  | missingOperator _ | operatorExpected _ => Operator.all.map .operator
  | missingList | listExpected _ => [.opening]
  | missingValue => [.value]
  | valueExpected _ => [.text, .number, .boolean true, .boolean false, .null]
  | unclosedList | separatorExpected _ => [.comma, .closing]
  | unclosedGroup => [.closing]
  | closingExpected _ _ => [.closing, .conjunction, .disjunction]
  | strayClosing | trailing _ => [.conjunction, .disjunction, .endOfInput]
  | blankItem | invalidField _ => [.field]
  | invalidDirection _ _ => [.direction .ascending, .direction .descending]

end SyntaxProblem

/-- A problem and the byte at which it stands. -/
structure SyntaxError where
  position : Nat
  problem : SyntaxProblem
deriving DecidableEq

/-- The error in words. -/
def SyntaxError.message (error : SyntaxError) : String :=
  let place := s!"{error.problem.message} at position {error.position}"
  let expected := ", ".intercalate (error.problem.expected.map Expectation.description)
  if error.problem.expected = [] then place else s!"{place} (expected {expected})"

/-- Why a text could not be read. -/
inductive ReadingError where
  | lexical (error : LexicalError)
  | grammatical (error : SyntaxError)
deriving DecidableEq

namespace ReadingError

/-- The byte at which the text could not be read on. -/
def position : ReadingError → Nat
  | lexical error => error.position
  | grammatical error => error.position

/-- The error in words. -/
def message : ReadingError → String
  | lexical error => s!"lex error: {error.message}"
  | grammatical error => s!"parse error: {error.message}"

end ReadingError

end RecordQuery
