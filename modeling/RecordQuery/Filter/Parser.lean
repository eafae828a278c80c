import RecordQuery.Filter.Lexer
import RecordQuery.Filter.SyntaxError

/-! # From tokens to filters

The parser goes through the tokens once. Its state is what may come next and the frames around it: the
negations and groups that are open and the left operands that wait for their right ones. `not` binds
closest, then `and`, then `or`; the two joining words take their operands from the left. A group leaves no
trace in the filter.
-/

namespace RecordQuery

/-- How long and how deeply nested a filter may be. -/
structure Limits where
  maxLength : Nat
  maxDepth : Nat
deriving DecidableEq, Repr

/-- The limits that hold when none are chosen. -/
def Limits.standard : Limits := ⟨4096, 32⟩

namespace Parser

/-- Something that is open around the place where the parser stands. -/
inductive Frame where
  | disjunction (left : Filter)
  | conjunction (left : Filter)
  | negation
  | group (opening : Nat)
deriving DecidableEq

namespace Frame

/-- The frame counts for the depth of nesting. -/
def isNesting : Frame → Bool
  | negation | group _ => true
  | disjunction _ | conjunction _ => false

/-- Where the group of a frame opens. -/
def opening? : Frame → Option Nat
  | group opening => some opening
  | _ => none

end Frame

/-- What the parser has of the innermost operand, and so what may come next. -/
inductive Mode where
  | operand
  | operator (field : String)
  | list (field : String) (start : Nat)
  | value (field : String) (operator : Operator)
  | item (field : String) (start : Nat) (items : List Literal)
  | separator (field : String) (start : Nat) (items : List Literal)
  | complete (filter : Filter)
deriving DecidableEq

/-- Where the parser stands. -/
structure State where
  mode : Mode
  frames : List Frame
deriving DecidableEq

/-- The parser before the first token. -/
def State.initial : State := ⟨.operand, []⟩

/-- A complete operand satisfies the negations and the `and` that wait for it. -/
def complete (filter : Filter) : List Frame → State
  | .negation :: frames => complete (.negation filter) frames
  | .conjunction left :: frames => complete (.conjunction left filter) frames
  | frames => ⟨.complete filter, frames⟩

/-- A complete operand satisfies the `or` that waits for it. -/
def joinDisjunction (filter : Filter) : List Frame → Filter × List Frame
  | .disjunction left :: frames => (.disjunction left filter, frames)
  | frames => (filter, frames)

/-- Completes a comparison. -/
def completeComparison (field : String) (operator : Operator) (operand : Operand) (frames : List Frame) :
    State :=
  complete (.comparison ⟨field, operator, operand⟩) frames

/-- Opens a negation or a group, unless it would be nested too deeply. -/
def nest (limits : Limits) (start : Nat) (frame : Frame) (frames : List Frame) :
    Except SyntaxError State :=
  if limits.maxDepth < (frame :: frames).countP Frame.isNesting then
    .error ⟨start, .tooDeep limits.maxDepth⟩
  else .ok ⟨.operand, frame :: frames⟩

/-- Goes on from a complete operand. -/
def stepComplete (filter : Filter) (frames : List Frame) (token : Token) : Except SyntaxError State :=
  match token.kind with
  | .conjunction => .ok ⟨.operand, .conjunction filter :: frames⟩
  | .disjunction =>
    let (joined, outer) := joinDisjunction filter frames
    .ok ⟨.operand, .disjunction joined :: outer⟩
  | .closing =>
    match joinDisjunction filter frames with
    | (joined, .group _ :: outer) => .ok (complete joined outer)
    | _ => .error ⟨token.start, .strayClosing⟩
  | found =>
    match frames.findSome? Frame.opening? with
    | some opening => .error ⟨token.start, .closingExpected opening found⟩
    | none => .error ⟨token.start, .trailing found⟩

/-- Takes one token. -/
def State.step (limits : Limits) (state : State) (token : Token) : Except SyntaxError State :=
  let frames := state.frames
  match state.mode with
  | .operand =>
    match token.kind with
    | .negation => nest limits token.start .negation frames
    | .opening => nest limits token.start (.group token.start) frames
    | .name field => .ok ⟨.operator field, frames⟩
    | found => .error ⟨token.start, .fieldExpected found⟩
  | .operator field =>
    match token.kind with
    | .relation relation => .ok ⟨.value field (.relation relation), frames⟩
    | .textMatch textMatch => .ok ⟨.value field (.text textMatch), frames⟩
    | .membership => .ok ⟨.list field token.start, frames⟩
    | found => .error ⟨token.start, .operatorExpected found⟩
  | .list field start =>
    match token.kind with
    | .opening => .ok ⟨.item field start [], frames⟩
    | found => .error ⟨token.start, .listExpected found⟩
  | .value field operator =>
    match token.kind.literal? with
    | some literal => .ok (completeComparison field operator (.single literal) frames)
    | none => .error ⟨token.start, .valueExpected token.kind⟩
  | .item field start items =>
    match token.kind.literal? with
    | some literal => .ok ⟨.separator field start (items ++ [literal]), frames⟩
    | none => .error ⟨token.start, .valueExpected token.kind⟩
  | .separator field start items =>
    match token.kind with
    | .comma => .ok ⟨.item field start items, frames⟩
    | .closing => .ok (completeComparison field .membership (.list items) frames)
    | found => .error ⟨token.start, .separatorExpected found⟩
  | .complete filter => stepComplete filter frames token

/-- The filter at the end of a text of `length` bytes. -/
def State.finish (length : Nat) (state : State) : Except SyntaxError Filter :=
  match state.mode with
  | .operand => .error ⟨length, .missingOperand⟩
  | .operator field => .error ⟨length, .missingOperator field⟩
  | .list _ _ => .error ⟨length, .missingList⟩
  | .value _ _ | .item _ _ _ => .error ⟨length, .missingValue⟩
  | .separator _ start _ => .error ⟨start, .unclosedList⟩
  | .complete filter =>
    match state.frames.findSome? Frame.opening? with
    | some opening => .error ⟨opening, .unclosedGroup⟩
    | none => .ok (joinDisjunction filter state.frames).1

/-- These refusals are made only after the next token has been looked at, so that a fault in its
characters comes before them. -/
def looksAhead : SyntaxProblem → Bool
  | .tooDeep _ | .operatorExpected _ | .listExpected _ | .valueExpected _ | .separatorExpected _ => true
  | _ => false

/-- What is wrong at a refused token in front of the rest of the stream. -/
def refusal (error : SyntaxError) : TokenStream → ReadingError
  | .failed fault => if looksAhead error.problem then .lexical fault else .grammatical error
  | _ => .grammatical error

/-- Takes the tokens of a stream one after the other. -/
def run (limits : Limits) (length : Nat) (state : State) : TokenStream → Except ReadingError Filter
  | .done => (state.finish length).mapError .grammatical
  | .failed error => .error (.lexical error)
  | .token token rest =>
    match state.step limits token with
    | .ok next => run limits length next rest
    | .error error => .error (refusal error rest)

end Parser

/-- Reads a text as a filter. -/
def Filter.parse (limits : Limits) (text : String) : Except ReadingError Filter :=
  let length := Text.byteLength text.toList
  if limits.maxLength < length then .error (.grammatical ⟨limits.maxLength, .tooLong limits.maxLength⟩)
  else if text.toList.all Text.isBlank then .error (.grammatical ⟨0, .blank⟩)
  else Parser.run limits length .initial (Lexer.tokens text)

end RecordQuery
