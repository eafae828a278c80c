import RecordQuery.Proofs.Filter.Soundness

/-! # The parser without the contents of its tokens

What may come next depends on little of what has been read: on the place inside the innermost operand and on
the number of groups that are open. An outline keeps just that. A token that the parser takes moves the
outline by its category alone; a token that is refused, but for its depth, has no move, and the refusal offers
the categories that have one.
-/

namespace RecordQuery

/-- The category under which a token is offered. -/
def TokenKind.category : TokenKind → Expectation
  | conjunction => .conjunction
  | disjunction => .disjunction
  | negation => .negation
  | membership => .operator .membership
  | textMatch word => .operator (.text word)
  | relation sign => .operator (.relation sign)
  | name _ => .field
  | text _ => .text
  | number _ => .number
  | boolean value => .boolean value
  | null => .null
  | opening => .opening
  | closing => .closing
  | comma => .comma

/-- The token that the problem was met at, for the problems of a token that is there. -/
def SyntaxProblem.found? : SyntaxProblem → Option TokenKind
  | fieldExpected found | operatorExpected found | listExpected found | valueExpected found
  | separatorExpected found | closingExpected _ found | trailing found => some found
  | strayClosing => some .closing
  | _ => none

namespace Parser

open Grammar

/-- Where the parser stands in the innermost operand. -/
inductive Place where
  | operand
  | operator
  | list
  | value
  | item
  | separator
  | complete
deriving DecidableEq

/-- The place is between the field of a comparison and the end of that comparison. -/
def Place.isInside : Place → Bool
  | operand | complete => false
  | operator | list | value | item | separator => true

/-- A place and the number of groups that are open around it. -/
structure Outline where
  place : Place
  groups : Nat
deriving DecidableEq

namespace Outline

/-- The outline before the first token. -/
def initial : Outline := ⟨.operand, 0⟩

/-- The outline of a whole filter. -/
def final : Outline := ⟨.complete, 0⟩

/-- Moves over a literal to a place. -/
def behindLiteral (outline : Outline) : Expectation → Option Outline
  | .text | .number | .boolean _ | .null => some outline
  | _ => none

/-- Moves over a token of a category. -/
def next? : Outline → Expectation → Option Outline
  | ⟨.operand, groups⟩, .negation => some ⟨.operand, groups⟩
  | ⟨.operand, groups⟩, .opening => some ⟨.operand, groups + 1⟩
  | ⟨.operand, groups⟩, .field => some ⟨.operator, groups⟩
  | ⟨.operator, groups⟩, .operator wanted => some ⟨if wanted = .membership then .list else .value, groups⟩
  | ⟨.list, groups⟩, .opening => some ⟨.item, groups⟩
  | ⟨.value, groups⟩, category => behindLiteral ⟨.complete, groups⟩ category
  | ⟨.item, groups⟩, category => behindLiteral ⟨.separator, groups⟩ category
  | ⟨.separator, groups⟩, .comma => some ⟨.item, groups⟩
  | ⟨.separator, groups⟩, .closing => some ⟨.complete, groups⟩
  | ⟨.complete, groups⟩, .conjunction | ⟨.complete, groups⟩, .disjunction => some ⟨.operand, groups⟩
  | ⟨.complete, groups + 1⟩, .closing => some ⟨.complete, groups⟩
  | _, _ => none

/-- The categories that have a move, and the end of the input where a filter may end. -/
def expected (outline : Outline) : List Expectation :=
  match outline.place with
  | .operand => [.field, .negation, .opening]
  | .operator => Operator.all.map .operator
  | .list => [.opening]
  | .value | .item => [.text, .number, .boolean true, .boolean false, .null]
  | .separator => [.comma, .closing]
  | .complete =>
    if outline.groups = 0 then [.conjunction, .disjunction, .endOfInput]
    else [.closing, .conjunction, .disjunction]

theorem mem_all_operators (operator : Operator) : operator ∈ Operator.all := by
  cases operator with
  | relation sign => cases sign <;> decide
  | text word => cases word <;> decide
  | membership => decide

/-- What is offered has a move, or the filter may end. -/
theorem mem_expected_iff {outline : Outline} {category : Expectation} :
    category ∈ outline.expected ↔
      (∃ moved, outline.next? category = some moved) ∨ category = .endOfInput ∧ outline = final := by
  obtain ⟨place, groups⟩ := outline
  cases place with
  | operator => cases category <;> simp [expected, next?, final, mem_all_operators]
  | complete => cases groups <;> cases category <;> simp [expected, next?, final]
  | value | item =>
    cases category with
    | boolean value => cases value <;> simp [expected, next?, behindLiteral]
    | _ => simp [expected, next?, behindLiteral, final]
  | operand | list | separator => cases category <;> simp [expected, next?, final]

end Outline

/-- The place of a mode. -/
def Mode.place : Mode → Place
  | operand => .operand
  | operator _ => .operator
  | list _ _ => .list
  | value _ _ => .value
  | item _ _ _ => .item
  | separator _ _ _ => .separator
  | complete _ => .complete

/-- The number of groups among the frames. -/
def openGroups (frames : List Frame) : Nat := frames.countP fun frame => frame.opening?.isSome

/-- The state without the contents of the tokens that led to it. -/
def State.outline (state : State) : Outline := ⟨state.mode.place, openGroups state.frames⟩

variable {limits : Limits} {state next : State} {token : Token} {frames outer : List Frame}
  {filter joined : Filter} {kinds : List TokenKind}

theorem openGroups_group (start : Nat) (frames : List Frame) :
    openGroups (.group start :: frames) = openGroups frames + 1 :=
  List.countP_cons_of_pos rfl

theorem findSome?_eq_none_iff_openGroups :
    frames.findSome? Frame.opening? = none ↔ openGroups frames = 0 := by
  rw [List.findSome?_eq_none_iff, openGroups, List.countP_eq_zero]
  simp

theorem openGroups_joinDisjunction (join : joinDisjunction filter frames = (joined, outer)) :
    openGroups frames = openGroups outer := by
  unfold joinDisjunction at join
  split at join <;> cases join <;> rfl

/-- A complete operand leaves the groups around it open. -/
theorem outline_complete (filter : Filter) (frames : List Frame) :
    (complete filter frames).outline = ⟨.complete, openGroups frames⟩ := by
  induction frames generalizing filter with
  | nil => rfl
  | cons frame outer ih =>
    cases frame with
    | negation => exact ih _
    | conjunction left => exact ih _
    | disjunction | group => rfl

private theorem behindLiteral_of_literal? {kind : TokenKind} {literal : Literal}
    (value : kind.literal? = some literal) (outline : Outline) : outline.behindLiteral kind.category = some outline := by
  cases kind <;> first | rfl | cases value

private theorem behindLiteral_of_no_literal? {kind : TokenKind} (noValue : kind.literal? = none)
    (outline : Outline) : outline.behindLiteral kind.category = none := by
  cases kind <;> first | rfl | cases noValue

/-- A token that is taken moves the outline by its category. -/
theorem outline_of_step (stepped : state.step limits token = .ok next) :
    state.outline.next? token.kind.category = some next.outline := by
  obtain ⟨mode, frames⟩ := state
  cases mode with
  | operand =>
    simp only [State.step] at stepped
    split at stepped
    · rename_i found
      obtain ⟨-, rfl⟩ := (nest_eq_ok_iff rfl).mp stepped
      rw [found]
      rfl
    · rename_i found
      obtain ⟨-, rfl⟩ := (nest_eq_ok_iff rfl).mp stepped
      rw [found, State.outline, State.outline, openGroups_group]
      rfl
    · rename_i field found
      cases stepped
      rw [found]
      rfl
    · cases stepped
  | operator field =>
    simp only [State.step] at stepped
    split at stepped
    · rename_i sign found
      cases stepped
      rw [found]
      rfl
    · rename_i word found
      cases stepped
      rw [found]
      rfl
    · rename_i found
      cases stepped
      rw [found]
      rfl
    · cases stepped
  | list field start =>
    simp only [State.step] at stepped
    split at stepped
    · rename_i found
      cases stepped
      rw [found]
      rfl
    · cases stepped
  | value field operator =>
    simp only [State.step] at stepped
    split at stepped
    · rename_i literal value
      cases stepped
      rw [completeComparison, outline_complete]
      exact behindLiteral_of_literal? value _
    · cases stepped
  | item field start items =>
    simp only [State.step] at stepped
    split at stepped
    · rename_i literal value
      cases stepped
      exact behindLiteral_of_literal? value _
    · cases stepped
  | separator field start items =>
    simp only [State.step] at stepped
    split at stepped
    · rename_i found
      cases stepped
      rw [found]
      rfl
    · rename_i found
      cases stepped
      rw [found, completeComparison, outline_complete]
      rfl
    · cases stepped
  | complete filter =>
    simp only [State.step, stepComplete] at stepped
    split at stepped
    · rename_i found
      cases stepped
      rw [found]
      rfl
    · rename_i found
      cases stepped
      rw [found]
      cases join : joinDisjunction filter frames with
      | mk joined outer =>
        rw [State.outline, openGroups_joinDisjunction join]
        rfl
    · rename_i found
      split at stepped
      · rename_i joined start outer join
        cases stepped
        rw [found, outline_complete, State.outline, openGroups_joinDisjunction join, openGroups_group]
        rfl
      · cases stepped
    · split at stepped <;> cases stepped

/-- The token has no move from the outline, and the error tells where and what it is and what would have
been taken. Inside a comparison the error is made after a look at the next token. -/
structure Outline.Refuses (outline : Outline) (token : Token) (error : SyntaxError) : Prop where
  position : error.position = token.start
  found : error.problem.found? = some token.kind
  stuck : outline.next? token.kind.category = none
  expected : error.problem.expected = outline.expected
  ahead : looksAhead error.problem = outline.place.isInside

/-- A negation or a group is refused only for its depth. -/
theorem nest_eq_error_iff {start : Nat} {frame : Frame} {error : SyntaxError}
    (counts : frame.isNesting = true) :
    nest limits start frame frames = .error error ↔
      limits.maxDepth ≤ nesting frames ∧ error = ⟨start, .tooDeep limits.maxDepth⟩ := by
  change (if limits.maxDepth < nesting (frame :: frames) then _ else _) = _ ↔ _
  rw [nesting_cons_of_nests counts]
  split
  · simp only [Except.error.injEq, eq_comm, iff_and_self]
    omega
  · simp only [reduceCtorEq, false_iff, not_and]
    omega

/-- Behind a complete operand a token is refused by what is open around it. -/
private theorem refuses_of_stepComplete {depth inner : Nat} {before : List TokenKind} {error : SyntaxError}
    (opened : Opens depth frames before) (settled : Settled frames)
    (derivation : Derives .conjunction kinds inner filter) (room : nesting frames + inner ≤ depth)
    (refused : stepComplete filter frames token = .error error) :
    Outline.Refuses ⟨.complete, openGroups frames⟩ token error := by
  unfold stepComplete at refused
  split at refused
  · cases refused
  · cases refused
  · rename_i found
    split at refused
    · cases refused
    · rename_i noGroup
      cases refused
      cases join : joinDisjunction filter frames with
      | mk joined outer =>
        obtain ⟨_, _, _, _, outside, enclosed, _, _⟩ :=
          derives_joinDisjunction opened settled derivation room join
        cases outside with
        | nil =>
          rw [openGroups_joinDisjunction join]
          exact ⟨rfl, by rw [found]; rfl, by rw [found]; rfl, rfl, rfl⟩
        | group start => exact absurd join (noGroup _ _ _)
        | negation | conjunction | disjunction => cases enclosed
  · rename_i noConjunction noDisjunction noClosing
    have stuck : Outline.next? ⟨.complete, openGroups frames⟩ token.kind.category = none := by
      cases found : token.kind <;> first | rfl | simp_all
    split at refused
    · rename_i opening found
      cases refused
      have inside : openGroups frames ≠ 0 := by
        intro outside
        rw [findSome?_eq_none_iff_openGroups.mpr outside] at found
        cases found
      exact ⟨rfl, rfl, stuck, by simp [SyntaxProblem.expected, Outline.expected, inside], rfl⟩
    · rename_i found
      cases refused
      have outside := findSome?_eq_none_iff_openGroups.mp found
      exact ⟨rfl, rfl, stuck, by simp [SyntaxProblem.expected, Outline.expected, outside], rfl⟩

/-- A token that is refused for another reason than its depth has no move. -/
theorem refuses_of_step {error : SyntaxError} (reading : Reads limits.maxDepth state kinds)
    (refused : state.step limits token = .error error) :
    (limits.maxDepth ≤ nesting state.frames ∧ error = ⟨token.start, .tooDeep limits.maxDepth⟩ ∧
      ∃ moved, state.outline.next? token.kind.category = some moved) ∨
    state.outline.Refuses token error := by
  cases reading with
  | operand opened =>
    simp only [State.step] at refused
    split at refused
    · rename_i found
      obtain ⟨full, rfl⟩ := (nest_eq_error_iff rfl).mp refused
      rw [found]
      exact .inl ⟨full, rfl, _, rfl⟩
    · rename_i found
      obtain ⟨full, rfl⟩ := (nest_eq_error_iff rfl).mp refused
      rw [found]
      exact .inl ⟨full, rfl, _, rfl⟩
    · cases refused
    · rename_i noNegation noOpening noName
      cases refused
      refine .inr ⟨rfl, rfl, ?_, rfl, rfl⟩
      cases found : token.kind <;> first | rfl | simp_all
  | operator field opened =>
    simp only [State.step] at refused
    split at refused
    · cases refused
    · cases refused
    · cases refused
    · rename_i noRelation noText noMembership
      cases refused
      refine .inr ⟨rfl, rfl, ?_, rfl, rfl⟩
      cases found : token.kind <;> first | rfl | simp_all
  | list field start opened =>
    simp only [State.step] at refused
    split at refused
    · cases refused
    · rename_i noOpening
      cases refused
      refine .inr ⟨rfl, rfl, ?_, rfl, rfl⟩
      cases found : token.kind <;> first | rfl | simp_all
  | value field operator opened noList =>
    simp only [State.step] at refused
    split at refused
    · cases refused
    · rename_i noValue
      cases refused
      exact .inr ⟨rfl, rfl, behindLiteral_of_no_literal? noValue _, rfl, rfl⟩
  | firstItem field start opened | item field start opened items =>
    simp only [State.step] at refused
    split at refused
    · cases refused
    · rename_i noValue
      cases refused
      exact .inr ⟨rfl, rfl, behindLiteral_of_no_literal? noValue _, rfl, rfl⟩
  | separator field start opened items =>
    simp only [State.step] at refused
    split at refused
    · cases refused
    · cases refused
    · rename_i noComma noClosing
      cases refused
      refine .inr ⟨rfl, rfl, ?_, rfl, rfl⟩
      cases found : token.kind <;> first | rfl | simp_all
  | complete opened settled derivation room =>
    exact .inr (refuses_of_stepComplete opened settled derivation room refused)

end Parser

end RecordQuery
