import RecordQuery.Filter.Parser
import RecordQuery.Proofs.Outcome
import RecordQuery.Proofs.Text.Folding

/-! # Filters with their names in lower case

Some fields compare texts without regard to case. Lowering takes the letters A to Z of all names as a to z, and
also those of the texts that are compared with these fields, in tokens and in filters. The parser goes on alike
from lowered tokens: it takes each of them, or refuses each of them at the same place.
-/

namespace RecordQuery

theorem Name.isStart_toLower (character : Char) : Name.isStart character.toLower = Name.isStart character :=
  Text.toLower_congr Name.isStart (by decide) character

theorem Name.isPart_toLower (character : Char) : Name.isPart character.toLower = Name.isPart character :=
  Text.toLower_congr Name.isPart (by decide) character

/-- The literal with the letters of a text in lower case, if they are to be ignored. -/
def Literal.lowered : Bool → Literal → Literal
  | true, text content => .text (Text.lowered content)
  | _, other => other

def Operand.lowered (ignores : Bool) : Operand → Operand
  | single literal => .single (literal.lowered ignores)
  | list literals => .list (literals.map (Literal.lowered ignores))

/-- The comparison with its name in lower case, and also its texts, if its field ignores their case. -/
def Comparison.lowered (ignoresCase : String → Bool) (leaf : Comparison) : Comparison :=
  ⟨Text.lowered leaf.field, leaf.operator, leaf.operand.lowered (ignoresCase leaf.field)⟩

def Filter.lowered (ignoresCase : String → Bool) : Filter → Filter
  | comparison leaf => .comparison (leaf.lowered ignoresCase)
  | conjunction left right => .conjunction (left.lowered ignoresCase) (right.lowered ignoresCase)
  | disjunction left right => .disjunction (left.lowered ignoresCase) (right.lowered ignoresCase)
  | negation inner => .negation (inner.lowered ignoresCase)

namespace TokenKind

/-- The token with the letters of a name in lower case, and also those of a text, if they are to be ignored. -/
def lowered : Bool → TokenKind → TokenKind
  | _, name word => .name (Text.lowered word)
  | true, text content => .text (Text.lowered content)
  | _, other => other

/-- Whether the case of texts is ignored behind a token: the last name in front of a text decides. -/
def ignoresBehind (ignoresCase : String → Bool) (ignores : Bool) : TokenKind → Bool
  | name word => ignoresCase word
  | _ => ignores

theorem literal?_lowered (ignores : Bool) (kind : TokenKind) :
    (kind.lowered ignores).literal? = kind.literal?.map (Literal.lowered ignores) := by
  cases kind <;> cases ignores <;> rfl

end TokenKind

/-- The stream of lowered tokens. -/
def TokenStream.lowered (ignoresCase : String → Bool) : Bool → TokenStream → TokenStream
  | _, done => .done
  | _, failed error => .failed error
  | ignores, token first rest =>
    .token { first with kind := first.kind.lowered ignores }
      (rest.lowered ignoresCase (first.kind.ignoresBehind ignoresCase ignores))

/-- What is told of an error when the spelling is left out: whether it is lexical, and its place. -/
def ReadingError.gist : ReadingError → Bool × Nat
  | lexical error => (true, error.position)
  | grammatical error => (false, error.position)

namespace Parser

open Outcome

/-- The place of a refusal, and whether it is made only after the next token has been looked at. -/
def place (error : SyntaxError) : Nat × Bool := (error.position, looksAhead error.problem)

def Frame.lowered (ignoresCase : String → Bool) : Frame → Frame
  | disjunction left => .disjunction (left.lowered ignoresCase)
  | conjunction left => .conjunction (left.lowered ignoresCase)
  | negation => .negation
  | group opening => .group opening

/-- The field that waits for the rest of its comparison. -/
def Mode.field? : Mode → Option String
  | operator field | list field _ | value field _ | item field _ _ | separator field _ _ => some field
  | operand | complete _ => none

def Mode.lowered (ignoresCase : String → Bool) : Mode → Mode
  | operand => .operand
  | operator field => .operator (Text.lowered field)
  | list field start => .list (Text.lowered field) start
  | value field sign => .value (Text.lowered field) sign
  | item field start items => .item (Text.lowered field) start (items.map (Literal.lowered (ignoresCase field)))
  | separator field start items =>
    .separator (Text.lowered field) start (items.map (Literal.lowered (ignoresCase field)))
  | complete filter => .complete (filter.lowered ignoresCase)

def State.lowered (ignoresCase : String → Bool) (state : State) : State :=
  ⟨state.mode.lowered ignoresCase, state.frames.map (Frame.lowered ignoresCase)⟩

/-- A field that waits for the rest of its comparison ignores the case of texts if the next text does. -/
def State.Agrees (ignoresCase : String → Bool) (ignores : Bool) (state : State) : Prop :=
  ∀ field, state.mode.field? = some field → ignoresCase field = ignores

variable {ignoresCase : String → Bool} {ignores : Bool} {limits : Limits} {state : State} {token : Token}
  {frames : List Frame} {filter : Filter}

theorem isNesting_lowered (frame : Frame) : (frame.lowered ignoresCase).isNesting = frame.isNesting := by
  cases frame <;> rfl

theorem opening?_lowered (frame : Frame) : (frame.lowered ignoresCase).opening? = frame.opening? := by
  cases frame <;> rfl

theorem countP_isNesting_lowered (frames : List Frame) :
    (frames.map (Frame.lowered ignoresCase)).countP Frame.isNesting = frames.countP Frame.isNesting := by
  rw [List.countP_map, funext (f := Frame.isNesting ∘ Frame.lowered ignoresCase) isNesting_lowered]

theorem findSome?_opening?_lowered (frames : List Frame) :
    (frames.map (Frame.lowered ignoresCase)).findSome? Frame.opening? = frames.findSome? Frame.opening? := by
  rw [List.findSome?_map, funext (f := Frame.opening? ∘ Frame.lowered ignoresCase) opening?_lowered]

theorem complete_lowered (filter : Filter) (frames : List Frame) :
    complete (filter.lowered ignoresCase) (frames.map (Frame.lowered ignoresCase)) =
      (complete filter frames).lowered ignoresCase := by
  induction frames generalizing filter with
  | nil => rfl
  | cons frame outer ih =>
    cases frame with
    | negation => exact ih (.negation filter)
    | conjunction left => exact ih (.conjunction left filter)
    | disjunction left => rfl
    | group opening => rfl

theorem joinDisjunction_lowered (filter : Filter) (frames : List Frame) :
    joinDisjunction (filter.lowered ignoresCase) (frames.map (Frame.lowered ignoresCase)) =
      ((joinDisjunction filter frames).1.lowered ignoresCase,
        (joinDisjunction filter frames).2.map (Frame.lowered ignoresCase)) := by
  cases frames with
  | nil => rfl
  | cons frame outer => cases frame <;> rfl

/-- A complete operand waits for nothing. -/
theorem field?_complete (filter : Filter) (frames : List Frame) : (complete filter frames).mode.field? = none := by
  induction frames generalizing filter with
  | nil => rfl
  | cons frame outer ih =>
    cases frame with
    | negation => exact ih (.negation filter)
    | conjunction left => exact ih (.conjunction left filter)
    | disjunction left => rfl
    | group opening => rfl

/-- The next state from a lowered one is the lowered next state, in which the next text is known. -/
def Lowers (ignoresCase : String → Bool) (ignores : Bool) (next lowered : State) : Prop :=
  lowered = next.lowered ignoresCase ∧ next.Agrees ignoresCase ignores

theorem lowers_complete (filter : Filter) (frames : List Frame) :
    Lowers ignoresCase ignores (complete filter frames)
      (complete (filter.lowered ignoresCase) (frames.map (Frame.lowered ignoresCase))) := by
  refine ⟨complete_lowered filter frames, fun field waits => ?_⟩
  rw [field?_complete] at waits
  cases waits

theorem nest_lowered (start : Nat) (frame : Frame) (frames : List Frame) :
    Alike place (Lowers ignoresCase ignores) (nest limits start frame frames)
      (nest limits start (frame.lowered ignoresCase) (frames.map (Frame.lowered ignoresCase))) := by
  unfold nest
  rw [← List.map_cons, countP_isNesting_lowered]
  split
  · exact .error rfl
  · exact .ok ⟨rfl, nofun⟩

theorem stepComplete_lowered (filter : Filter) (frames : List Frame) (token : Token) :
    Alike place (Lowers ignoresCase (token.kind.ignoresBehind ignoresCase ignores))
      (stepComplete filter frames token)
      (stepComplete (filter.lowered ignoresCase) (frames.map (Frame.lowered ignoresCase))
        { token with kind := token.kind.lowered ignores }) := by
  obtain ⟨kind, start, stop⟩ := token
  cases kind with
  | conjunction => exact .ok ⟨rfl, nofun⟩
  | disjunction =>
    simp only [stepComplete, TokenKind.lowered, joinDisjunction_lowered]
    exact .ok ⟨rfl, nofun⟩
  | closing =>
    simp only [stepComplete, TokenKind.lowered, joinDisjunction_lowered]
    generalize joinDisjunction filter frames = joined
    obtain ⟨joined, outer⟩ := joined
    cases outer with
    | nil => exact .error rfl
    | cons frame outer =>
      cases frame with
      | group opening => exact .ok (lowers_complete joined outer)
      | disjunction | conjunction | negation => exact .error rfl
  | text content =>
    -- Only with the flag known does lowering show that a text stays a text.
    cases ignores <;> simp only [stepComplete, TokenKind.lowered, findSome?_opening?_lowered] <;>
      cases frames.findSome? Frame.opening? <;> exact .error rfl
  | _ =>
    simp only [stepComplete, TokenKind.lowered, findSome?_opening?_lowered]
    cases frames.findSome? Frame.opening? <;> exact .error rfl

/-- A lowered token is taken, or refused at its place, as the token itself. -/
theorem step_lowered (limits : Limits) (agrees : state.Agrees ignoresCase ignores) (token : Token) :
    Alike place (Lowers ignoresCase (token.kind.ignoresBehind ignoresCase ignores)) (state.step limits token)
      ((state.lowered ignoresCase).step limits { token with kind := token.kind.lowered ignores }) := by
  obtain ⟨mode, frames⟩ := state
  obtain ⟨kind, start, stop⟩ := token
  -- A name sets the flag for its own comparison; while that is open, no other name is taken.
  cases mode with
  | operand =>
    cases kind with
    | negation => exact nest_lowered start .negation frames
    | opening => exact nest_lowered start (.group start) frames
    | name word => exact .ok ⟨rfl, fun _ waits => Option.some.inj waits ▸ rfl⟩
    | text content => cases ignores <;> exact .error rfl
    | _ => exact .error rfl
  | operator field =>
    cases kind with
    | relation | textMatch | membership => exact .ok ⟨rfl, agrees⟩
    | text content => cases ignores <;> exact .error rfl
    | _ => exact .error rfl
  | list field start =>
    cases kind with
    | opening => exact .ok ⟨rfl, agrees⟩
    | text content => cases ignores <;> exact .error rfl
    | _ => exact .error rfl
  | value field operator =>
    obtain rfl := agrees field rfl
    simp only [State.step, State.lowered, Mode.lowered, TokenKind.literal?_lowered]
    cases kind.literal? with
    | none => exact .error rfl
    | some literal => exact .ok (lowers_complete _ frames)
  | item field start items =>
    obtain rfl := agrees field rfl
    simp only [State.step, State.lowered, Mode.lowered, TokenKind.literal?_lowered]
    cases value : kind.literal? with
    | none => exact .error rfl
    | some literal =>
      refine .ok ⟨by simp [State.lowered, Mode.lowered], fun other waits => ?_⟩
      obtain rfl := Option.some.inj waits
      cases kind <;> first | rfl | cases value
  | separator field start items =>
    obtain rfl := agrees field rfl
    cases kind with
    | comma => exact .ok ⟨rfl, agrees⟩
    | closing => exact .ok (lowers_complete _ frames)
    | text content => cases same : ignoresCase field <;> exact .error rfl
    | _ => exact .error rfl
  | complete filter => exact stepComplete_lowered filter frames _

theorem finish_lowered (length : Nat) (state : State) :
    Alike SyntaxError.position (fun filter lowered => lowered = filter.lowered ignoresCase) (state.finish length)
      ((state.lowered ignoresCase).finish length) := by
  obtain ⟨mode, frames⟩ := state
  cases mode with
  | complete filter =>
    simp only [State.finish, State.lowered, Mode.lowered, findSome?_opening?_lowered, joinDisjunction_lowered]
    cases frames.findSome? Frame.opening? with
    | none => exact .ok rfl
    | some opening => exact .error rfl
  | _ => exact .error rfl

/-- What is reported at a refused token depends on its place and on what follows. -/
theorem gist_refusal {error other : SyntaxError} (same : place error = place other) (stream : TokenStream) :
    (refusal error stream).gist = (refusal other (stream.lowered ignoresCase ignores)).gist := by
  obtain ⟨position, ahead⟩ := Prod.mk.inj same
  cases stream with
  | failed fault =>
    simp only [TokenStream.lowered, refusal, ahead]
    split
    · rfl
    · rw [ReadingError.gist, ReadingError.gist, position]
  | done | token => simp only [TokenStream.lowered, refusal, ReadingError.gist, position]

/-- From lowered tokens the parser gets the lowered filter, or it is stopped at the same place. -/
theorem run_lowered (limits : Limits) (length : Nat) (agrees : state.Agrees ignoresCase ignores) (stream : TokenStream) :
    Alike ReadingError.gist (fun filter lowered => lowered = filter.lowered ignoresCase)
      (run limits length state stream)
      (run limits length (state.lowered ignoresCase) (stream.lowered ignoresCase ignores)) := by
  induction stream generalizing state ignores with
  | done => exact (finish_lowered length state).mapError fun _ _ same => congrArg (Prod.mk false) same
  | failed fault => exact .error rfl
  | token token rest ih =>
    have stepped := step_lowered limits agrees token
    simp only [TokenStream.lowered, run]
    generalize state.step limits token = outcome at stepped ⊢
    generalize (state.lowered ignoresCase).step limits _ = reached at stepped ⊢
    cases stepped with
    | ok lowers =>
      obtain ⟨rfl, agrees⟩ := lowers
      exact ih agrees
    | error same => exact .error (gist_refusal same rest)

end Parser

end RecordQuery
