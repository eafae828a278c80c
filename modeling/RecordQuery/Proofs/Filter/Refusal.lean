import Mathlib.Data.List.TakeWhile
import RecordQuery.Proofs.Filter.Continuation

/-! # Which problem of a text is reported

A syntax error at a token tells the first token that no filter can go on with, and offers exactly what a
filter can go on with there. Inside a comparison a token is judged only after the next one has been read.
There characters that are no token come before a refused token directly in front of them, and nowhere else.
-/

namespace RecordQuery

namespace Lexer

variable {offset : Nat} {characters : List Char} {text : String} {token : Token} {before after : List Token}
  {fault : LexicalError}

/-- The kinds of the tokens that start before a byte. -/
def kindsBefore (text : String) (position : Nat) : List TokenKind :=
  ((tokens text).tokens.takeWhile fun token => token.start < position).map Token.kind

/-- Tokens start one behind the other. -/
theorem pairwise_start (offset : Nat) (characters : List Char) :
    (tokensFrom offset characters).tokens.Pairwise fun first second => first.start < second.start := by
  fun_induction tokensFrom offset characters with
  | case1 | case3 => exact .nil
  | case2 offset first rest blank ih => exact ih
  | case4 offset first rest solid kind count scanned stop ih =>
    refine List.pairwise_cons.mpr ⟨?_, ih⟩
    intro later member
    obtain ⟨before, _, _, _, _, start, _, _⟩ := scanned_of_mem member
    have wide := Char.utf8Size_pos first
    dsimp only
    omega

/-- Characters that are no token are found behind all tokens. -/
theorem start_lt_position (faulty : (tokensFrom offset characters).error? = some fault) :
    offset ≤ fault.position ∧
      ∀ token ∈ (tokensFrom offset characters).tokens, token.start < fault.position := by
  fun_induction tokensFrom offset characters with
  | case1 => cases faulty
  | case2 offset first rest blank ih =>
    obtain ⟨behind, starts⟩ := ih faulty
    exact ⟨Nat.le_of_add_right_le behind, starts⟩
  | case3 offset first rest solid problem failed =>
    cases faulty
    exact ⟨Nat.le_refl _, by simp [TokenStream.tokens]⟩
  | case4 offset first rest solid kind count scanned stop ih =>
    obtain ⟨behind, starts⟩ := ih faulty
    have wide := Char.utf8Size_pos first
    refine ⟨by omega, List.forall_mem_cons.mpr ⟨?_, starts⟩⟩
    dsimp only
    omega

theorem kindsBefore_of_split (split : (tokens text).tokens = before ++ token :: after) :
    kindsBefore text token.start = before.map Token.kind := by
  have ordered := pairwise_start 0 text.toList
  rw [← tokens, split, List.pairwise_append] at ordered
  have earlier : ∀ other ∈ before, decide (other.start < token.start) = true := fun other member =>
    decide_eq_true (ordered.2.2 other member token List.mem_cons_self)
  rw [kindsBefore, split, List.takeWhile_append_of_pos earlier, List.takeWhile_cons_of_neg (by simp),
    List.append_nil]

theorem kindsBefore_of_error? (faulty : (tokens text).error? = some fault) :
    kindsBefore text fault.position = kinds text := by
  have earlier : ∀ token ∈ (tokens text).tokens, token.start < fault.position := (start_lt_position faulty).2
  rw [kindsBefore, kinds, List.takeWhile_eq_self_iff.mpr fun token member => decide_eq_true (earlier token member)]

end Lexer

namespace Parser

variable {limits : Limits} {length : Nat} {state middle : State} {stream : TokenStream}

/-- How a run from a state ends without a filter. -/
inductive Fails (limits : Limits) (length : Nat) (state : State) (stream : TokenStream) : ReadingError → Prop where
  | atEnd {final : State} {error : SyntaxError} (clean : stream.error? = none)
      (taken : stream.tokens.foldlM (State.step limits) state = .ok final)
      (unfinished : final.finish length = .error error) :
      Fails limits length state stream (.grammatical error)
  | atFault {final : State} {fault : LexicalError} (faulty : stream.error? = some fault)
      (taken : stream.tokens.foldlM (State.step limits) state = .ok final) :
      Fails limits length state stream (.lexical fault)
  | atToken (before : List Token) {after : List Token} {token : Token} {middle : State} {error : SyntaxError}
      (split : stream.tokens = before ++ token :: after)
      (taken : before.foldlM (State.step limits) state = .ok middle)
      (refused : middle.step limits token = .error error)
      (judged : looksAhead error.problem = true → after = [] → stream.error? = none) :
      Fails limits length state stream (.grammatical error)
  | hidden (before : List Token) {token : Token} {middle : State} {error : SyntaxError} {fault : LexicalError}
      (faulty : stream.error? = some fault) (split : stream.tokens = before ++ [token])
      (taken : before.foldlM (State.step limits) state = .ok middle)
      (refused : middle.step limits token = .error error) (ahead : looksAhead error.problem = true) :
      Fails limits length state stream (.lexical fault)

/-- A token that is taken in front leaves the rest to fail. -/
private theorem Fails.cons {token : Token} {rest : TokenStream} {error : ReadingError}
    (stepped : state.step limits token = .ok middle) (fails : Fails limits length middle rest error) :
    Fails limits length state (.token token rest) error := by
  have front {before : List Token} {final : State}
      (taken : before.foldlM (State.step limits) middle = .ok final) :
      (token :: before).foldlM (State.step limits) state = .ok final := by
    rw [List.foldlM_cons, stepped]
    exact taken
  cases fails with
  | atEnd clean taken unfinished => exact .atEnd clean (front taken) unfinished
  | atFault faulty taken => exact .atFault faulty (front taken)
  | atToken before split taken refused judged =>
    exact .atToken (token :: before) (congrArg (token :: ·) split) (front taken) refused judged
  | hidden before faulty split taken refused ahead =>
    exact .hidden (token :: before) faulty (congrArg (token :: ·) split) (front taken) refused ahead

/-- A token that is refused hides behind a fault directly after it, if it is judged after a look ahead. -/
private theorem fails_refusal {token : Token} {rest : TokenStream} {error : SyntaxError}
    (refused : state.step limits token = .error error) :
    Fails limits length state (.token token rest) (refusal error rest) := by
  cases rest with
  | done => exact .atToken [] rfl rfl refused fun _ _ => rfl
  | token => exact .atToken [] rfl rfl refused nofun
  | failed fault =>
    rw [refusal]
    split
    · rename_i ahead
      exact .hidden [] rfl rfl rfl refused ahead
    · rename_i noLook
      exact .atToken [] rfl rfl refused fun ahead => absurd ahead noLook

/-- A run without a filter fails in one of these ways. -/
theorem fails_of_run {error : ReadingError} (failed : run limits length state stream = .error error) :
    Fails limits length state stream error := by
  induction stream generalizing state with
  | done =>
    rw [run] at failed
    cases finished : state.finish length with
    | ok filter => rw [finished] at failed; cases failed
    | error problem =>
      rw [finished] at failed
      cases failed
      exact .atEnd rfl rfl finished
  | failed fault =>
    cases failed
    exact .atFault rfl rfl
  | token token rest ih =>
    rw [run] at failed
    cases stepped : state.step limits token with
    | ok next =>
      rw [stepped] at failed
      exact (ih failed).cons stepped
    | error problem =>
      rw [stepped] at failed
      cases failed
      exact fails_refusal stepped

/-- An end of the text that is refused is not refused at a token. -/
theorem found?_of_finish {final : State} {error : SyntaxError} (unfinished : final.finish length = .error error) :
    error.problem.found? = none := by
  obtain ⟨mode, frames⟩ := final
  cases mode with
  | complete filter =>
    simp only [State.finish] at unfinished
    split at unfinished <;> cases unfinished
    rfl
  | _ =>
    cases unfinished
    rfl

namespace Outline

/-- Nothing is offered twice. -/
theorem nodup_expected (outline : Outline) : outline.expected.Nodup := by
  obtain ⟨place, groups⟩ := outline
  cases place with
  | complete => by_cases outside : groups = 0 <;> simp [expected, outside]
  | operator =>
    simp only [expected]
    decide
  | _ => simp [expected]

/-- Inside a comparison neither a field nor an `and` is offered, and elsewhere one of them is. -/
theorem isInside_iff (outline : Outline) : outline.place.isInside = true ↔
    .field ∉ outline.expected ∧ .conjunction ∉ outline.expected := by
  obtain ⟨place, groups⟩ := outline
  cases place with
  | complete => by_cases outside : groups = 0 <;> simp [expected, Place.isInside, outside]
  | operator =>
    simp only [expected]
    decide
  | _ => simp [expected, Place.isInside]

end Outline

end Parser

/-- The problem is that a limit was exceeded. -/
def SyntaxProblem.isLimit : SyntaxProblem → Bool
  | tooLong _ | tooDeep _ => true
  | _ => false

namespace Filter

open RecordQuery.Parser

variable {limits : Limits} {text : String} {before after : List Token} {middle : State}
  {kinds rest : List TokenKind} {outline : Outline} {found : TokenKind} {fault : LexicalError}

/-- The tokens are behind the field of a comparison that has not ended. -/
def InComparison (kinds : List TokenKind) : Prop :=
  CanBegin kinds ∧ ¬ CanFollow kinds .field ∧ ¬ CanFollow kinds .conjunction

/-- The first tokens of a text can be written. -/
private theorem spelled_of_split (split : (Lexer.tokens text).tokens = before ++ after) :
    ∀ kind ∈ before.map Token.kind, Lexer.Spelled kind := by
  intro kind member
  have among : kind ∈ Lexer.kinds text := by
    rw [Lexer.kinds, split, List.map_append]
    exact List.mem_append_left _ member
  exact Lexer.spelled_of_mem_kinds among

private theorem reached_of_taken (taken : before.foldlM (State.step limits) .initial = .ok middle) :
    Outline.initial.reach? ((before.map Token.kind).map TokenKind.category) = some middle.outline := by
  rw [List.map_map]
  exact reach?_of_foldlM taken

/-- Tokens that were taken begin a filter, and the outline of the parser tells what may follow them. -/
theorem canBegin_of_taken (split : (Lexer.tokens text).tokens = before ++ after)
    (taken : before.foldlM (State.step limits) .initial = .ok middle) :
    CanBegin (before.map Token.kind) ∧
      ∀ category, CanFollow (before.map Token.kind) category ↔ category ∈ middle.outline.expected :=
  ⟨canBegin_iff.mpr ⟨spelled_of_split split, _, reached_of_taken taken⟩,
    fun _ => canFollow_iff (spelled_of_split split) (reached_of_taken taken)⟩

theorem inComparison_iff_isInside (split : (Lexer.tokens text).tokens = before ++ after)
    (taken : before.foldlM (State.step limits) .initial = .ok middle) :
    InComparison (before.map Token.kind) ↔ middle.outline.place.isInside = true := by
  obtain ⟨begins, follows⟩ := canBegin_of_taken split taken
  rw [InComparison, follows, follows, Outline.isInside_iff, and_iff_right begins]

/-- No filter has a token where the outline has no move over it. -/
theorem not_canBegin_of_stuck (reached : Outline.initial.reach? (kinds.map TokenKind.category) = some outline)
    (stuck : outline.next? found.category = none) : ¬ CanBegin (kinds ++ found :: rest) := by
  intro begins
  obtain ⟨-, _, whole⟩ := canBegin_iff.mp begins
  rw [List.map_append, Outline.reach?_append, reached, Option.bind_some, List.map_cons,
    Outline.reach?_cons, stuck] at whole
  cases whole

theorem not_canFollow_of_stuck (reached : Outline.initial.reach? (kinds.map TokenKind.category) = some outline)
    (stuck : outline.next? found.category = none) : ¬ CanFollow kinds found.category := by
  intro follows
  generalize same : found.category = category at follows stuck
  cases follows with
  | @token kind rest accepted =>
    apply not_canBegin_of_stuck reached stuck
    exact ⟨[], by rwa [List.append_nil]⟩
  | endOfInput => cases found <;> cases same

/-- A refused text is too long or blank, or the run over its tokens fails. -/
theorem fails_of_parse {error : ReadingError} (refused : parse limits text = .error error) :
    error = .grammatical ⟨limits.maxLength, .tooLong limits.maxLength⟩ ∨
      error = .grammatical ⟨0, .blank⟩ ∧ Lexer.tokens text = .done ∨
      Fails limits (Text.byteLength text.toList) .initial (Lexer.tokens text) error := by
  unfold parse at refused
  dsimp only at refused
  split at refused
  · exact .inl (Except.error.inj refused).symm
  · split at refused
    · rename_i blank
      exact .inr (.inl ⟨(Except.error.inj refused).symm, Lexer.tokensFrom_blank blank 0⟩)
    · exact .inr (.inr (fails_of_run refused))

/-- A syntax error at a token of the text tells the first token that no accepted filter has there, whatever
the contents of the tokens, and offers exactly the categories of tokens that an accepted filter can have
there. -/
theorem cannot_follow_of_refused {position : Nat} {problem : SyntaxProblem}
    (refused : parse limits text = .error (.grammatical ⟨position, problem⟩))
    (met : problem.found? = some found) :
    (∃ token ∈ (Lexer.tokens text).tokens, token.start = position ∧ token.kind = found) ∧
      CanBegin (Lexer.kindsBefore text position) ∧
      (∀ kinds : List TokenKind,
        kinds.map TokenKind.category = (Lexer.kindsBefore text position).map TokenKind.category →
          ¬ CanFollow kinds found.category) ∧
      problem.expected.Nodup ∧
      ∀ category, category ∈ problem.expected ↔ CanFollow (Lexer.kindsBefore text position) category := by
  rcases fails_of_parse refused with long | ⟨blank, -⟩ | fails
  · cases long
    cases met
  · cases blank
    cases met
  cases fails with
  | atEnd _ _ unfinished =>
    rw [found?_of_finish unfinished] at met
    cases met
  | @atToken before after token middle _ split taken stopped judged =>
    rcases refuses_of_step (reads_foldlM (.operand .nil) taken) stopped with ⟨-, deep, -⟩ | refuses
    · cases deep
      cases met
    obtain ⟨begins, follows⟩ := canBegin_of_taken split taken
    obtain rfl : position = token.start := refuses.position
    obtain rfl : token.kind = found := Option.some.inj (refuses.found.symm.trans met)
    have offered : problem.expected = middle.outline.expected := refuses.expected
    rw [Lexer.kindsBefore_of_split split, offered]
    refine ⟨⟨token, by simp [split], rfl, rfl⟩, begins, ?_, middle.outline.nodup_expected,
      fun category => (follows category).symm⟩
    intro kinds same
    refine not_canFollow_of_stuck ?_ refuses.stuck
    rw [same]
    exact reached_of_taken taken

/-- Behind a membership in a group that is open, a name comes where only `and`, `or` and the closing
parenthesis can. -/
theorem cannot_follow_of_refused_in_group :
    let kinds := [.negation, .opening, .name "a", .membership, .opening, .null, .closing]
    parse .standard "not (a in (null) b" = .error (.grammatical ⟨17, .closingExpected 4 (.name "b")⟩) ∧
      CanBegin kinds ∧ ¬ CanFollow kinds .field ∧
      ∀ category, category ∈ [.closing, .conjunction, .disjunction] ↔ CanFollow kinds category := by
  intro kinds
  have refused : parse .standard "not (a in (null) b" =
      .error (.grammatical ⟨17, .closingExpected 4 (.name "b")⟩) := by decide +kernel
  have same : Lexer.kindsBefore "not (a in (null) b" 17 = kinds := by decide +kernel
  obtain ⟨-, begins, stops, -, follows⟩ := cannot_follow_of_refused refused rfl
  rw [same] at begins stops follows
  exact ⟨refused, begins, stops kinds rfl, follows⟩

/-- Where a text has characters that are no token and these are reported, the tokens in front of them begin
a filter, or all of them but the last one lead into a comparison. -/
theorem cause_of_lexical (refused : parse limits text = .error (.lexical fault)) :
    (Lexer.tokens text).error? = some fault ∧ (CanBegin (Lexer.kindsBefore text fault.position) ∨
      ∃ kinds last, Lexer.kindsBefore text fault.position = kinds ++ [last] ∧ InComparison kinds) := by
  rcases fails_of_parse refused with long | ⟨blank, -⟩ | fails
  · cases long
  · cases blank
  cases fails with
  | atFault faulty taken =>
    have whole := (List.append_nil (Lexer.tokens text).tokens).symm
    rw [Lexer.kindsBefore_of_error? faulty]
    exact ⟨faulty, .inl (canBegin_of_taken whole taken).1⟩
  | @hidden before token middle error _ faulty split taken stopped ahead =>
    have same : Lexer.kinds text = before.map Token.kind ++ [token.kind] := by
      rw [Lexer.kinds, split, List.map_append, List.map_singleton]
    rw [Lexer.kindsBefore_of_error? faulty]
    refine ⟨faulty, ?_⟩
    rcases refuses_of_step (reads_foldlM (.operand .nil) taken) stopped with ⟨-, -, moved, next⟩ | refuses
    · -- The limit of depth refuses a token that a filter could go on with.
      left
      refine canBegin_iff.mpr ⟨fun kind => Lexer.spelled_of_mem_kinds, moved, ?_⟩
      rw [same, List.map_append, Outline.reach?_append, reached_of_taken taken]
      exact (Outline.reach?_cons _ _ _).trans (congrArg (·.bind (·.reach? [])) next)
    · right
      refine ⟨_, _, same, (inComparison_iff_isInside split taken).mpr ?_⟩
      rw [← refuses.ahead]
      exact ahead

/-- A syntax error at a token is reported before the characters behind it that are no token, unless the
token is inside a comparison and the last one. -/
theorem not_refused_of_cause {token : Token} {error : SyntaxError}
    (split : (Lexer.tokens text).tokens = before ++ token :: after)
    (taken : before.foldlM (State.step limits) .initial = .ok middle)
    (refuses : middle.outline.Refuses token error)
    (judged : looksAhead error.problem = true → after ≠ []) :
    ¬ CanBegin (Lexer.kinds text) ∧
      ∀ kinds last, Lexer.kinds text = kinds ++ [last] → ¬ InComparison kinds := by
  have same : Lexer.kinds text = before.map Token.kind ++ token.kind :: after.map Token.kind := by
    rw [Lexer.kinds, split, List.map_append, List.map_cons]
  have stops {rest : List TokenKind} : ¬ CanBegin (before.map Token.kind ++ token.kind :: rest) :=
    not_canBegin_of_stuck (reached_of_taken taken) refuses.stuck
  refine ⟨same ▸ stops, ?_⟩
  intro kinds last whole inside
  rw [same] at whole
  rcases List.eq_nil_or_concat after with rfl | ⟨others, final, rfl⟩
  · -- The refused token is the last one.
    obtain ⟨rfl, -⟩ := List.append_inj' whole rfl
    rw [inComparison_iff_isInside split taken, ← refuses.ahead] at inside
    exact judged inside rfl
  · -- It is among the tokens in front of the last one, which then begin no filter.
    rw [List.concat_eq_append, List.map_append, List.map_singleton, ← List.cons_append,
      ← List.append_assoc] at whole
    obtain ⟨rfl, -⟩ := List.append_inj' whole rfl
    exact stops inside.1

/-- Characters that are no token are reported if the tokens in front of them begin a filter, and otherwise
exactly if all of these tokens but the last one lead into a comparison. Only there they hide a syntax error
that is further left. -/
theorem parse_eq_lexical_iff
    (within : ∀ error, parse limits text = .error (.grammatical error) → error.problem.isLimit = false) :
    parse limits text = .error (.lexical fault) ↔ (Lexer.tokens text).error? = some fault ∧
      (CanBegin (Lexer.kindsBefore text fault.position) ∨
        ∃ kinds last, Lexer.kindsBefore text fault.position = kinds ++ [last] ∧ InComparison kinds) := by
  constructor
  · exact cause_of_lexical
  · rintro ⟨faulty, cause⟩
    rw [Lexer.kindsBefore_of_error? faulty] at cause
    cases outcome : parse limits text with
    | ok filter =>
      obtain ⟨-, clean, -⟩ := derives_of_parse outcome
      cases faulty.symm.trans clean
    | error error =>
      rcases fails_of_parse outcome with rfl | ⟨-, done⟩ | fails
      · cases within _ outcome
      · rw [done] at faulty
        cases faulty
      cases fails with
      | atEnd clean => cases faulty.symm.trans clean
      | atFault found | hidden _ found => rw [Option.some.inj (faulty.symm.trans found)]
      | atToken _ split taken stopped judged =>
        exfalso
        rcases refuses_of_step (reads_foldlM (.operand .nil) taken) stopped with ⟨-, rfl, -⟩ | refuses
        · cases within _ outcome
        obtain ⟨stops, outside⟩ := not_refused_of_cause split taken refuses
          fun ahead last => nomatch faulty.symm.trans (judged ahead last)
        rcases cause with begins | ⟨kinds, last, whole, inside⟩
        · exact stops begins
        · exact outside kinds last whole inside

/-- A character that is no token hides the number in front of it, which stands where an operator has to be. -/
theorem parse_eq_lexical_of_number :
    parse .standard "a 5 $" = .error (.lexical ⟨4, .unrecognized '$'⟩) ∧
      ¬ CanBegin (Lexer.kindsBefore "a 5 $" 4) ∧ InComparison [.name "a"] := by
  let five : TokenKind := .number (.ofDigits false ['5'] [])
  have refused : parse .standard "a 5 $" = .error (.lexical ⟨4, .unrecognized '$'⟩) := by decide +kernel
  have same : Lexer.kindsBefore "a 5 $" 4 = [.name "a", five] := by decide +kernel
  have reached : Outline.initial.reach? ([.name "a"].map TokenKind.category) = some ⟨.operator, 0⟩ := rfl
  have stops : ¬ CanBegin [.name "a", five] := not_canBegin_of_stuck reached rfl
  have within (error : SyntaxError) (grammatical : parse .standard "a 5 $" = .error (.grammatical error)) :
      error.problem.isLimit = false := by
    rw [refused] at grammatical
    cases grammatical
  obtain ⟨-, cause⟩ := (parse_eq_lexical_iff within).mp refused
  rw [same] at cause ⊢
  rcases cause with begins | ⟨kinds, last, whole, inside⟩
  · exact absurd begins stops
  · have ends : [.name "a"] ++ [five] = kinds ++ [last] := whole
    obtain ⟨rfl, -⟩ := List.append_inj' ends rfl
    exact ⟨refused, stops, inside⟩

end Filter

end RecordQuery
