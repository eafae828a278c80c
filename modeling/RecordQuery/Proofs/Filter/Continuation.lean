import Mathlib.Data.List.Induction
import RecordQuery.Proofs.Filter.Acceptance
import RecordQuery.Proofs.Filter.Outline
import RecordQuery.Proofs.Filter.Spelling

/-! # How a filter may go on

Some tokens begin a filter exactly if the outline has a move over each of them, and then a token may come
next exactly if the outline offers its category. Acceptance is that of texts: tokens that can be written and
lead to the outline of a whole filter are those of a text that is accepted when the limits have room.
-/

namespace RecordQuery

namespace Filter

/-- The tokens are those of a text that is accepted within some limits. -/
def Accepted (kinds : List TokenKind) : Prop :=
  ∃ limits text filter, parse limits text = .ok filter ∧ Lexer.kinds text = kinds

/-- The tokens are the first ones of an accepted text. -/
def CanBegin (kinds : List TokenKind) : Prop := ∃ rest, Accepted (kinds ++ rest)

/-- Behind these tokens some accepted text has a token of the category, or it ends. -/
inductive CanFollow (kinds : List TokenKind) : Expectation → Prop where
  | token {kind : TokenKind} {rest : List TokenKind} (accepted : Accepted (kinds ++ kind :: rest)) :
      CanFollow kinds kind.category
  | endOfInput (accepted : Accepted kinds) : CanFollow kinds .endOfInput

end Filter

namespace Parser

open Grammar

/-- Moves over tokens of these categories. -/
def Outline.reach? (outline : Outline) (categories : List Expectation) : Option Outline :=
  categories.foldlM Outline.next? outline

variable {limits : Limits} {state final : State} {outline middle : Outline} {tokens : List Token}
  {kinds : List TokenKind}

theorem Outline.reach?_append (outline : Outline) (first second : List Expectation) :
    outline.reach? (first ++ second) = (outline.reach? first).bind (·.reach? second) := by
  rw [reach?, List.foldlM_append]
  rfl

theorem Outline.reach?_cons (outline : Outline) (category : Expectation) (rest : List Expectation) :
    outline.reach? (category :: rest) = (outline.next? category).bind (·.reach? rest) := by
  rw [reach?, List.foldlM_cons]
  rfl

/-- The tokens that are taken move the outline. -/
theorem reach?_of_foldlM (taken : tokens.foldlM (State.step limits) state = .ok final) :
    state.outline.reach? (tokens.map fun token => token.kind.category) = some final.outline := by
  induction tokens generalizing state with
  | nil =>
    cases taken
    rfl
  | cons token rest ih =>
    rw [List.foldlM_cons, Outcome.bind_eq_ok_iff] at taken
    obtain ⟨next, stepped, remaining⟩ := taken
    rw [List.map_cons, Outline.reach?_cons, outline_of_step stepped, Option.bind_some]
    exact ih remaining

/-- Every frame that counts was opened by a token of its own. -/
theorem Opens.nesting_le_length {depth : Nat} {frames : List Frame} (opened : Opens depth frames kinds) :
    nesting frames ≤ kinds.length := by
  induction opened with
  | nil => exact Nat.le_refl 0
  | negation _ _ ih | group _ _ _ ih =>
    rw [nesting_cons_of_nests rfl, List.length_append]
    exact Nat.add_le_add_right ih 1
  | conjunction _ _ _ _ ih | disjunction _ _ _ _ ih =>
    rw [nesting_cons_of_joins rfl, List.append_assoc, List.length_append]
    omega

theorem Reads.nesting_le_length {depth : Nat} (reading : Reads depth state kinds) :
    nesting state.frames ≤ kinds.length := by
  cases reading with
  | operand opened => exact opened.nesting_le_length
  | operator _ opened | list _ _ opened | value _ _ opened | firstItem _ _ opened | item _ _ opened
  | separator _ _ opened | complete opened =>
    apply Nat.le_trans opened.nesting_le_length
    rw [List.length_append]
    exact Nat.le_add_right _ _

/-- Where the limit of depth has room for all tokens, each move is a step of the parser. -/
theorem exists_foldlM_of_reach? (deep : tokens.length ≤ limits.maxDepth)
    (reached : Outline.initial.reach? (tokens.map fun token => token.kind.category) = some outline) :
    ∃ state, tokens.foldlM (State.step limits) .initial = .ok state ∧ state.outline = outline := by
  -- By the last token, since what has been read before it says why the parser may refuse it.
  induction tokens using List.reverseRecOn generalizing outline with
  | nil => exact ⟨.initial, rfl, Option.some.inj reached⟩
  | append_singleton before last ih =>
    rw [List.length_append, List.length_singleton] at deep
    rw [List.map_append, Outline.reach?_append, Option.bind_eq_some_iff] at reached
    obtain ⟨middle, front, moved⟩ := reached
    obtain ⟨state, taken, rfl⟩ := ih (by omega) front
    rw [List.map_singleton, Outline.reach?_cons, Option.bind_eq_some_iff] at moved
    obtain ⟨_, moved, same⟩ := moved
    obtain rfl := Option.some.inj same
    have reading := reads_foldlM (.operand .nil) taken
    rw [List.foldlM_append, taken]
    change ∃ state', [last].foldlM (State.step limits) state = .ok state' ∧ _
    rw [List.foldlM_cons]
    cases stepped : state.step limits last with
    | ok next =>
      have same := outline_of_step stepped
      rw [moved] at same
      exact ⟨next, rfl, (Option.some.inj same).symm⟩
    | error error =>
      rcases refuses_of_step reading stepped with ⟨full, -⟩ | refuses
      · have := reading.nesting_le_length
        rw [List.nil_append, List.length_map] at this
        omega
      · rw [refuses.stuck] at moved
        cases moved

/-- A filter is returned exactly in the outline of a whole filter. -/
theorem exists_finish_iff {length : Nat} :
    (∃ filter, state.finish length = .ok filter) ↔ state.outline = .final := by
  obtain ⟨mode, frames⟩ := state
  cases mode with
  | complete filter =>
    have groups : frames.findSome? Frame.opening? = none ↔ openGroups frames = 0 :=
      findSome?_eq_none_iff_openGroups
    simp only [State.finish, State.outline, Mode.place, Outline.final, Outline.mk.injEq, true_and]
    rw [← groups]
    cases frames.findSome? Frame.opening? <;> simp
  | _ => simp [State.finish, State.outline, Mode.place, Outline.final]

/-- The tokens can be written and lead from the outline to the end of a filter. -/
def Outline.Finishes (outline : Outline) (kinds : List TokenKind) : Prop :=
  (∀ kind ∈ kinds, Lexer.Spelled kind) ∧ outline.reach? (kinds.map TokenKind.category) = some .final

theorem Outline.Finishes.cons {kind : TokenKind} (spelled : Lexer.Spelled kind)
    (moved : outline.next? kind.category = some middle) (finishes : middle.Finishes kinds) :
    outline.Finishes (kind :: kinds) := by
  obtain ⟨others, reached⟩ := finishes
  refine ⟨List.forall_mem_cons.mpr ⟨spelled, others⟩, ?_⟩
  rw [List.map_cons, Outline.reach?_cons, moved]
  exact reached

private theorem spelled_name : Lexer.Spelled (.name "a") :=
  Lexer.spelled_word (show Name.isName ['a'] = true from rfl)

/-- From every outline some tokens lead to the end of a filter: those that end the comparison and a closing
parenthesis for each group. -/
theorem exists_finishes (outline : Outline) : ∃ kinds, outline.Finishes kinds := by
  obtain ⟨place, groups⟩ := outline
  have complete : ∃ kinds, Outline.Finishes ⟨.complete, groups⟩ kinds := by
    induction groups with
    | zero => exact ⟨[], by simp, rfl⟩
    | succ groups ih =>
      obtain ⟨kinds, finishes⟩ := ih
      exact ⟨.closing :: kinds, .cons (Lexer.spelled_of_isFree rfl) rfl finishes⟩
  obtain ⟨kinds, complete⟩ := complete
  have value : Outline.Finishes ⟨.value, groups⟩ (.null :: kinds) := .cons (Lexer.spelled_of_isFree rfl) rfl complete
  have separator : Outline.Finishes ⟨.separator, groups⟩ (.closing :: kinds) :=
    .cons (Lexer.spelled_of_isFree rfl) rfl complete
  have item : Outline.Finishes ⟨.item, groups⟩ (.null :: .closing :: kinds) :=
    .cons (Lexer.spelled_of_isFree rfl) rfl separator
  have operator : Outline.Finishes ⟨.operator, groups⟩ (.relation .equal :: .null :: kinds) :=
    .cons (Lexer.spelled_of_isFree rfl) rfl value
  cases place with
  | complete => exact ⟨_, complete⟩
  | value => exact ⟨_, value⟩
  | separator => exact ⟨_, separator⟩
  | item => exact ⟨_, item⟩
  | operator => exact ⟨_, operator⟩
  | list =>
    have opening : Lexer.Spelled .opening := Lexer.spelled_of_isFree rfl
    exact ⟨_, .cons opening rfl item⟩
  | operand => exact ⟨_, .cons spelled_name rfl operator⟩

/-- A category that has a move is that of a token that can be written. -/
theorem exists_spelled_of_next? {category : Expectation} (moved : outline.next? category = some middle) :
    ∃ kind, Lexer.Spelled kind ∧ kind.category = category := by
  cases category with
  | field => exact ⟨.name "a", spelled_name, rfl⟩
  | number =>
    have digits : ∀ digit ∈ ['0'] ++ [], digit.isDigit := List.forall_mem_singleton.mpr rfl
    exact ⟨.number (.ofDigits false ['0'] []), Lexer.spelled_numeral (List.cons_ne_nil _ _) digits, rfl⟩
  | negation => exact ⟨.negation, Lexer.spelled_of_isFree rfl, rfl⟩
  | conjunction => exact ⟨.conjunction, Lexer.spelled_of_isFree rfl, rfl⟩
  | disjunction => exact ⟨.disjunction, Lexer.spelled_of_isFree rfl, rfl⟩
  | opening => exact ⟨.opening, Lexer.spelled_of_isFree rfl, rfl⟩
  | closing => exact ⟨.closing, Lexer.spelled_of_isFree rfl, rfl⟩
  | comma => exact ⟨.comma, Lexer.spelled_of_isFree rfl, rfl⟩
  | text => exact ⟨.text "", Lexer.spelled_of_isFree rfl, rfl⟩
  | boolean value => exact ⟨.boolean value, Lexer.spelled_of_isFree rfl, rfl⟩
  | null => exact ⟨.null, Lexer.spelled_of_isFree rfl, rfl⟩
  | operator wanted => exact ⟨operatorKind wanted, by cases wanted <;> exact Lexer.spelled_of_isFree rfl,
      by cases wanted <;> rfl⟩
  | expression | value | endOfInput | direction =>
    obtain ⟨place, groups⟩ := outline
    cases place <;> cases moved

end Parser

namespace Filter

open RecordQuery.Parser

variable {kinds : List TokenKind} {outline : Outline}

/-- A text with these tokens is accepted within some limits exactly if the tokens can be written and lead to
the outline of a whole filter. -/
theorem accepted_iff : Accepted kinds ↔ Outline.initial.Finishes kinds := by
  constructor
  · rintro ⟨limits, text, filter, accepted, rfl⟩
    refine ⟨fun kind => Lexer.spelled_of_mem_kinds, ?_⟩
    obtain ⟨_, _, nesting, shallow, derivation⟩ := derives_of_parse accepted
    obtain ⟨final, leads, finished⟩ := finish_of_derives limits 0 derivation shallow
    have reached := reach?_of_foldlM (leads _ rfl)
    rw [exists_finish_iff.mp ⟨filter, finished⟩] at reached
    rw [Lexer.kinds, List.map_map]
    exact reached
  · rintro ⟨spelled, reached⟩
    obtain ⟨text, clean, rfl⟩ := Lexer.exists_text_of_spelled spelled
    rw [Lexer.kinds, List.map_map] at reached
    let limits : Limits := ⟨Text.byteLength text.toList, (Lexer.tokens text).tokens.length⟩
    have deep : (Lexer.tokens text).tokens.length ≤ limits.maxDepth := Nat.le_refl _
    obtain ⟨final, taken, same⟩ := exists_foldlM_of_reach? deep reached
    obtain ⟨filter, finished⟩ : ∃ filter, final.finish 0 = .ok filter := exists_finish_iff.mpr same
    obtain ⟨nesting, shallow, derivation⟩ := derives_of_finish (reads_foldlM (.operand .nil) taken) finished
    exact ⟨limits, text, filter, parse_of_derives (Nat.le_refl _) clean derivation shallow, rfl⟩

/-- Tokens that can be written begin a filter exactly if the outline has a move over each of them. -/
theorem canBegin_iff : CanBegin kinds ↔ (∀ kind ∈ kinds, Lexer.Spelled kind) ∧
    ∃ outline, Outline.initial.reach? (kinds.map TokenKind.category) = some outline := by
  constructor
  · rintro ⟨rest, accepted⟩
    obtain ⟨spelled, reached⟩ := accepted_iff.mp accepted
    rw [List.map_append, Outline.reach?_append, Option.bind_eq_some_iff] at reached
    obtain ⟨outline, front, -⟩ := reached
    exact ⟨fun kind member => spelled kind (List.mem_append_left _ member), outline, front⟩
  · rintro ⟨spelled, outline, reached⟩
    obtain ⟨rest, others, completed⟩ := exists_finishes outline
    refine ⟨rest, accepted_iff.mpr ⟨List.forall_mem_append.mpr ⟨spelled, others⟩, ?_⟩⟩
    rw [List.map_append, Outline.reach?_append, reached]
    exact completed

/-- What may follow tokens that begin a filter is what their outline offers. -/
theorem canFollow_iff (spelled : ∀ kind ∈ kinds, Lexer.Spelled kind)
    (reached : Outline.initial.reach? (kinds.map TokenKind.category) = some outline)
    {category : Expectation} : CanFollow kinds category ↔ category ∈ outline.expected := by
  rw [Outline.mem_expected_iff]
  constructor
  · rintro (⟨accepted⟩ | accepted)
    · obtain ⟨-, whole⟩ := accepted_iff.mp accepted
      rw [List.map_append, Outline.reach?_append, reached, Option.bind_some, List.map_cons,
        Outline.reach?_cons, Option.bind_eq_some_iff] at whole
      obtain ⟨moved, next, -⟩ := whole
      exact .inl ⟨moved, next⟩
    · obtain ⟨-, whole⟩ := accepted_iff.mp accepted
      rw [reached] at whole
      exact .inr ⟨rfl, Option.some.inj whole⟩
  · rintro (⟨moved, next⟩ | ⟨rfl, rfl⟩)
    · obtain ⟨kind, writable, rfl⟩ := exists_spelled_of_next? next
      obtain ⟨rest, finishes⟩ := exists_finishes moved
      obtain ⟨others, completed⟩ := finishes.cons writable next
      refine .token (accepted_iff.mpr ⟨List.forall_mem_append.mpr ⟨spelled, others⟩, ?_⟩)
      rw [List.map_append, Outline.reach?_append, reached]
      exact completed
    · exact .endOfInput (accepted_iff.mpr ⟨spelled, reached⟩)

end Filter

end RecordQuery
