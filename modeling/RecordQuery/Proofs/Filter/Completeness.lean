import RecordQuery.Proofs.Filter.Soundness

/-! # What the grammar derives, the parser accepts

The derivation directs the parser: the tokens of a part of a filter lead from the place where an operand
comes next to the place behind that operand, with the same frames around it. The groups of the part carry
the places of their tokens, but they are closed inside it, so that nothing of them is left. Two derivations
from the same tokens direct the same steps; hence there is at most one filter.
-/

namespace RecordQuery.Parser

open Grammar

/-- The tokens lead from one state to another one. -/
def Leads (limits : Limits) (state : State) (kinds : List TokenKind) (next : State) : Prop :=
  ∀ tokens : List Token, tokens.map Token.kind = kinds → tokens.foldlM (State.step limits) state = .ok next

variable {limits : Limits} {state next : State} {first second kinds : List TokenKind}
  {frames : List Frame}

theorem Leads.append {middle : State} (left : Leads limits state first middle)
    (right : Leads limits middle second next) : Leads limits state (first ++ second) next := by
  intro tokens same
  obtain ⟨front, back, rfl, sameFront, sameBack⟩ := List.map_eq_append_iff.mp same
  rw [List.foldlM_append, left front sameFront]
  exact right back sameBack

theorem Leads.nil : Leads limits state [] state := by
  intro tokens same
  rw [List.map_eq_nil_iff.mp same]
  rfl

/-- The first step may depend on where its token stands. -/
theorem Leads.cons {kind : TokenKind}
    (stepped : ∀ token : Token, token.kind = kind →
      ∃ middle, state.step limits token = .ok middle ∧ Leads limits middle kinds next) :
    Leads limits state (kind :: kinds) next := by
  intro tokens same
  obtain ⟨token, others, rfl, sameFirst, sameRest⟩ := List.map_eq_cons_iff.mp same
  obtain ⟨middle, step, rest⟩ := stepped token sameFirst
  rw [List.foldlM_cons, step]
  exact rest others sameRest

theorem Leads.single {kind : TokenKind}
    (stepped : ∀ token : Token, token.kind = kind → state.step limits token = .ok next) :
    Leads limits state [kind] next :=
  .cons fun token found => ⟨next, stepped token found, .nil⟩

/-- Items fill the list that is open. -/
theorem leads_items {field : String} {start : Nat} {literals : List Literal}
    (items : WritesItems kinds literals) :
    Leads limits ⟨.item field start [], frames⟩ kinds ⟨.separator field start literals, frames⟩ := by
  induction items with
  | one value =>
    apply Leads.single
    rintro token rfl
    simp only [State.step, literal?_eq_some_iff.mpr value, List.nil_append]
  | @more _ literals _ _ _ value ih =>
    apply ih.append
    apply Leads.cons
    intro token found
    refine ⟨⟨.item field start literals, frames⟩, by simp only [State.step, found], ?_⟩
    apply Leads.single
    rintro token rfl
    simp only [State.step, literal?_eq_some_iff.mpr value]

/-- A comparison becomes a complete operand. -/
theorem leads_comparison {leaf : Comparison} (written : WritesComparison kinds leaf) :
    Leads limits ⟨.operand, frames⟩ kinds (complete (.comparison leaf) frames) := by
  cases written with
  | @single operator _ _ field noList value =>
    apply Leads.cons
    intro name found
    refine ⟨⟨.operator field, frames⟩, by simp only [State.step, found], ?_⟩
    apply Leads.cons
    intro sign found
    refine ⟨⟨.value field operator, frames⟩, ?_, ?_⟩
    · cases operator with
      | relation wanted | text wanted => simp only [State.step, found, operatorKind]
      | membership => exact (noList rfl).elim
    apply Leads.single
    rintro token rfl
    simp only [State.step, literal?_eq_some_iff.mpr value, completeComparison]
  | @membership _ literals field items =>
    apply Leads.cons
    intro name found
    refine ⟨⟨.operator field, frames⟩, by simp only [State.step, found], ?_⟩
    apply Leads.cons
    intro word found
    refine ⟨⟨.list field word.start, frames⟩, by simp only [State.step, found], ?_⟩
    apply Leads.cons
    intro opening found
    refine ⟨⟨.item field word.start [], frames⟩, by simp only [State.step, found], ?_⟩
    apply (leads_items items).append
    apply Leads.single
    intro closing found
    simp only [State.step, found, completeComparison]

/-- A part of this level may begin behind the frames. -/
def Follows : Level → List Frame → Prop
  | .disjunction, frames => Enclosed frames
  | .conjunction, frames => Settled frames
  | .negation, _ => True

/-- The state behind a part of this level, with the frames that were there in front of it. -/
def Completes : Level → Filter → List Frame → State → Prop
  | .disjunction, filter, frames, state =>
    ∃ last outer, state = ⟨.complete last, outer⟩ ∧ joinDisjunction last outer = (filter, frames)
  | .conjunction, filter, frames, state => state = ⟨.complete filter, frames⟩
  | .negation, filter, frames, state => state = complete filter frames

/-- The tokens of a part lead behind it, as long as the limit of depth has room for its nesting. -/
theorem leads_derived {level : Level} {inner : Nat} {filter : Filter}
    (derivation : Derives level kinds inner filter) (follows : Follows level frames)
    (room : nesting frames + inner ≤ limits.maxDepth) :
    ∃ next, Leads limits ⟨.operand, frames⟩ kinds next ∧ Completes level filter frames next := by
  induction derivation generalizing frames with
  | comparison written => exact ⟨_, leads_comparison written, rfl⟩
  | @negation kinds total inner _ ih =>
    have deeper : nesting (.negation :: frames) + total ≤ limits.maxDepth := by
      rw [nesting_cons_of_nests rfl]
      omega
    obtain ⟨next, leads, rfl⟩ := ih trivial deeper
    refine ⟨_, .cons fun token found => ⟨_, ?_, leads⟩, rfl⟩
    simp only [State.step, found]
    exact (nest_eq_ok_iff rfl).mpr ⟨by omega, rfl⟩
  | @group kinds total filter _ ih =>
    refine ⟨complete filter frames, .cons fun token found => ?_, rfl⟩
    have deeper : nesting (.group token.start :: frames) + total ≤ limits.maxDepth := by
      rw [nesting_cons_of_nests rfl]
      omega
    obtain ⟨_, leads, last, outer, rfl, join⟩ :=
      ih (show Follows .disjunction (.group token.start :: frames) from trivial) deeper
    refine ⟨⟨.operand, .group token.start :: frames⟩, ?_, leads.append (.single fun closing shut => ?_)⟩
    · simp only [State.step, found]
      exact (nest_eq_ok_iff rfl).mpr ⟨by omega, rfl⟩
    · simp only [State.step, stepComplete, shut, join]
  | operand _ ih =>
    obtain ⟨_, leads, rfl⟩ := ih trivial room
    exact ⟨_, leads, complete_of_settled follows _⟩
  | @conjunction first second before behind left right _ _ ihLeft ihRight =>
    obtain ⟨_, leading, rfl⟩ := ihLeft follows (by omega)
    have within : nesting (.conjunction left :: frames) + behind ≤ limits.maxDepth := by
      rw [nesting_cons_of_joins rfl]
      omega
    obtain ⟨_, last, rfl⟩ := ihRight trivial within
    refine ⟨_, leading.append (.cons fun token found => ⟨_, ?_, last⟩), complete_of_settled follows _⟩
    simp only [State.step, stepComplete, found]
  | chain _ ih =>
    obtain ⟨_, leads, rfl⟩ := ih follows.settled room
    exact ⟨_, leads, _, _, rfl, joinDisjunction_of_enclosed follows _⟩
  | @disjunction first second before behind left right _ _ ihLeft ihRight =>
    obtain ⟨_, leading, operand, outer, rfl, join⟩ := ihLeft follows (by omega)
    have within : nesting (.disjunction left :: frames) + behind ≤ limits.maxDepth := by
      rw [nesting_cons_of_joins rfl]
      omega
    have follows : Follows .conjunction (.disjunction left :: frames) := trivial
    obtain ⟨_, last, rfl⟩ := ihRight follows within
    refine ⟨_, leading.append (.cons fun token found => ⟨_, ?_, last⟩), right, _, rfl, rfl⟩
    simp only [State.step, stepComplete, found, join]

/-- A derived filter is returned at the end of its tokens. -/
theorem finish_of_derives (limits : Limits) (length : Nat) {inner : Nat} {filter : Filter}
    (derivation : Derives .disjunction kinds inner filter) (room : inner ≤ limits.maxDepth) :
    ∃ final, Leads limits .initial kinds final ∧ final.finish length = .ok filter := by
  have within : nesting [] + inner ≤ limits.maxDepth := by rwa [nesting_nil, Nat.zero_add]
  obtain ⟨_, leads, last, outer, rfl, join⟩ :=
    leads_derived derivation (show Follows .disjunction [] from trivial) within
  refine ⟨_, leads, ?_⟩
  have groups := findSome?_joinDisjunction join
  simp only [State.finish, groups, join, List.findSome?_nil]

/-- A sequence of tokens writes at most one filter. -/
theorem derives_unique {firstNesting secondNesting : Nat} {filter other : Filter}
    (first : Derives .disjunction kinds firstNesting filter)
    (second : Derives .disjunction kinds secondNesting other) : filter = other := by
  -- Positions play no part in a derivation, so any will do for the run that both direct.
  let limits : Limits := ⟨0, max firstNesting secondNesting⟩
  let tokens : List Token := kinds.map fun kind => ⟨kind, 0, 0⟩
  have same : tokens.map Token.kind = kinds := by
    simp only [tokens, List.map_map, Function.comp_def, List.map_id']
  obtain ⟨_, leads, finished⟩ := finish_of_derives limits 0 first (Nat.le_max_left _ _)
  obtain ⟨_, leads', finished'⟩ := finish_of_derives limits 0 second (Nat.le_max_right _ _)
  obtain rfl := Except.ok.inj ((leads tokens same).symm.trans (leads' tokens same))
  exact Except.ok.inj (finished.symm.trans finished')

end RecordQuery.Parser
