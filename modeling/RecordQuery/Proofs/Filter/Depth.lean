import RecordQuery.Proofs.Filter.Refusal

/-! # What the limits cut off

The depth of a token is the number of negations and groups that enclose it or that it opens. A part of a
filter passes the parser if none of its tokens is deeper than the limit; otherwise the parser stops at the
first token that is, and that is a negation or the opening of a group. Parts that stand side by side do not
add up, since the frames behind a part are those in front of it.
-/

namespace RecordQuery

namespace Grammar

/-- The tokens of a part that stands inside so many negations and groups, with their depths. -/
inductive Nested : Level → Nat → List TokenKind → List Nat → Prop where
  | comparison {outer : Nat} {kinds : List TokenKind} {leaf : Comparison}
      (written : WritesComparison kinds leaf) :
      Nested .negation outer kinds (List.replicate kinds.length outer)
  | negation {outer : Nat} {kinds : List TokenKind} {depths : List Nat}
      (operand : Nested .negation (outer + 1) kinds depths) :
      Nested .negation outer (.negation :: kinds) ((outer + 1) :: depths)
  | group {outer : Nat} {kinds : List TokenKind} {depths : List Nat}
      (inner : Nested .disjunction (outer + 1) kinds depths) :
      Nested .negation outer (.opening :: kinds ++ [.closing]) ((outer + 1) :: depths ++ [outer + 1])
  | operand {outer : Nat} {kinds : List TokenKind} {depths : List Nat}
      (only : Nested .negation outer kinds depths) : Nested .conjunction outer kinds depths
  | conjunction {outer : Nat} {first second : List TokenKind} {before behind : List Nat}
      (leading : Nested .conjunction outer first before) (last : Nested .negation outer second behind) :
      Nested .conjunction outer (first ++ .conjunction :: second) (before ++ outer :: behind)
  | chain {outer : Nat} {kinds : List TokenKind} {depths : List Nat}
      (only : Nested .conjunction outer kinds depths) : Nested .disjunction outer kinds depths
  | disjunction {outer : Nat} {first second : List TokenKind} {before behind : List Nat}
      (leading : Nested .disjunction outer first before) (last : Nested .conjunction outer second behind) :
      Nested .disjunction outer (first ++ .disjunction :: second) (before ++ outer :: behind)

/-- The number is the largest among the depths. -/
def Deepest (depths : List Nat) (depth : Nat) : Prop :=
  depth ∈ depths ∧ ∀ other ∈ depths, other ≤ depth

/-- The token at this place opens a negation or a group of this depth, and no token in front of it is as
deep. -/
structure FirstOfDepth (kinds : List TokenKind) (index depth : Nat) : Prop where
  opens : kinds[index]? = some .negation ∨ kinds[index]? = some .opening
  nested : ∃ depths, Nested .disjunction 0 kinds depths
  first : ∀ depths, Nested .disjunction 0 kinds depths →
    depths[index]? = some depth ∧ ∀ other ∈ depths.take index, other < depth

variable {level : Level} {kinds : List TokenKind} {outer nesting : Nat} {depths before behind : List Nat}
  {filter : Filter}

/-- Tokens around a part that are no deeper leave its largest depth. -/
theorem Deepest.around {depth : Nat} (deepest : Deepest depths depth) (front back : List Nat)
    (shallow : ∀ other ∈ front ++ back, other ≤ depth) : Deepest (front ++ depths ++ back) depth := by
  obtain ⟨among, above⟩ := deepest
  refine ⟨List.mem_append_left _ (List.mem_append_right _ among), ?_⟩
  intro other member
  rw [List.append_assoc] at member
  rcases List.mem_append.mp member with early | late
  · exact shallow other (List.mem_append_left _ early)
  · rcases List.mem_append.mp late with inside | behind
    · exact above other inside
    · exact shallow other (List.mem_append_right _ behind)

/-- Two parts side by side have the larger of their largest depths. -/
theorem Deepest.join {left right : Nat} (first : Deepest before (outer + left))
    (second : Deepest behind (outer + right)) :
    Deepest (before ++ outer :: behind) (outer + max left right) := by
  rw [← Nat.add_max_add_left]
  obtain ⟨among, above⟩ := first
  obtain ⟨among', above'⟩ := second
  constructor
  · rcases Nat.le_total (outer + left) (outer + right) with smaller | smaller
    · rw [Nat.max_eq_right smaller]
      exact List.mem_append_right _ (List.mem_cons_of_mem _ among')
    · rw [Nat.max_eq_left smaller]
      exact List.mem_append_left _ among
  · intro other member
    rcases List.mem_append.mp member with early | late
    · exact Nat.le_trans (above other early) (Nat.le_max_left _ _)
    · rcases List.mem_cons.mp late with rfl | later
      · exact Nat.le_trans (Nat.le_add_right _ _) (Nat.le_max_left _ _)
      · exact Nat.le_trans (above' other later) (Nat.le_max_right _ _)

theorem Deepest.negation (deepest : Deepest depths (outer + 1 + nesting)) :
    Deepest ((outer + 1) :: depths) (outer + (nesting + 1)) := by
  rw [Nat.add_right_comm, Nat.add_assoc] at deepest
  simpa only [List.append_nil, List.singleton_append] using deepest.around [outer + 1] [] (by simp)

theorem Deepest.group (deepest : Deepest depths (outer + 1 + nesting)) :
    Deepest ((outer + 1) :: depths ++ [outer + 1]) (outer + (nesting + 1)) := by
  rw [Nat.add_right_comm, Nat.add_assoc] at deepest
  exact deepest.around [outer + 1] [outer + 1] (by simp)

theorem Deepest.comparison {leaf : Comparison} (written : WritesComparison kinds leaf) :
    Deepest (List.replicate kinds.length outer) (outer + 0) := by
  have some : kinds.length ≠ 0 := by cases written <;> simp
  exact ⟨List.mem_replicate.mpr ⟨some, rfl⟩, fun other member => Nat.le_of_eq (List.eq_of_mem_replicate member)⟩

/-- Derived tokens have depths, and their nesting is the largest one. -/
theorem Derives.exists_nested (derivation : Derives level kinds nesting filter) (outer : Nat) :
    ∃ depths, Nested level outer kinds depths ∧ Deepest depths (outer + nesting) := by
  induction derivation generalizing outer with
  | comparison written => exact ⟨_, .comparison written, .comparison written⟩
  | negation _ ih =>
    obtain ⟨depths, operand, deepest⟩ := ih (outer + 1)
    exact ⟨_, .negation operand, deepest.negation⟩
  | group _ ih =>
    obtain ⟨depths, inner, deepest⟩ := ih (outer + 1)
    exact ⟨_, .group inner, deepest.group⟩
  | operand _ ih =>
    obtain ⟨depths, only, deepest⟩ := ih outer
    exact ⟨depths, .operand only, deepest⟩
  | chain _ ih =>
    obtain ⟨depths, only, deepest⟩ := ih outer
    exact ⟨depths, .chain only, deepest⟩
  | conjunction _ _ left right =>
    obtain ⟨_, leading, first⟩ := left outer
    obtain ⟨_, last, second⟩ := right outer
    exact ⟨_, .conjunction leading last, first.join second⟩
  | disjunction _ _ left right =>
    obtain ⟨_, leading, first⟩ := left outer
    obtain ⟨_, last, second⟩ := right outer
    exact ⟨_, .disjunction leading last, first.join second⟩

/-- Tokens with depths are derived, and the largest depth is their nesting. -/
theorem Nested.exists_derives (nested : Nested level outer kinds depths) :
    ∃ nesting filter, Derives level kinds nesting filter ∧ Deepest depths (outer + nesting) := by
  induction nested with
  | comparison written => exact ⟨0, _, .comparison written, .comparison written⟩
  | negation _ ih =>
    obtain ⟨nesting, _, operand, deepest⟩ := ih
    exact ⟨nesting + 1, _, .negation operand, deepest.negation⟩
  | group _ ih =>
    obtain ⟨nesting, _, inner, deepest⟩ := ih
    exact ⟨nesting + 1, _, .group inner, deepest.group⟩
  | operand _ ih =>
    obtain ⟨_, _, only, deepest⟩ := ih
    exact ⟨_, _, .operand only, deepest⟩
  | chain _ ih =>
    obtain ⟨_, _, only, deepest⟩ := ih
    exact ⟨_, _, .chain only, deepest⟩
  | conjunction _ _ left right =>
    obtain ⟨_, _, leading, first⟩ := left
    obtain ⟨_, _, last, second⟩ := right
    exact ⟨_, _, .conjunction leading last, first.join second⟩
  | disjunction _ _ left right =>
    obtain ⟨_, _, leading, first⟩ := left
    obtain ⟨_, _, last, second⟩ := right
    exact ⟨_, _, .disjunction leading last, first.join second⟩

theorem Nested.length_eq (nested : Nested level outer kinds depths) : depths.length = kinds.length := by
  induction nested with
  | comparison => exact List.length_replicate
  | negation _ ih => exact congrArg (· + 1) ih
  | group _ ih => simp [ih]
  | operand _ ih | chain _ ih => exact ih
  | conjunction _ _ left right | disjunction _ _ left right => simp [left, right]

/-- There are at most as many negations and groups as tokens. -/
theorem Derives.nesting_le_length (derivation : Derives level kinds nesting filter) :
    nesting ≤ kinds.length := by
  induction derivation with
  | comparison => exact Nat.zero_le _
  | negation _ ih => exact Nat.add_le_add_right ih 1
  | group _ ih =>
    simp only [List.length_append, List.length_cons]
    omega
  | operand _ ih | chain _ ih => exact ih
  | conjunction _ _ left right | disjunction _ _ left right =>
    simp only [List.length_append, List.length_cons]
    omega

end Grammar

namespace Parser

open Grammar

/-- The parser takes the tokens in front of the first one that is too deep and refuses that one, which opens
the level beyond the limit. -/
def Stops (limits : Limits) (state : State) (tokens : List Token) (depths : List Nat) : Prop :=
  ∃ before token after shallow deeper middle,
    tokens = before ++ token :: after ∧ (token.kind = .negation ∨ token.kind = .opening) ∧
      depths = shallow ++ (limits.maxDepth + 1) :: deeper ∧ shallow.length = before.length ∧
      (∀ depth ∈ shallow, depth ≤ limits.maxDepth) ∧
      before.foldlM (State.step limits) state = .ok middle ∧
      middle.step limits token = .error ⟨token.start, .tooDeep limits.maxDepth⟩

variable {limits : Limits} {state middle : State} {frames : List Frame} {kinds : List TokenKind}
  {front back tokens : List Token} {token : Token} {before behind depths : List Nat} {depth outer : Nat}
  {level : Level}

/-- What follows plays no part. -/
theorem Stops.append (stops : Stops limits state front before) (back : List Token) (behind : List Nat) :
    Stops limits state (front ++ back) (before ++ behind) := by
  obtain ⟨early, token, after, shallow, deeper, last, rfl, opens, rfl, count, within, taken, refused⟩ := stops
  exact ⟨early, token, after ++ back, shallow, deeper ++ behind, last, by simp, opens, by simp, count, within,
    taken, refused⟩

/-- Tokens that are taken lead to where the parser stops. -/
theorem Stops.prepend (leading : front.foldlM (State.step limits) state = .ok middle)
    (counted : before.length = front.length) (shallow : ∀ depth ∈ before, depth ≤ limits.maxDepth)
    (stops : Stops limits middle back behind) :
    Stops limits state (front ++ back) (before ++ behind) := by
  obtain ⟨early, token, after, flat, deeper, last, rfl, opens, rfl, count, within, taken, refused⟩ := stops
  refine ⟨front ++ early, token, after, before ++ flat, deeper, last, by simp, opens, by simp, ?_,
    List.forall_mem_append.mpr ⟨shallow, within⟩, ?_, refused⟩
  · rw [List.length_append, List.length_append, count, counted]
  · rw [List.foldlM_append, leading]
    exact taken

/-- A first token that is taken leads to where the parser stops. -/
theorem Stops.cons (stepped : state.step limits token = .ok middle) (shallow : depth ≤ limits.maxDepth)
    (stops : Stops limits middle tokens depths) : Stops limits state (token :: tokens) (depth :: depths) := by
  have leading : [token].foldlM (State.step limits) state = .ok middle := by
    rw [List.foldlM_cons, stepped]
    rfl
  have within : ∀ other ∈ [depth], other ≤ limits.maxDepth := by simpa using shallow
  exact .prepend leading rfl within stops

/-- A negation or a group that has no room is where the parser stops. -/
theorem Stops.head (opens : token.kind = .negation ∨ token.kind = .opening)
    (refused : state.step limits token = .error ⟨token.start, .tooDeep limits.maxDepth⟩)
    (deep : depth = limits.maxDepth + 1) : Stops limits state (token :: tokens) (depth :: depths) :=
  ⟨[], token, tokens, [], depths, state, rfl, opens, by rw [deep]; rfl, rfl, by simp, rfl, refused⟩

/-- Of two parts with a joining word between them, the parser stops in the first one that is too deep. -/
theorem Stops.join (count : before.length = front.length) (room : outer ≤ limits.maxDepth)
    (deep : ¬ ∀ depth ∈ before ++ outer :: behind, depth ≤ limits.maxDepth)
    (left : (¬ ∀ depth ∈ before, depth ≤ limits.maxDepth) → Stops limits state front before)
    (right : (∀ depth ∈ before, depth ≤ limits.maxDepth) → ∃ middle joined,
      front.foldlM (State.step limits) state = .ok middle ∧ middle.step limits token = .ok joined ∧
        ((¬ ∀ depth ∈ behind, depth ≤ limits.maxDepth) → Stops limits joined back behind)) :
    Stops limits state (front ++ token :: back) (before ++ outer :: behind) := by
  by_cases shallow : ∀ depth ∈ before, depth ≤ limits.maxDepth
  · obtain ⟨middle, joined, taken, stepped, stops⟩ := right shallow
    refine .prepend taken count shallow (.cons stepped room (stops ?_))
    intro flat
    exact deep (List.forall_mem_append.mpr ⟨shallow, List.forall_mem_cons.mpr ⟨room, flat⟩⟩)
  · exact (left shallow).append _ _

/-- A part with a token that is too deep is not taken. -/
theorem stops_of_nested (nested : Nested level outer kinds depths) (follows : Follows level frames)
    (counted : nesting frames = outer) (room : outer ≤ limits.maxDepth)
    (deep : ¬ ∀ depth ∈ depths, depth ≤ limits.maxDepth) (same : tokens.map Token.kind = kinds) :
    Stops limits ⟨.operand, frames⟩ tokens depths := by
  -- The frames hold exactly the levels around the part, so a level is opened while they have room for it.
  induction nested generalizing frames tokens with
  | comparison =>
    refine absurd (fun depth member => ?_) deep
    rw [List.eq_of_mem_replicate member]
    exact room
  | @negation outer _ depths _ ih =>
    obtain ⟨token, rest, rfl, found, same⟩ := List.map_eq_cons_iff.mp same
    have step : State.step limits ⟨.operand, frames⟩ token = nest limits token.start .negation frames := by
      simp only [State.step, found]
    by_cases free : outer < limits.maxDepth
    · have taken := step.trans ((nest_eq_ok_iff rfl).mpr ⟨counted ▸ free, rfl⟩)
      have inside : nesting (.negation :: frames) = outer + 1 := by rw [nesting_cons_of_nests rfl, counted]
      refine .cons taken free (ih trivial inside free ?_ same)
      intro flat
      exact deep (List.forall_mem_cons.mpr ⟨free, flat⟩)
    · have full := step.trans ((nest_eq_error_iff rfl).mpr ⟨by omega, rfl⟩)
      exact .head (.inl found) full (by omega)
  | @group outer _ depths _ ih =>
    obtain ⟨token, rest, rfl, found, same⟩ := List.map_eq_cons_iff.mp same
    have step : State.step limits ⟨.operand, frames⟩ token =
        nest limits token.start (.group token.start) frames := by simp only [State.step, found]
    by_cases free : outer < limits.maxDepth
    · obtain ⟨inner, closing, rfl, same, -⟩ := List.map_eq_append_iff.mp same
      have taken := step.trans ((nest_eq_ok_iff rfl).mpr ⟨counted ▸ free, rfl⟩)
      have inside : nesting (.group token.start :: frames) = outer + 1 := by
        rw [nesting_cons_of_nests rfl, counted]
      have follows : Follows .disjunction (.group token.start :: frames) := trivial
      refine .cons taken free (Stops.append (ih follows inside free ?_ same) _ _)
      intro flat
      apply deep
      simpa using ⟨free, fun depth member => member.elim (flat depth) fun same => same ▸ free⟩
    · have full := step.trans ((nest_eq_error_iff rfl).mpr ⟨by omega, rfl⟩)
      exact .head (.inr found) full (by omega)
  | operand _ ih => exact ih trivial counted room deep same
  | chain _ ih => exact ih follows.settled counted room deep same
  | @conjunction outer _ _ before behind leading last left right =>
    obtain ⟨front, joined, rfl, sameFront, same⟩ := List.map_eq_append_iff.mp same
    obtain ⟨token, back, rfl, found, sameBack⟩ := List.map_eq_cons_iff.mp same
    have count : before.length = front.length := by rw [leading.length_eq, ← sameFront, List.length_map]
    refine .join count room deep (left follows counted room · sameFront) fun shallow => ?_
    -- A first part that is taken leaves its frames in front, so the second is at the same depth.
    obtain ⟨total, filter, derivation, largest, -⟩ := leading.exists_derives
    obtain ⟨_, leads, rfl⟩ := leads_derived derivation follows (counted ▸ shallow _ largest)
    have inside : nesting (.conjunction filter :: frames) = outer := by rw [nesting_cons_of_joins rfl, counted]
    refine ⟨_, ⟨.operand, .conjunction filter :: frames⟩, leads front sameFront, ?_,
      (right trivial inside room · sameBack)⟩
    simp only [State.step, stepComplete, found]
  | @disjunction outer _ _ before behind leading last left right =>
    obtain ⟨front, joined, rfl, sameFront, same⟩ := List.map_eq_append_iff.mp same
    obtain ⟨token, back, rfl, found, sameBack⟩ := List.map_eq_cons_iff.mp same
    have count : before.length = front.length := by rw [leading.length_eq, ← sameFront, List.length_map]
    refine .join count room deep (left follows counted room · sameFront) fun shallow => ?_
    obtain ⟨total, filter, derivation, largest, -⟩ := leading.exists_derives
    obtain ⟨_, leads, operand, outside, rfl, join⟩ :=
      leads_derived derivation follows (counted ▸ shallow _ largest)
    have inside : nesting (.disjunction filter :: frames) = outer := by rw [nesting_cons_of_joins rfl, counted]
    have follows : Follows .conjunction (.disjunction filter :: frames) := trivial
    refine ⟨_, ⟨.operand, .disjunction filter :: frames⟩, leads front sameFront, ?_,
      (right follows inside room · sameBack)⟩
    simp only [State.step, stepComplete, found, join]

/-- The parser stops at one token. -/
theorem eq_of_refused {before₁ before₂ after₁ after₂ : List Token} {token₁ token₂ : Token}
    {middle₁ middle₂ : State} {error₁ error₂ : SyntaxError}
    (same : before₁ ++ token₁ :: after₁ = before₂ ++ token₂ :: after₂)
    (taken₁ : before₁.foldlM (State.step limits) state = .ok middle₁)
    (refused₁ : middle₁.step limits token₁ = .error error₁)
    (taken₂ : before₂.foldlM (State.step limits) state = .ok middle₂)
    (refused₂ : middle₂.step limits token₂ = .error error₂) : before₁ = before₂ := by
  induction before₁ generalizing state before₂ with
  | nil =>
    cases taken₁
    cases before₂ with
    | nil => rfl
    | cons other rest =>
      obtain ⟨rfl, -⟩ := List.cons.inj same
      rw [List.foldlM_cons, refused₁] at taken₂
      cases taken₂
  | cons first rest ih =>
    rw [List.foldlM_cons, Outcome.bind_eq_ok_iff] at taken₁
    obtain ⟨next, stepped, taken₁⟩ := taken₁
    cases before₂ with
    | nil =>
      obtain ⟨rfl, -⟩ := List.cons.inj same
      cases taken₂
      cases stepped.symm.trans refused₂
    | cons other more =>
      obtain ⟨rfl, remaining⟩ := List.cons.inj same
      rw [List.foldlM_cons, stepped] at taken₂
      rw [ih remaining taken₁ taken₂]

/-- In a text without faults the error at the first refused token is the one that is reported. -/
theorem run_eq_of_refused {length : Nat} {stream : TokenStream} {before after : List Token}
    {error : SyntaxError} (clean : stream.error? = none) (split : stream.tokens = before ++ token :: after)
    (taken : before.foldlM (State.step limits) state = .ok middle)
    (refused : middle.step limits token = .error error) :
    run limits length state stream = .error (.grammatical error) := by
  induction before generalizing state stream with
  | nil =>
    cases taken
    cases stream with
    | token first rest =>
      obtain ⟨rfl, -⟩ := List.cons.inj split
      simp only [run, refused]
      cases rest with
      | failed fault => cases clean
      | done | token => rfl
    | _ => cases split
  | cons first others ih =>
    rw [List.foldlM_cons, Outcome.bind_eq_ok_iff] at taken
    obtain ⟨next, stepped, taken⟩ := taken
    cases stream with
    | token head rest =>
      obtain ⟨rfl, remaining⟩ := List.cons.inj split
      simp only [run, stepped]
      exact ih clean remaining taken
    | _ => cases split

/-- Tokens among which the parser stops are not all taken. -/
theorem Stops.not_taken {final : State} (stops : Stops limits state tokens depths) :
    tokens.foldlM (State.step limits) state ≠ .ok final := by
  obtain ⟨before, token, after, _, _, middle, rfl, _, _, _, _, taken, refused⟩ := stops
  intro whole
  rw [List.foldlM_append, taken] at whole
  change (token :: after).foldlM (State.step limits) middle = .ok final at whole
  rw [List.foldlM_cons, refused] at whole
  cases whole

/-- Of two nestings of the same tokens the first is at most the second. -/
private theorem nesting_le_of_derives {left right : Nat} {filter other : Filter}
    (first : Derives .disjunction kinds left filter) (second : Derives .disjunction kinds right other) :
    left ≤ right := by
  -- With the second nesting as the limit the parser takes all tokens, so none is deeper.
  let limits : Limits := ⟨0, right⟩
  let tokens : List Token := kinds.map fun kind => ⟨kind, 0, 0⟩
  have same : tokens.map Token.kind = kinds := by
    simp only [tokens, List.map_map, Function.comp_def, List.map_id']
  obtain ⟨final, leads, -⟩ := finish_of_derives limits 0 second (Nat.le_refl right)
  obtain ⟨depths, nested, among, -⟩ := first.exists_nested 0
  by_contra deeper
  have deep : ¬ ∀ depth ∈ depths, depth ≤ right := by
    intro flat
    have := flat _ among
    omega
  have stops : Stops limits .initial tokens depths :=
    stops_of_nested nested (show Follows .disjunction [] from trivial) rfl (Nat.zero_le _) deep same
  exact stops.not_taken (leads tokens same)

/-- Tokens that write a filter have one nesting. -/
theorem nesting_unique {firstNesting secondNesting : Nat} {filter other : Filter}
    (first : Derives .disjunction kinds firstNesting filter)
    (second : Derives .disjunction kinds secondNesting other) : firstNesting = secondNesting :=
  Nat.le_antisymm (nesting_le_of_derives first second) (nesting_le_of_derives second first)

/-- Derived tokens with more nesting than allowed are refused at the first one that opens the level beyond
the limit. -/
theorem firstOfDepth_of_derives {total : Nat} (length : Nat) {stream : TokenStream} {filter : Filter}
    (clean : stream.error? = none)
    (derivation : Derives .disjunction (stream.tokens.map Token.kind) total filter)
    (deep : limits.maxDepth < total) :
    ∃ before token after, stream.tokens = before ++ token :: after ∧
      FirstOfDepth (stream.tokens.map Token.kind) before.length (limits.maxDepth + 1) ∧
      run limits length .initial stream = .error (.grammatical ⟨token.start, .tooDeep limits.maxDepth⟩) := by
  have stops {depths : List Nat} (nested : Nested .disjunction 0 (stream.tokens.map Token.kind) depths) :
      Stops limits .initial stream.tokens depths := by
    refine stops_of_nested nested trivial rfl (Nat.zero_le _) ?_ rfl
    obtain ⟨other, _, another, among, -⟩ := nested.exists_derives
    obtain rfl := nesting_unique derivation another
    intro flat
    have := flat _ among
    omega
  obtain ⟨depths, nested, -⟩ := derivation.exists_nested 0
  obtain ⟨before, token, after, _, _, middle, split, opens, _, _, _, taken, refused⟩ := stops nested
  refine ⟨before, token, after, split, ⟨?_, ⟨depths, nested⟩, ?_⟩, run_eq_of_refused clean split taken refused⟩
  · simpa [split] using opens
  · -- Other depths of the same tokens stop the parser too, and it stops at one token only.
    intro depths nested
    obtain ⟨early, other, behind, shallow, deeper, last, again, _, rfl, count, within, taken', refused'⟩ :=
      stops nested
    obtain rfl := eq_of_refused (split.symm.trans again) taken refused taken' refused'
    rw [← count]
    exact ⟨by simp, by simpa [Nat.lt_succ_iff] using within⟩

end Parser

namespace Lexer

/-- Every token takes a byte at least. -/
theorem length_tokensFrom_le (offset : Nat) (characters : List Char) :
    (tokensFrom offset characters).tokens.length ≤ Text.byteLength characters := by
  fun_induction tokensFrom offset characters with
  | case1 | case3 => exact Nat.zero_le _
  | case2 offset first rest blank ih =>
    rw [Text.byteLength]
    omega
  | case4 offset first rest solid kind count scanned stop ih =>
    have parts : Text.byteLength rest = Text.byteLength (rest.take count) + Text.byteLength (rest.drop count) := by
      rw [← Text.byteLength_append, List.take_append_drop]
    have wide := Char.utf8Size_pos first
    rw [TokenStream.tokens, List.length_cons, Text.byteLength]
    omega

end Lexer

namespace Filter

open Grammar

/-- A limit of at least the number of bytes is none. The other limits let pass exactly the filters that are
short and shallow enough; where one is exceeded, the text is refused at the first byte that is too much or
else at the first negation or group that opens the level beyond the limit. -/
theorem parse_eq_ok_iff_unlimited {unlimited : Limits} {text : String} (limits : Limits)
    (wide : Text.byteLength text.toList ≤ unlimited.maxLength)
    (roomy : Text.byteLength text.toList ≤ unlimited.maxDepth) :
    (∀ filter, parse limits text = .ok filter ↔ parse unlimited text = .ok filter ∧
      Text.byteLength text.toList ≤ limits.maxLength ∧
        ∃ nesting ≤ limits.maxDepth, Derives .disjunction (Lexer.kinds text) nesting filter) ∧
    ∀ filter nesting, parse unlimited text = .ok filter →
      Derives .disjunction (Lexer.kinds text) nesting filter →
        (limits.maxLength < Text.byteLength text.toList →
          parse limits text = .error (.grammatical ⟨limits.maxLength, .tooLong limits.maxLength⟩)) ∧
        (Text.byteLength text.toList ≤ limits.maxLength → limits.maxDepth < nesting →
          ∃ before token after, (Lexer.tokens text).tokens = before ++ token :: after ∧
            FirstOfDepth (Lexer.kinds text) before.length (limits.maxDepth + 1) ∧
            parse limits text = .error (.grammatical ⟨token.start, .tooDeep limits.maxDepth⟩)) := by
  constructor
  · intro filter
    constructor
    · intro accepted
      obtain ⟨short, clean, nesting, shallow, derivation⟩ := derives_of_parse accepted
      refine ⟨parse_of_derives wide clean derivation ?_, short, nesting, shallow, derivation⟩
      have count := Lexer.length_tokensFrom_le 0 text.toList
      have tokens := derivation.nesting_le_length
      rw [Lexer.kinds, List.length_map] at tokens
      exact Nat.le_trans tokens (Nat.le_trans count roomy)
    · rintro ⟨accepted, short, nesting, shallow, derivation⟩
      obtain ⟨-, clean, -⟩ := derives_of_parse accepted
      exact parse_of_derives short clean derivation shallow
  · intro filter nesting accepted derivation
    obtain ⟨-, clean, -⟩ := derives_of_parse accepted
    constructor
    · intro long
      exact if_pos long
    · intro short deep
      obtain ⟨before, token, after, split, first, refused⟩ :=
        Parser.firstOfDepth_of_derives (Text.byteLength text.toList) clean derivation deep
      refine ⟨before, token, after, split, first, ?_⟩
      rw [parse_eq_run short derivation.ne_nil]
      exact refused

/-- Two words and one parenthesis nest the second comparison three levels deep, and the parentheses of its
list do not count. -/
theorem parse_eq_ok_iff_unlimited_of_list :
    let text := "not (a = 'x' and not b in ('y', 'z'))"
    (parse ⟨37, 3⟩ text).isOk = true ∧
      parse ⟨36, 2⟩ text = .error (.grammatical ⟨36, .tooLong 36⟩) ∧
      ∃ before token after, (Lexer.tokens text).tokens = before ++ token :: after ∧
        FirstOfDepth (Lexer.kinds text) before.length 3 ∧ token.start = 17 ∧
        parse ⟨37, 2⟩ text = .error (.grammatical ⟨17, .tooDeep 2⟩) := by
  intro text
  let leading : Comparison := ⟨"a", .relation .equal, .single (.text "x")⟩
  let last : Comparison := ⟨"b", .membership, .list [.text "y", .text "z"]⟩
  let filter : Filter := .negation (.conjunction (.comparison leading) (.negation (.comparison last)))
  have derivation : Derives .disjunction (Lexer.kinds text) 3 filter := by
    have same : Lexer.kinds text = [.negation, .opening, .name "a", .relation .equal, .text "x", .conjunction,
        .negation, .name "b", .membership, .opening, .text "y", .comma, .text "z", .closing, .closing] := by
      decide +kernel
    have noList : Operator.relation .equal ≠ .membership := nofun
    have first : WritesComparison [.name "a", .relation .equal, .text "x"] leading := .single "a" noList (.text "x")
    have items : WritesItems [.text "y", .comma, .text "z"] [.text "y", .text "z"] :=
      .more (.one (.text "y")) (.text "z")
    have second := WritesComparison.membership "b" items
    rw [same]
    exact .chain (.operand (.negation (.group (.chain
      (.conjunction (.operand (.comparison first)) (.negation (.comparison second)))))))
  have count : Text.byteLength text.toList = 37 := by decide +kernel
  let unlimited : Limits := ⟨37, 37⟩
  have accepted : parse unlimited text = .ok filter :=
    parse_of_derives (count ▸ by decide) (by decide +kernel) derivation (by decide)
  have wide : Text.byteLength text.toList ≤ unlimited.maxLength := Nat.le_of_eq count
  have roomy : Text.byteLength text.toList ≤ unlimited.maxDepth := Nat.le_of_eq count
  have limited (limits : Limits) := parse_eq_ok_iff_unlimited limits wide roomy
  refine ⟨?_, ?_, ?_⟩
  · have passed := ((limited ⟨37, 3⟩).1 _).mpr ⟨accepted, Nat.le_of_eq count, 3, Nat.le_refl 3, derivation⟩
    rw [passed]
    rfl
  · exact ((limited ⟨36, 2⟩).2 _ _ accepted derivation).1 (count ▸ by decide)
  · obtain ⟨before, token, after, split, first, found⟩ :=
      ((limited ⟨37, 2⟩).2 _ _ accepted derivation).2 (Nat.le_of_eq count) (by decide)
    have refused : parse ⟨37, 2⟩ text = .error (.grammatical ⟨17, .tooDeep 2⟩) := by decide +kernel
    have position : token.start = 17 := by simpa using found.symm.trans refused
    exact ⟨before, token, after, split, first, position, refused⟩

end Filter

end RecordQuery
