import RecordQuery.Filter.Parser
import RecordQuery.Proofs.Filter.Grammar
import RecordQuery.Proofs.Outcome

/-! # What the parser accepts is derived by the grammar

The state of the parser tells how the tokens so far are part of a filter: the frames stand for what is open
around the place, and the mode for what has been read since. Every step keeps this reading, and at the end
of the text it is a derivation of the filter that is returned.
-/

namespace RecordQuery.Parser

open Grammar

/-- The number of negations and groups among the frames. -/
def nesting (frames : List Frame) : Nat := frames.countP Frame.isNesting

@[simp] theorem nesting_nil : nesting [] = 0 := rfl

theorem nesting_cons_of_nests {frame : Frame} {frames : List Frame} (nests : frame.isNesting = true) :
    nesting (frame :: frames) = nesting frames + 1 :=
  List.countP_cons_of_pos nests

theorem nesting_cons_of_joins {frame : Frame} {frames : List Frame} (joins : frame.isNesting = false) :
    nesting (frame :: frames) = nesting frames :=
  List.countP_cons_of_neg (Bool.eq_false_iff.mp joins)

/-- Neither a negation nor an `and` waits for the next operand. -/
def Settled : List Frame → Prop
  | .negation :: _ | .conjunction _ :: _ => False
  | _ => True

/-- The frames end at the beginning of the text or of a group. -/
def Enclosed : List Frame → Prop
  | [] | .group _ :: _ => True
  | _ => False

/-- The frames are open after these tokens, and an operand has to follow. -/
inductive Opens (depth : Nat) : List Frame → List TokenKind → Prop where
  | nil : Opens depth [] []
  | negation {frames : List Frame} {kinds : List TokenKind} (outer : Opens depth frames kinds)
      (room : nesting frames < depth) : Opens depth (.negation :: frames) (kinds ++ [.negation])
  | group {frames : List Frame} {kinds : List TokenKind} (start : Nat) (outer : Opens depth frames kinds)
      (room : nesting frames < depth) : Opens depth (.group start :: frames) (kinds ++ [.opening])
  | conjunction {frames : List Frame} {before kinds : List TokenKind} {inner : Nat} {left : Filter}
      (outer : Opens depth frames before) (settled : Settled frames)
      (derivation : Derives .conjunction kinds inner left) (room : nesting frames + inner ≤ depth) :
      Opens depth (.conjunction left :: frames) (before ++ kinds ++ [.conjunction])
  | disjunction {frames : List Frame} {before kinds : List TokenKind} {inner : Nat} {left : Filter}
      (outer : Opens depth frames before) (enclosed : Enclosed frames)
      (derivation : Derives .disjunction kinds inner left) (room : nesting frames + inner ≤ depth) :
      Opens depth (.disjunction left :: frames) (before ++ kinds ++ [.disjunction])

/-- The tokens in front of the items of a list. -/
def listKinds (field : String) : List TokenKind := [.name field, .membership, .opening]

/-- The state is a reading of these tokens. -/
inductive Reads (depth : Nat) : State → List TokenKind → Prop where
  | operand {frames : List Frame} {kinds : List TokenKind} (opened : Opens depth frames kinds) :
      Reads depth ⟨.operand, frames⟩ kinds
  | operator {frames : List Frame} {kinds : List TokenKind} (field : String)
      (opened : Opens depth frames kinds) : Reads depth ⟨.operator field, frames⟩ (kinds ++ [.name field])
  | list {frames : List Frame} {kinds : List TokenKind} (field : String) (start : Nat)
      (opened : Opens depth frames kinds) :
      Reads depth ⟨.list field start, frames⟩ (kinds ++ [.name field, .membership])
  | value {frames : List Frame} {kinds : List TokenKind} (field : String) (operator : Operator)
      (opened : Opens depth frames kinds) (noList : operator ≠ .membership) :
      Reads depth ⟨.value field operator, frames⟩ (kinds ++ [.name field, operatorKind operator])
  | firstItem {frames : List Frame} {kinds : List TokenKind} (field : String) (start : Nat)
      (opened : Opens depth frames kinds) :
      Reads depth ⟨.item field start [], frames⟩ (kinds ++ listKinds field)
  | item {frames : List Frame} {before kinds : List TokenKind} {literals : List Literal} (field : String)
      (start : Nat) (opened : Opens depth frames before) (items : WritesItems kinds literals) :
      Reads depth ⟨.item field start literals, frames⟩ (before ++ (listKinds field ++ kinds ++ [.comma]))
  | separator {frames : List Frame} {before kinds : List TokenKind} {literals : List Literal}
      (field : String) (start : Nat) (opened : Opens depth frames before)
      (items : WritesItems kinds literals) :
      Reads depth ⟨.separator field start literals, frames⟩ (before ++ (listKinds field ++ kinds))
  | complete {frames : List Frame} {before kinds : List TokenKind} {inner : Nat} {filter : Filter}
      (opened : Opens depth frames before) (settled : Settled frames)
      (derivation : Derives .conjunction kinds inner filter) (room : nesting frames + inner ≤ depth) :
      Reads depth ⟨.complete filter, frames⟩ (before ++ kinds)

variable {depth : Nat} {frames : List Frame} {before kinds : List TokenKind}

theorem Enclosed.settled (enclosed : Enclosed frames) : Settled frames := by
  cases frames with
  | nil => trivial
  | cons frame outer =>
    cases frame with
    | group | disjunction | negation => trivial
    | conjunction => cases enclosed

/-- Frames are opened within the limit of depth. -/
theorem Opens.nesting_le (opened : Opens depth frames kinds) : nesting frames ≤ depth := by
  cases opened with
  | nil => exact Nat.zero_le _
  | negation _ room | group _ _ room =>
    rw [nesting_cons_of_nests rfl]
    omega
  | conjunction _ _ _ room | disjunction _ _ _ room =>
    rw [nesting_cons_of_joins rfl]
    omega

/-- With nothing that waits for it, an operand is complete. -/
theorem complete_of_settled (settled : Settled frames) (filter : Filter) :
    complete filter frames = ⟨.complete filter, frames⟩ := by
  cases frames with
  | nil => rfl
  | cons frame outer => cases frame <;> first | rfl | cases settled

/-- At the beginning of the text or of a group there is no left operand. -/
theorem joinDisjunction_of_enclosed (enclosed : Enclosed frames) (filter : Filter) :
    joinDisjunction filter frames = (filter, frames) := by
  cases frames with
  | nil => rfl
  | cons frame outer => cases frame <;> first | rfl | cases enclosed

/-- An operand satisfies what waits for it, and the reading goes on behind it. -/
theorem reads_complete {inner : Nat} {filter : Filter} (opened : Opens depth frames before)
    (derivation : Derives .negation kinds inner filter) (room : nesting frames + inner ≤ depth) :
    Reads depth (complete filter frames) (before ++ kinds) := by
  induction opened generalizing kinds inner filter with
  | nil => exact .complete .nil trivial (.operand derivation) room
  | @negation frames kinds₀ outer _ ih =>
    have larger : nesting frames + (inner + 1) ≤ depth := by
      rw [nesting_cons_of_nests rfl] at room
      omega
    simpa only [complete, List.append_assoc, List.singleton_append] using ih (.negation derivation) larger
  | group start outer free => exact .complete (.group start outer free) trivial (.operand derivation) room
  | @conjunction frames before₀ kinds₀ inner₀ left outer settled leading free =>
    have both : nesting frames + max inner₀ inner ≤ depth := by
      rw [nesting_cons_of_joins rfl] at room
      omega
    have completed := complete_of_settled settled (.conjunction left filter)
    simp only [complete, completed, List.append_assoc]
    exact .complete outer settled (.conjunction leading derivation) both
  | disjunction outer enclosed leading free =>
    exact .complete (.disjunction outer enclosed leading free) trivial (.operand derivation) room

/-- A complete operand and the left operand of an `or` in front of it form one filter. -/
theorem derives_joinDisjunction {inner : Nat} {filter joined : Filter} {outer : List Frame}
    (opened : Opens depth frames before) (settled : Settled frames)
    (derivation : Derives .conjunction kinds inner filter) (room : nesting frames + inner ≤ depth)
    (join : joinDisjunction filter frames = (joined, outer)) :
    ∃ front part total, before ++ kinds = front ++ part ∧ Opens depth outer front ∧ Enclosed outer ∧
      Derives .disjunction part total joined ∧ nesting outer + total ≤ depth := by
  cases opened with
  | nil =>
    cases join
    exact ⟨[], kinds, inner, rfl, .nil, trivial, .chain derivation, room⟩
  | negation | conjunction => cases settled
  | group start outside free =>
    cases join
    exact ⟨_, kinds, inner, rfl, .group start outside free, trivial, .chain derivation, room⟩
  | @disjunction _ front first inner₀ left outside enclosed leading free =>
    cases join
    have both : nesting outer + max inner₀ inner ≤ depth := by
      rw [nesting_cons_of_joins rfl] at room
      omega
    exact ⟨front, _, _, by simp only [List.append_assoc, List.singleton_append], outside, enclosed,
      .disjunction leading derivation, both⟩

/-- A literal ends a comparison of one literal. -/
private theorem reads_single {field : String} {operator : Operator} {kind : TokenKind} {literal : Literal}
    (opened : Opens depth frames before) (noList : operator ≠ .membership)
    (value : WritesValue kind literal) :
    Reads depth (completeComparison field operator (.single literal) frames)
      (before ++ [.name field, operatorKind operator] ++ [kind]) := by
  have room : nesting frames + 0 ≤ depth := opened.nesting_le
  rw [List.append_assoc]
  exact reads_complete opened (.comparison (.single field noList value)) room

theorem nest_eq_ok_iff {limits : Limits} {start : Nat} {frame : Frame} {next : State}
    (counts : frame.isNesting = true) :
    nest limits start frame frames = .ok next ↔
      nesting frames < limits.maxDepth ∧ next = ⟨.operand, frame :: frames⟩ := by
  change (if limits.maxDepth < nesting (frame :: frames) then _ else _) = _ ↔ _
  rw [nesting_cons_of_nests counts]
  split
  · simp only [reduceCtorEq, false_iff, not_and]
    omega
  · simp only [Except.ok.injEq, eq_comm, iff_and_self]
    omega

/-- What follows a complete operand joins it to what is open, or closes a group around it. -/
private theorem reads_stepComplete {limits : Limits} {inner : Nat} {filter : Filter} {next : State}
    {token : Token} (opened : Opens limits.maxDepth frames before) (settled : Settled frames)
    (derivation : Derives .conjunction kinds inner filter) (room : nesting frames + inner ≤ limits.maxDepth)
    (stepped : stepComplete filter frames token = .ok next) :
    Reads limits.maxDepth next (before ++ kinds ++ [token.kind]) := by
  unfold stepComplete at stepped
  split at stepped
  · rename_i found
    cases stepped
    rw [found]
    exact .operand (.conjunction opened settled derivation room)
  · rename_i found
    cases join : joinDisjunction filter frames with
    | mk joined outer =>
      obtain ⟨front, part, total, same, outside, enclosed, whole, free⟩ :=
        derives_joinDisjunction opened settled derivation room join
      rw [join] at stepped
      cases stepped
      rw [found, same]
      exact .operand (.disjunction outside enclosed whole free)
  · rename_i found
    split at stepped
    · rename_i joined start outer join
      obtain ⟨front, part, total, same, outside, enclosed, whole, free⟩ :=
        derives_joinDisjunction opened settled derivation room join
      cases stepped
      cases outside with
      | group _ outside _ =>
        rw [nesting_cons_of_nests rfl] at free
        rw [found, same]
        simpa only [List.append_assoc, List.cons_append, List.nil_append] using
          reads_complete outside (.group whole) (by omega)
    · cases stepped
  · split at stepped <;> cases stepped

/-- Each token that is taken prolongs the reading. -/
theorem reads_step {limits : Limits} {state next : State} {token : Token}
    (reading : Reads limits.maxDepth state kinds) (stepped : state.step limits token = .ok next) :
    Reads limits.maxDepth next (kinds ++ [token.kind]) := by
  cases reading with
  | operand opened =>
    simp only [State.step] at stepped
    split at stepped
    · rename_i found
      obtain ⟨room, rfl⟩ := (nest_eq_ok_iff rfl).mp stepped
      rw [found]
      exact .operand (.negation opened room)
    · rename_i found
      obtain ⟨room, rfl⟩ := (nest_eq_ok_iff rfl).mp stepped
      rw [found]
      exact .operand (.group token.start opened room)
    · rename_i field found
      cases stepped
      rw [found]
      exact .operator field opened
    · cases stepped
  | operator field opened =>
    simp only [State.step] at stepped
    split at stepped
    · rename_i sign found
      cases stepped
      rw [found, List.append_assoc]
      exact .value field (.relation sign) opened nofun
    · rename_i word found
      cases stepped
      rw [found, List.append_assoc]
      exact .value field (.text word) opened nofun
    · rename_i found
      cases stepped
      rw [found, List.append_assoc]
      exact .list field token.start opened
    · cases stepped
  | list field start opened =>
    simp only [State.step] at stepped
    split at stepped
    · rename_i found
      cases stepped
      rw [found, List.append_assoc]
      exact .firstItem field start opened
    · cases stepped
  | value field operator opened noList =>
    simp only [State.step] at stepped
    split at stepped
    · rename_i literal value
      cases stepped
      exact reads_single opened noList (literal?_eq_some_iff.mp value)
    · cases stepped
  | firstItem field start opened =>
    simp only [State.step] at stepped
    split at stepped
    · rename_i literal value
      cases stepped
      rw [List.append_assoc]
      exact .separator field start opened (.one (literal?_eq_some_iff.mp value))
    · cases stepped
  | item field start opened items =>
    simp only [State.step] at stepped
    split at stepped
    · rename_i literal value
      cases stepped
      simpa only [List.append_assoc, List.cons_append, List.nil_append] using
        Reads.separator field start opened (.more items (literal?_eq_some_iff.mp value))
    · cases stepped
  | separator field start opened items =>
    simp only [State.step] at stepped
    split at stepped
    · rename_i found
      cases stepped
      rw [found, List.append_assoc]
      exact .item field start opened items
    · rename_i found
      cases stepped
      rw [found, List.append_assoc]
      exact reads_complete opened (.comparison (.membership field items)) opened.nesting_le
    · cases stepped
  | complete opened settled derivation room => exact reads_stepComplete opened settled derivation room stepped

/-- The taken tokens prolong the reading. -/
theorem reads_foldlM {limits : Limits} {state final : State} {tokens : List Token}
    (reading : Reads limits.maxDepth state kinds)
    (taken : tokens.foldlM (State.step limits) state = .ok final) :
    Reads limits.maxDepth final (kinds ++ tokens.map Token.kind) := by
  induction tokens generalizing state kinds with
  | nil =>
    cases taken
    simpa only [List.map_nil, List.append_nil] using reading
  | cons token rest ih =>
    rw [List.foldlM_cons] at taken
    cases stepped : state.step limits token with
    | error problem => rw [stepped] at taken; cases taken
    | ok next =>
      rw [stepped] at taken
      simpa only [List.map_cons, List.append_assoc, List.singleton_append] using
        ih (reads_step reading stepped) taken

/-- Joining leaves the groups that are open. -/
theorem findSome?_joinDisjunction {filter joined : Filter} {outer : List Frame}
    (join : joinDisjunction filter frames = (joined, outer)) :
    frames.findSome? Frame.opening? = outer.findSome? Frame.opening? := by
  unfold joinDisjunction at join
  split at join <;> cases join <;> rfl

/-- A filter at the end of the text is derived from all that was read. -/
theorem derives_of_finish {length : Nat} {state : State} {filter : Filter}
    (reading : Reads depth state kinds) (finished : state.finish length = .ok filter) :
    ∃ total ≤ depth, Derives .disjunction kinds total filter := by
  cases reading with
  | operand | operator | list | value | firstItem | item | separator => cases finished
  | @complete frames _ _ _ last opened settled derivation room =>
    cases join : joinDisjunction last frames with
    | mk joined outer =>
      obtain ⟨front, part, total, same, outside, enclosed, whole, free⟩ :=
        derives_joinDisjunction opened settled derivation room join
      simp only [State.finish, findSome?_joinDisjunction join, join] at finished
      cases outside with
      | nil =>
        cases finished
        rw [same]
        exact ⟨total, by simpa only [nesting_nil, Nat.zero_add] using free, whole⟩
      | group => cases finished
      | negation | conjunction | disjunction => cases enclosed

/-- A filter is returned when the stream has no fault, all its tokens are taken and the text may end. -/
theorem run_eq_ok_iff {limits : Limits} {length : Nat} {state : State} {stream : TokenStream}
    {filter : Filter} :
    run limits length state stream = .ok filter ↔
      stream.error? = none ∧ ∃ final, stream.tokens.foldlM (State.step limits) state = .ok final ∧
        final.finish length = .ok filter := by
  induction stream generalizing state with
  | done =>
    simp only [run, TokenStream.error?, TokenStream.tokens, List.foldlM_nil, true_and]
    rw [Outcome.mapError_eq_ok_iff]
    simp [pure, Except.pure]
  | failed error => simp [run, TokenStream.error?]
  | token token rest ih =>
    simp only [run, TokenStream.error?, TokenStream.tokens, List.foldlM_cons]
    cases state.step limits token with
    | ok next => exact ih
    | error error => simp [bind, Except.bind]

end RecordQuery.Parser
