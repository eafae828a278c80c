import RecordQuery.Filter.Token

/-! # The grammar of filters

Which sequences of tokens write which filters, whatever goes through them. Chains of `and` and of `or` take
their operands from the left, `not` binds closest, and a group leaves no trace in the filter. A derivation
carries its nesting: the largest number of negations and groups that enclose one comparison. The parentheses
of a list do not count.
-/

namespace RecordQuery.Grammar

/-- A value is a text, a number, `true`, `false` or `null`, and is written by one token. -/
inductive WritesValue : TokenKind → Literal → Prop where
  | text (content : String) : WritesValue (.text content) (.text content)
  | number (value : Number) : WritesValue (.number value) (.number value)
  | boolean (value : Bool) : WritesValue (.boolean value) (.boolean value)
  | null : WritesValue .null .null

/-- Values, with a comma between two of them. -/
inductive WritesItems : List TokenKind → List Literal → Prop where
  | one {kind : TokenKind} {literal : Literal} (value : WritesValue kind literal) :
      WritesItems [kind] [literal]
  | more {kinds : List TokenKind} {literals : List Literal} {kind : TokenKind} {literal : Literal}
      (items : WritesItems kinds literals) (value : WritesValue kind literal) :
      WritesItems (kinds ++ [.comma, kind]) (literals ++ [literal])

/-- The token of an operator. -/
def operatorKind : Operator → TokenKind
  | .relation sign => .relation sign
  | .text word => .textMatch word
  | .membership => .membership

/-- A field, an operator and its operand; a membership has a list and every other operator one value. -/
inductive WritesComparison : List TokenKind → Comparison → Prop where
  | single {operator : Operator} {kind : TokenKind} {literal : Literal} (field : String)
      (noList : operator ≠ .membership) (value : WritesValue kind literal) :
      WritesComparison [.name field, operatorKind operator, kind] ⟨field, operator, .single literal⟩
  | membership {kinds : List TokenKind} {literals : List Literal} (field : String)
      (items : WritesItems kinds literals) :
      WritesComparison ([.name field, .membership, .opening] ++ kinds ++ [.closing])
        ⟨field, .membership, .list literals⟩

/-- The parts of a filter by how closely they bind: whole filters, the operands of `or`, and the operands
of `and`. -/
inductive Level where
  | disjunction
  | conjunction
  | negation
deriving DecidableEq

/-- The tokens write the filter at a level, with this nesting. -/
inductive Derives : Level → List TokenKind → Nat → Filter → Prop where
  | comparison {kinds : List TokenKind} {leaf : Comparison} (written : WritesComparison kinds leaf) :
      Derives .negation kinds 0 (.comparison leaf)
  | negation {kinds : List TokenKind} {nesting : Nat} {inner : Filter}
      (operand : Derives .negation kinds nesting inner) :
      Derives .negation (.negation :: kinds) (nesting + 1) (.negation inner)
  | group {kinds : List TokenKind} {nesting : Nat} {filter : Filter}
      (inner : Derives .disjunction kinds nesting filter) :
      Derives .negation (.opening :: kinds ++ [.closing]) (nesting + 1) filter
  | operand {kinds : List TokenKind} {nesting : Nat} {filter : Filter}
      (only : Derives .negation kinds nesting filter) : Derives .conjunction kinds nesting filter
  | conjunction {first second : List TokenKind} {before behind : Nat} {left right : Filter}
      (leading : Derives .conjunction first before left) (last : Derives .negation second behind right) :
      Derives .conjunction (first ++ .conjunction :: second) (max before behind) (.conjunction left right)
  | chain {kinds : List TokenKind} {nesting : Nat} {filter : Filter}
      (only : Derives .conjunction kinds nesting filter) : Derives .disjunction kinds nesting filter
  | disjunction {first second : List TokenKind} {before behind : Nat} {left right : Filter}
      (leading : Derives .disjunction first before left) (last : Derives .conjunction second behind right) :
      Derives .disjunction (first ++ .disjunction :: second) (max before behind) (.disjunction left right)

/-- The tokens that are read as literals are the values of the grammar. -/
theorem literal?_eq_some_iff {kind : TokenKind} {literal : Literal} :
    kind.literal? = some literal ↔ WritesValue kind literal := by
  constructor
  · intro value
    cases kind <;> cases value <;> constructor
  · rintro (_ | _ | _ | _) <;> rfl

variable {level : Level} {kinds : List TokenKind} {nesting : Nat} {filter : Filter}

/-- No filter is written by nothing. -/
theorem Derives.ne_nil (derivation : Derives level kinds nesting filter) : kinds ≠ [] := by
  induction derivation with
  | comparison written => cases written <;> simp
  | negation | group => simp
  | operand _ ih | chain _ ih => exact ih
  | conjunction | disjunction => simp

/-- Every comparison of a derived filter is written by consecutive tokens. -/
theorem Derives.writes_of_mem (derivation : Derives level kinds nesting filter) {leaf : Comparison}
    (member : leaf ∈ filter.comparisons) : ∃ part, part <:+: kinds ∧ WritesComparison part leaf := by
  induction derivation with
  | comparison written =>
    obtain rfl := List.mem_singleton.mp member
    exact ⟨_, List.infix_rfl, written⟩
  | negation _ ih =>
    obtain ⟨part, inside, written⟩ := ih member
    exact ⟨part, inside.trans (List.suffix_cons _ _).isInfix, written⟩
  | @group kinds _ _ _ ih =>
    obtain ⟨part, inside, written⟩ := ih member
    exact ⟨part, inside.trans ⟨[.opening], [.closing], rfl⟩, written⟩
  | operand _ ih | chain _ ih => exact ih member
  | conjunction _ _ left right | disjunction _ _ left right =>
    rcases List.mem_append.mp member with member | member
    · obtain ⟨part, inside, written⟩ := left member
      exact ⟨part, inside.trans (List.prefix_append _ _).isInfix, written⟩
    · obtain ⟨part, inside, written⟩ := right member
      exact ⟨part, inside.trans ((List.suffix_cons _ _).trans (List.suffix_append _ _)).isInfix, written⟩

end RecordQuery.Grammar
