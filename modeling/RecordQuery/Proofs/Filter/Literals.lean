import RecordQuery.Proofs.Filter.Grammar

/-! # The literals of a filter

A filter has the literals that its tokens write, each in its place: no token of a literal is lost, and no
other token adds one.
-/

namespace RecordQuery

/-- The literals of an operand. -/
def Operand.literals : Operand → List Literal
  | single literal => [literal]
  | list literals => literals

/-- The literals of a filter from left to right. -/
def Filter.literals (filter : Filter) : List Literal := filter.comparisons.flatMap (·.operand.literals)

namespace Grammar

variable {level : Level} {kinds : List TokenKind} {nesting : Nat} {filter : Filter} {leaf : Comparison}
  {literals : List Literal}

/-- Lists have items. -/
theorem WritesItems.ne_nil (items : WritesItems kinds literals) : literals ≠ [] := by
  cases items <;> simp

theorem WritesItems.literals_eq (items : WritesItems kinds literals) :
    kinds.filterMap TokenKind.literal? = literals := by
  induction items with
  | one value => simp [literal?_eq_some_iff.mpr value]
  | more _ value ih =>
    have comma : TokenKind.comma.literal? = none := rfl
    simp [ih, literal?_eq_some_iff.mpr value, comma]

theorem WritesComparison.literals_eq (written : WritesComparison kinds leaf) :
    kinds.filterMap TokenKind.literal? = leaf.operand.literals := by
  have name (field : String) : (TokenKind.name field).literal? = none := rfl
  cases written with
  | @single operator _ _ field _ value =>
    have sign : (operatorKind operator).literal? = none := by cases operator <;> rfl
    simp [name, sign, literal?_eq_some_iff.mpr value, Operand.literals]
  | membership field items =>
    have signs : TokenKind.membership.literal? = none ∧ TokenKind.opening.literal? = none ∧
        TokenKind.closing.literal? = none := ⟨rfl, rfl, rfl⟩
    simp [name, signs, items.literals_eq, Operand.literals]

/-- A derived filter has the literals of its tokens in their order. -/
theorem Derives.literals_eq (derivation : Derives level kinds nesting filter) :
    kinds.filterMap TokenKind.literal? = filter.literals := by
  induction derivation with
  | comparison written => simp [Filter.literals, Filter.comparisons, written.literals_eq]
  | negation _ ih =>
    rw [List.filterMap_cons_none rfl]
    exact ih
  | group _ ih =>
    have signs : TokenKind.opening.literal? = none ∧ TokenKind.closing.literal? = none := ⟨rfl, rfl⟩
    simpa [signs] using ih
  | operand _ ih | chain _ ih => exact ih
  | conjunction _ _ left right =>
    have sign : TokenKind.conjunction.literal? = none := rfl
    simp [sign, left, right, Filter.literals, Filter.comparisons]
  | disjunction _ _ left right =>
    have sign : TokenKind.disjunction.literal? = none := rfl
    simp [sign, left, right, Filter.literals, Filter.comparisons]

end Grammar

end RecordQuery
