import RecordQuery.Field.Registry

/-! # Conditions on rows

A condition is a filter whose names have been bound to fields and whose literals have become values. A
comparison is refused for the first of these reasons that applies: the field is not registered, it may not
be filtered, the operator does not suit its type, the operand has the wrong form, or a literal does not
belong to the type.
-/

namespace RecordQuery

/-- What is asked of the value of a field. -/
inductive Test where
  | relation (sign : Relation) (value : Value)
  | text (word : TextMatch) (needle : String)
  | membership (values : List Value)
deriving DecidableEq

/-- The relation holds of two values in this order; values without an order are only different. -/
def Relation.admits : Relation → Option Ordering → Bool
  | equal, order => order == some .eq
  | notEqual, order => order != some .eq
  | greater, order => order == some .gt
  | greaterOrEqual, order => order == some .gt || order == some .eq
  | less, order => order == some .lt
  | lessOrEqual, order => order == some .lt || order == some .eq

/-- The text holds the needle in this way. -/
def TextMatch.admits (textMatch : TextMatch) (haystack needle : String) : Bool :=
  match textMatch with
  | contains => haystack.contains needle
  | startsWith => haystack.startsWith needle
  | endsWith => haystack.endsWith needle

namespace Test

/-- The value passes the test. -/
def holds (test : Test) (actual : Value) : Bool :=
  match test with
  | relation sign value => sign.admits (actual.compare? value)
  | text word needle => actual.text?.any (word.admits · needle)
  | membership values => values.any fun value => actual.compare? value == some .eq

/-- The value of a literal that has to belong to a type. -/
def coerce (type : ValueType) (literal : Literal) : Except Mismatch Value :=
  match type.coerce? literal with
  | some value => .ok value
  | none => .error ⟨.valueOf type, .literal literal⟩

/-- The test of a relation on a type. Null is only equal or different. -/
def ofRelation (type : ValueType) (sign : Relation) : Operand → Except Mismatch Test
  | .list _ => .error ⟨.valueOf type, .list⟩
  | .single literal => do
    let value ← coerce type literal
    if value = .null ∧ sign.isOrdering then .error ⟨.valueOf type, .literal .null⟩
    else .ok (.relation sign value)

/-- The test of a text match, which needs a text as its operand. -/
def ofTextMatch (word : TextMatch) : Operand → Except Mismatch Test
  | .list _ => .error ⟨.valueOf .text, .list⟩
  | .single (.text needle) => .ok (.text word needle)
  | .single literal => .error ⟨.valueOf .text, .literal literal⟩

/-- The test of a membership on a type, which needs a list as its operand. -/
def ofMembership (type : ValueType) : Operand → Except Mismatch Test
  | .list literals => (literals.mapM (coerce type)).map .membership
  | .single literal => .error ⟨.list, .literal literal⟩

/-- The test of an operator on a type. -/
def ofOperator (type : ValueType) (operator : Operator) (operand : Operand) : Except Mismatch Test :=
  match operator with
  | .relation sign =>
    if sign.isOrdering ∧ ¬ type.isOrdered then .error ⟨.orderedField sign, .fieldOf type⟩
    else ofRelation type sign operand
  | .text word =>
    if type = .text then ofTextMatch word operand
    else .error ⟨.textField word, .fieldOf type⟩
  | .membership => ofMembership type operand

end Test

/-- A tree of tests on fields. -/
inductive Condition (ρ : Type) where
  | test (field : Field ρ) (question : Test)
  | conjunction (left right : Condition ρ)
  | disjunction (left right : Condition ρ)
  | negation (inner : Condition ρ)

namespace Condition

variable {ρ : Type}

/-- The row meets the condition. -/
def holds : Condition ρ → ρ → Bool
  | test field question, row => question.holds (field.read row)
  | conjunction left right, row => left.holds row && right.holds row
  | disjunction left right, row => left.holds row || right.holds row
  | negation inner, row => !inner.holds row

end Condition

namespace FieldRegistry

variable {ρ : Type}

/-- The condition of one comparison. -/
def condition (registry : FieldRegistry ρ) (comparison : Comparison) :
    Except QueryError (Condition ρ) := do
  let field ← registry.resolve comparison.field .filterable
  match Test.ofOperator field.type comparison.operator comparison.operand with
  | .ok question => .ok (.test field question)
  | .error found => .error (.mismatch comparison.field found)

end FieldRegistry

/-- The condition of a filter; its first refused comparison from the left decides. -/
def Filter.condition {ρ : Type} (registry : FieldRegistry ρ) :
    Filter → Except QueryError (Condition ρ)
  | comparison leaf => registry.condition leaf
  | conjunction left right => do
    return .conjunction (← left.condition registry) (← right.condition registry)
  | disjunction left right => do
    return .disjunction (← left.condition registry) (← right.condition registry)
  | negation inner => do
    return .negation (← inner.condition registry)

end RecordQuery
