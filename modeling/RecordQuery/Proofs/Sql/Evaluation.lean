import RecordQuery.Proofs.Instant.RoundTrip
import RecordQuery.Proofs.Sql.Pattern

/-! # What conditions over columns mean

A condition of SQL is true, false or unknown. A comparison with a null column is unknown, also inside a list
and with a pattern, whereas the tests for null always have a result; the joining words keep what is already
decided. A constant is compared as the value that it stands for in a column of that kind: whole numbers are
numbers, and a text beside an instant is the text of an instant.
-/

namespace RecordQuery.Sql

/-- A truth value of SQL. -/
inductive Truth where
  | unknown
  | known (result : Bool)
deriving DecidableEq, Repr

namespace Truth

/-- The truth of NOT. -/
def not : Truth → Truth
  | known result => known !result
  | unknown => unknown

/-- The truth of AND, which one false side decides. -/
def and : Truth → Truth → Truth
  | known false, _ | _, known false => known false
  | known true, known true => known true
  | _, _ => unknown

/-- The truth of OR, which one true side decides. -/
def or : Truth → Truth → Truth
  | known true, _ | _, known true => known true
  | known false, known false => known false
  | _, _ => unknown

variable {left right : Truth} {result : Bool}

theorem not_eq_known_iff : not left = known result ↔ left = known !result := by
  cases left <;> simp [not]

theorem and_eq_true_iff : and left right = known true ↔ left = known true ∧ right = known true := by
  rcases left with _ | _ | _ <;> rcases right with _ | _ | _ <;> decide

theorem and_eq_false_iff : and left right = known false ↔ left = known false ∨ right = known false := by
  rcases left with _ | _ | _ <;> rcases right with _ | _ | _ <;> decide

theorem or_eq_true_iff : or left right = known true ↔ left = known true ∨ right = known true := by
  rcases left with _ | _ | _ <;> rcases right with _ | _ | _ <;> decide

theorem or_eq_false_iff : or left right = known false ↔ left = known false ∧ right = known false := by
  rcases left with _ | _ | _ <;> rcases right with _ | _ | _ <;> decide

@[simp]
theorem and_known_true : and left (known true) = left := by
  rcases left with _ | _ | _ <;> rfl

@[simp]
theorem or_known_false : or left (known false) = left := by
  rcases left with _ | _ | _ <;> rfl

@[simp]
theorem or_known_known (first second : Bool) : or (known first) (known second) = known (first || second) := by
  cases first <;> cases second <;> rfl

end Truth

/-- Two values in this order are in the relation. -/
def relates : Relation → Ordering → Bool
  | .equal => Ordering.isEq
  | .notEqual => Ordering.isNe
  | .greater => Ordering.isGT
  | .greaterOrEqual => Ordering.isGE
  | .less => Ordering.isLT
  | .lessOrEqual => Ordering.isLE

/-- The value that a constant stands for beside a stored one. -/
def Scalar.valueBeside? (stored : Value) : Scalar → Option Value
  | text content =>
    match stored with
    | .instant _ => (Instant.ofStored? content).map .instant
    | _ => some (.text content)
  | integer whole => some (.number (.ofInt whole))
  | number value => some (.number value)
  | boolean value => some (.boolean value)

/-- How a stored value stands to a constant of its kind. -/
def order? (stored : Value) (scalar : Scalar) : Option Ordering :=
  (scalar.valueBeside? stored).bind stored.compare?

/-- The truth of a comparison, which has no result for null nor for values of different kinds. -/
def compare (stored : Value) (sign : Relation) (scalar : Scalar) : Truth :=
  match stored, order? stored scalar with
  | .null, _ | _, none => .unknown
  | _, some order => .known (relates sign order)

/-- The truth of IN is that of the equalities with the items joined by OR. -/
def isAmong (stored : Value) (values : List Scalar) : Truth :=
  values.foldr (fun scalar others => (compare stored .equal scalar).or others) (.known false)

/-- The truth of LIKE with a backslash as the escape character. -/
def isLike (stored : Value) (pattern : String) : Truth :=
  match stored.text? with
  | some content => .known (matchesPattern pattern.toList content.toList)
  | none => .unknown

/-- The truth of a condition over the values of columns. -/
def Expression.evaluate (columns : String → Value) : Expression → Truth
  | relation column sign value => compare (columns column) sign value
  | membership column values => isAmong (columns column) values
  | like column pattern => isLike (columns column) pattern
  | isNull column => .known (columns column = .null)
  | isNotNull column => .known (columns column ≠ .null)
  | conjunction left right => (left.evaluate columns).and (right.evaluate columns)
  | disjunction left right => (left.evaluate columns).or (right.evaluate columns)
  | negation inner => (inner.evaluate columns).not

/-- The truth of IN with the equalities of a given comparison. -/
def isAmongBy (compares : Value → Relation → Scalar → Truth) (stored : Value) (values : List Scalar) : Truth :=
  values.foldr (fun scalar others => (compares stored .equal scalar).or others) (.known false)

/-- The truth of a condition in which values are compared in a given way. -/
def Expression.evaluateBy (compares : Value → Relation → Scalar → Truth) (columns : String → Value) :
    Expression → Truth
  | relation column sign value => compares (columns column) sign value
  | membership column values => isAmongBy compares (columns column) values
  | like column pattern => isLike (columns column) pattern
  | isNull column => .known (columns column = .null)
  | isNotNull column => .known (columns column ≠ .null)
  | conjunction left right => (left.evaluateBy compares columns).and (right.evaluateBy compares columns)
  | disjunction left right => (left.evaluateBy compares columns).or (right.evaluateBy compares columns)
  | negation inner => (inner.evaluateBy compares columns).not

/-- The truth of a condition is that with the usual comparison. -/
theorem Expression.evaluateBy_compare (columns : String → Value) (expression : Expression) :
    expression.evaluateBy compare columns = expression.evaluate columns := by
  induction expression with
  | relation | membership | like | isNull | isNotNull => rfl
  | conjunction left right ihLeft ihRight | disjunction left right ihLeft ihRight =>
    rw [evaluateBy, evaluate, ihLeft, ihRight]
  | negation inner ih => rw [evaluateBy, evaluate, ih]

end RecordQuery.Sql
