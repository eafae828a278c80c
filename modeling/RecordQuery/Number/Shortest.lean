import RecordQuery.Number.Decimal

/-! # Shortest decimal digits

The digits of a finite number are the fewest that read back as it. For one, two, … seventeen digits the
two points of the decimal grid around the value are tried; the first grid with a point that reads back
wins, and of two such points the nearer one. The exact expansion stands behind the search, so the digits
always read back.
-/

namespace RecordQuery

/-- Which of two equally near grid points is taken. -/
inductive Tie where
  | up
  | even
deriving DecidableEq, Repr

namespace Decimal

/-- The exponent of the leading digit of a positive natural number. -/
def leadingPower (value : Nat) : Nat :=
  if value < 10 then 0 else leadingPower (value / 10) + 1
termination_by value
decreasing_by omega

/-- The exponent of the leading digit of a positive count of steps. No step is below 10⁻³²⁴. -/
def leadingExponent (steps : Nat) : Int :=
  leadingPower (steps * Nat.pow 10 324 / Number.stepsPerUnit) - 324

/-- The ratio of a count of steps to a power of ten. -/
def gridRatio (steps : Nat) (exponent : Int) : Nat × Nat :=
  match exponent with
  | .ofNat power => (steps, Number.stepsPerUnit * Nat.pow 10 power)
  | .negSucc power => (steps * Nat.pow 10 (power + 1), Number.stepsPerUnit)

/-- The lower one of two neighbouring grid points is nearer, or as near and preferred. -/
def prefersLower (tie : Tie) (numerator denominator : Nat) : Bool :=
  let excess := 2 * (numerator % denominator)
  excess < denominator ||
    (excess == denominator && tie == .even && numerator / denominator % 2 == 0)

/-- The better grid point beside a value among those that read back as it. -/
def gridPoint? (tie : Tie) (steps : Nat) (exponent : Int) : Option Decimal :=
  let (numerator, denominator) := gridRatio steps exponent
  let lower : Decimal := ⟨numerator / denominator, exponent⟩
  let upper : Decimal := ⟨numerator / denominator + 1, exponent⟩
  match lower.roundedSteps == steps, upper.roundedSteps == steps with
  | true, true => some (if prefersLower tie numerator denominator then lower else upper)
  | true, false => some lower
  | false, true => some upper
  | false, false => none

/-- The full expansion of a count of steps. -/
def expansion (steps : Nat) : Decimal := ⟨steps * Nat.pow 5 Number.fractionBits, -Number.fractionBits⟩

/-- Moves trailing zeros of the significand into the exponent; zero has the exponent 0. -/
def trimmed (decimal : Decimal) : Decimal :=
  if decimal.significand = 0 then ⟨0, 0⟩
  else if decimal.significand % 10 = 0 then trimmed ⟨decimal.significand / 10, decimal.exponent + 1⟩
  else decimal
termination_by decimal.significand
decreasing_by omega

/-- The shortest digits of a count of steps. -/
def shortest (tie : Tie) (steps : Nat) : Decimal :=
  let leading := leadingExponent steps
  let found := (List.range 17).findSome? fun extra =>
    gridPoint? tie steps (leading - (extra : Nat))
  (found.getD (expansion steps)).trimmed

/-- The digits of the significand. -/
def digits (decimal : Decimal) : List Char := Nat.toDigits 10 decimal.significand

/-- Writes a magnitude without an exponent. -/
def positional (decimal : Decimal) : String :=
  match decimal.exponent with
  | .ofNat power => String.ofList (decimal.digits ++ List.replicate power '0')
  | .negSucc power =>
    let digits := List.replicate (power + 2 - decimal.digits.length) '0' ++ decimal.digits
    let places := digits.length - (power + 1)
    String.ofList (digits.take places ++ '.' :: digits.drop places)

/-- The exponent of the leading digit in scientific form. -/
def scientificExponent (decimal : Decimal) : Int := decimal.exponent + decimal.digits.length - 1

/-- Writes a magnitude with one leading digit and a signed exponent. -/
def scientific (decimal : Decimal) : String :=
  let mantissa := match decimal.digits with
    | leading :: second :: rest => leading :: '.' :: second :: rest
    | short => short
  let exponent := decimal.scientificExponent
  let sign := if exponent < 0 then "-" else "+"
  String.ofList mantissa ++ "e" ++ sign ++ toString exponent.natAbs

end Decimal

namespace Number

/-- A minus for a negative sign, also that of a zero. -/
def signText (negative : Bool) : String := if negative then "-" else ""

/-- The text of a number: its shortest digits without an exponent, a tie going up. -/
def text : Number → String
  | .nan => "NaN"
  | .infinite negative => signText negative ++ "inf"
  | .finite negative steps _ _ => signText negative ++ (Decimal.shortest .up steps).positional

end Number

end RecordQuery
