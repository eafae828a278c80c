import RecordQuery.Number.Basic
import RecordQuery.Text.Basic

/-! # Decimal numerals

A numeral is an optional sign, digits with at most one point among them, and an optional exponent; the
words for the infinities and the undefined number are read without regard to case. The value is rounded
once, from the exact ratio. Exponents that decide the outcome by themselves never form a power.
-/

namespace RecordQuery

/-- A magnitude of `significand · 10 ^ exponent`. -/
structure Decimal where
  significand : Nat
  exponent : Int
deriving DecidableEq, Repr

namespace Decimal

/-- The steps nearest to a decimal magnitude. A nonzero significand at an exponent above 309 reaches
the limit, and one whose leading digit lies below 10⁻³²⁵ vanishes. -/
def roundedSteps (decimal : Decimal) : Nat :=
  if decimal.significand = 0 ∨ decimal.exponent < -(decimal.significand.log2 + 326) then 0
  else if 309 < decimal.exponent then Number.limit
  else match decimal.exponent with
    | .ofNat power => Number.roundSteps (decimal.significand * Nat.pow 10 power * Number.stepsPerUnit) 1
    | .negSucc power =>
      Number.roundSteps (decimal.significand * Number.stepsPerUnit) (Nat.pow 10 (power + 1))

theorem roundedSteps_hasShortBits (decimal : Decimal) :
    Number.HasShortBits decimal.roundedSteps := by
  unfold roundedSteps
  split
  · exact Number.zero_hasShortBits
  · split
    · exact Number.limit_hasShortBits
    · split <;> exact Number.roundSteps_hasShortBits _ _

end Decimal

namespace Number

/-- The number nearest to a signed decimal. -/
def ofDecimal (negative : Bool) (decimal : Decimal) : Number :=
  ofSteps negative decimal.roundedSteps decimal.roundedSteps_hasShortBits

/-- The number written by whole digits, a point and fraction digits. -/
def ofDigits (negative : Bool) (whole fraction : List Char) : Number :=
  ofDecimal negative ⟨Text.digitsValue (whole ++ fraction), -fraction.length⟩

/-- Takes off a leading sign and tells whether it is a minus. -/
def splitSign : List Char → Bool × List Char
  | '-' :: rest => (true, rest)
  | '+' :: rest => (false, rest)
  | rest => (false, rest)

/-- The value of exponent digits, which stops growing once it has reached 65536. -/
def exponentValue (digits : List Char) : Nat :=
  digits.foldl (fun value digit => if value < 65536 then 10 * value + (digit.toNat - 48) else value) 0

/-- Reads the rest of a numeral behind its digits: nothing, or an exponent. -/
def readExponent? : List Char → Option Int
  | [] => some 0
  | mark :: rest =>
    let (negative, digits) := splitSign rest
    if (mark = 'e' ∨ mark = 'E') ∧ digits ≠ [] ∧ digits.all Char.isDigit then
      some (signed negative (exponentValue digits))
    else none

/-- Takes off the fraction digits behind a point. -/
def splitFraction : List Char → List Char × List Char
  | '.' :: rest => (rest.takeWhile Char.isDigit, rest.dropWhile Char.isDigit)
  | rest => ([], rest)

/-- Reads an unsigned numeral, which needs a digit on one side of its point. -/
def readDecimal? (text : List Char) : Option Decimal :=
  let whole := text.takeWhile Char.isDigit
  let (fraction, rest) := splitFraction (text.dropWhile Char.isDigit)
  if whole = [] ∧ fraction = [] then none
  else (readExponent? rest).map fun exponent =>
    ⟨Text.digitsValue (whole ++ fraction), exponent - fraction.length⟩

/-- Reads the word for an infinity or for the undefined number. -/
def readWord? (negative : Bool) (text : List Char) : Option Number :=
  let word := text.map Char.toLower
  if word = "inf".toList ∨ word = "infinity".toList then some (.infinite negative)
  else if word = "nan".toList then some .nan
  else none

/-- Reads a whole text as a number. -/
def ofText? (text : String) : Option Number :=
  let (negative, unsigned) := splitSign text.toList
  match readDecimal? unsigned with
  | some decimal => some (ofDecimal negative decimal)
  | none => readWord? negative unsigned

end Number

end RecordQuery
