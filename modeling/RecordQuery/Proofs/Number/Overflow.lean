import RecordQuery.Proofs.Number.RoundTrip

/-! # Where numbers become infinite

A ratio is rounded to an infinity exactly from the middle between the largest finite number and 2¹⁰²⁴ on; the
middle itself goes up, since the largest finite number is odd in its last place. Digits are read as such a
ratio, however many they are.
-/

namespace RecordQuery

/-- An even count is reached from the middle below it on. -/
theorem even_le_roundHalfEven_iff {numerator denominator bound : Nat} (positive : 0 < denominator)
    (even : bound % 2 = 0) :
    bound ≤ roundHalfEven numerator denominator ↔
      2 * (bound * denominator) ≤ 2 * numerator + denominator := by
  have divided := Nat.div_add_mod numerator denominator
  have rest := Nat.mod_lt numerator positive
  have least := le_roundHalfEven numerator denominator
  have most := roundHalfEven_le numerator denominator
  rw [Nat.mul_comm] at divided
  rcases Nat.lt_trichotomy bound (numerator / denominator + 1) with low | rfl | high
  · have reached := Nat.mul_le_mul_right denominator (Nat.le_of_lt_succ low)
    constructor <;> intro <;> omega
  · -- The quotient is odd, and so the middle above it goes up.
    unfold roundHalfEven
    dsimp only
    rw [Nat.add_mul, Nat.one_mul]
    split <;> omega
  · have missed := Nat.mul_le_mul_right denominator (Nat.succ_le_of_lt high)
    rw [Nat.succ_mul, Nat.add_mul, Nat.one_mul] at missed
    constructor <;> intro <;> omega

namespace Number

/-- The least magnitude that is rounded to an infinity, which is 2¹⁰²⁴ - 2⁹⁷⁰. -/
def overflow : Nat := (1 <<< 54 - 1) <<< 970

section Steps

variable {numerator denominator shift : Nat}

private theorem limit_eq_pow : limit = 2 ^ (fractionBits + 1024) := Nat.one_shiftLeft _

private theorem limit_eq_double : limit = 2 ^ (fractionBits + 1023) * 2 := by
  rw [limit_eq_pow, show fractionBits + 1024 = fractionBits + 1023 + 1 from rfl, Nat.pow_succ]

private theorem log2_lt_iff {value bits : Nat} (positive : 0 < bits) :
    value.log2 < bits ↔ value < 2 ^ bits := by
  rcases Nat.eq_zero_or_pos value with rfl | above
  · exact iff_of_true positive (Nat.two_pow_pos _)
  · exact Nat.log2_lt (Nat.ne_of_gt above)

private theorem shiftLeft_mul_shiftLeft (value first second : Nat) :
    value <<< first * 1 <<< second = value * 2 ^ (first + second) := by
  rw [Nat.shiftLeft_eq, Nat.one_shiftLeft, Nat.mul_assoc, ← Nat.pow_add]

private theorem middle_of_unit (unit : Nat) :
    2 * ((1 <<< 54 - 1) * unit) + unit * 2 = 2 * (2 ^ 54 * unit) := by
  rw [Nat.one_shiftLeft]
  omega

/-- In steps the middle lies half a unit of the last place below the limit. -/
private theorem overflow_mul_stepsPerUnit :
    2 * (overflow * stepsPerUnit) + 2 ^ (970 + fractionBits + 1) = 2 * limit := by
  have steps : overflow * stepsPerUnit = (1 <<< 54 - 1) * 2 ^ (970 + fractionBits) :=
    shiftLeft_mul_shiftLeft _ 970 fractionBits
  have whole : 2 ^ (fractionBits + 1024) = 2 ^ 54 * 2 ^ (970 + fractionBits) := by
    rw [← Nat.pow_add]
    congr 1
  rw [limit_eq_pow, steps, whole, Nat.pow_succ, middle_of_unit]

/-- Up to the limit a ratio is rounded to multiples of one power of two, and the limit is one of them. -/
private theorem limit_le_roundSteps_iff_of_shift (positive : 0 < denominator)
    (same : (numerator / denominator).log2 - 52 = shift) (below : shift < fractionBits + 1024) :
    limit ≤ roundSteps numerator denominator ↔
      2 * (limit * denominator) ≤ 2 * numerator + 2 ^ shift * denominator := by
  have split : 2 ^ (fractionBits + 1024) = 2 ^ (fractionBits + 1024 - shift) * 2 ^ shift := by
    rw [← Nat.pow_add]
    congr 1
    omega
  have even : 2 ^ (fractionBits + 1024 - shift) % 2 = 0 := by
    obtain ⟨more, found⟩ := Nat.exists_eq_succ_of_ne_zero (Nat.sub_ne_zero_of_lt below)
    rw [found, Nat.pow_succ]
    exact Nat.mul_mod_left _ _
  have scaled : 0 < denominator * 2 ^ shift := Nat.mul_pos positive (Nat.two_pow_pos _)
  unfold roundSteps
  dsimp only
  rw [same, limit_eq_pow, split, Nat.shiftLeft_eq (roundHalfEven _ _),
    Nat.mul_le_mul_right_iff (Nat.two_pow_pos _), Nat.shiftLeft_eq, even_le_roundHalfEven_iff scaled even,
    Nat.mul_assoc, Nat.mul_comm denominator]

/-- Below half the limit neither the rounded ratio reaches the limit nor the ratio the middle. -/
private theorem not_reached_iff {numerator half unit step middle : Nat}
    (split : 2 * middle + unit = 2 * (half * 2)) (small : numerator < half) (coarse : unit ≤ half)
    (fine : step ≤ unit) : 2 * (half * 2) ≤ 2 * numerator + step ↔ middle ≤ numerator := by
  omega

/-- A ratio is rounded to the limit or past it exactly from the overflow on. -/
theorem limit_le_roundSteps_iff (positive : 0 < denominator) :
    limit ≤ roundSteps numerator denominator ↔ overflow * stepsPerUnit * denominator ≤ numerator := by
  have split : 2 * (overflow * stepsPerUnit * denominator) + 2 ^ (970 + fractionBits + 1) * denominator =
      2 * (limit * denominator) := by
    rw [← Nat.mul_assoc 2, ← Nat.add_mul, overflow_mul_stepsPerUnit, Nat.mul_assoc]
  by_cases large : limit ≤ numerator / denominator
  · have reached := (Nat.le_div_iff_mul_le positive).mp large
    constructor
    · intro
      omega
    · exact fun _ => limit_le_roundSteps large
  · rw [limit_eq_pow, Nat.not_le, ← log2_lt_iff (by omega)] at large
    have top : (numerator / denominator).log2 - 52 ≤ 970 + fractionBits + 1 := by omega
    generalize same : (numerator / denominator).log2 - 52 = shift at top
    rw [limit_le_roundSteps_iff_of_shift positive same (by omega)]
    rcases Nat.lt_or_eq_of_le top with low | rfl
    · have short : numerator / denominator < 2 ^ (fractionBits + 1023) := by
        rw [← log2_lt_iff (by omega)]
        omega
      have small : numerator < 2 ^ (fractionBits + 1023) * denominator :=
        (Nat.div_lt_iff_lt_mul positive).mp short
      have coarse : 2 ^ (970 + fractionBits + 1) * denominator ≤ 2 ^ (fractionBits + 1023) * denominator :=
        Nat.mul_le_mul_right _ (Nat.pow_le_pow_right (by decide) (by omega))
      have fine : 2 ^ shift * denominator ≤ 2 ^ (970 + fractionBits + 1) * denominator :=
        Nat.mul_le_mul_right _ (Nat.pow_le_pow_right (by decide) top)
      rw [limit_eq_double, Nat.mul_right_comm (2 ^ (fractionBits + 1023)) 2 denominator] at split ⊢
      exact not_reached_iff split small coarse fine
    · omega

end Steps

/-- The shortcuts of rounding reach the limit exactly where the ratio does. -/
private theorem limit_le_roundedSteps_iff {decimal : Decimal} :
    limit ≤ decimal.roundedSteps ↔ limit ≤ decimal.exactSteps := by
  rw [← Nat.not_lt, ← Nat.not_lt]
  apply not_congr
  constructor
  · intro bound
    rwa [Decimal.exactSteps_eq_roundedSteps bound]
  · intro bound
    rwa [Decimal.roundedSteps_eq_exactSteps bound]

theorem isFinite_ofSteps {negative : Bool} {steps : Nat} {short : HasShortBits steps} :
    (ofSteps negative steps short).isFinite = decide (steps < limit) := by
  unfold ofSteps
  split
  · rename_i below
    rw [decide_eq_true below]
    rfl
  · rename_i past
    rw [decide_eq_false past]
    rfl

/-- Digits with a point are infinite exactly if their magnitude reaches the overflow. -/
theorem isFinite_ofDigits_eq_false_iff {negative : Bool} {whole fraction : List Char} :
    (ofDigits negative whole fraction).isFinite = false ↔
      overflow * 10 ^ fraction.length ≤ Text.digitsValue (whole ++ fraction) := by
  have units : 0 < stepsPerUnit := by
    rw [stepsPerUnit, Nat.one_shiftLeft]
    exact Nat.two_pow_pos _
  rw [ofDigits, ofDecimal, isFinite_ofSteps, decide_eq_false_iff_not, Nat.not_lt, limit_le_roundedSteps_iff,
    Decimal.exactSteps_neg, limit_le_roundSteps_iff (Nat.pow_pos (by decide)), Nat.mul_right_comm,
    Nat.mul_le_mul_right_iff units]

end Number

end RecordQuery
