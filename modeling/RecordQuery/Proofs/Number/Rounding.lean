import Mathlib.Algebra.Group.Nat.Defs
import RecordQuery.Number.Basic

/-! # Where rounding changes nothing

A ratio may be written with any common factor, and a ratio that is a whole number of steps with 53
significant bits is that number. Rounding never loses the leading bit, and a ratio below one half vanishes.
A whole number that fits an integer is found again at the place where the number stands.
-/

namespace RecordQuery

/-- A common factor does not change what is nearest. -/
theorem roundHalfEven_mul_right (numerator denominator : Nat) {factor : Nat} (positive : 0 < factor) :
    roundHalfEven (numerator * factor) (denominator * factor) = roundHalfEven numerator denominator := by
  unfold roundHalfEven
  dsimp only
  rw [Nat.mul_div_mul_right _ _ positive, Nat.mul_mod_mul_right, ← Nat.mul_assoc]
  simp only [Nat.mul_lt_mul_right positive, Nat.mul_left_inj (Nat.ne_of_gt positive)]

/-- A multiple is divided without rest. -/
theorem roundHalfEven_mul_self (value : Nat) {denominator : Nat} (positive : 0 < denominator) :
    roundHalfEven (value * denominator) denominator = value := by
  unfold roundHalfEven
  dsimp only
  rw [Nat.mul_div_cancel _ positive, Nat.mul_mod_left]
  exact if_pos (.inl positive)

/-- Rounding goes down to the floor at most. -/
theorem le_roundHalfEven (numerator denominator : Nat) :
    numerator / denominator ≤ roundHalfEven numerator denominator := by
  unfold roundHalfEven
  dsimp only
  split <;> omega

namespace Number

theorem roundSteps_mul_right (numerator denominator : Nat) {factor : Nat} (positive : 0 < factor) :
    roundSteps (numerator * factor) (denominator * factor) = roundSteps numerator denominator := by
  unfold roundSteps
  dsimp only
  rw [Nat.mul_div_mul_right _ _ positive, Nat.shiftLeft_eq (denominator * factor), Nat.mul_right_comm,
    ← Nat.shiftLeft_eq denominator, roundHalfEven_mul_right _ _ positive]

/-- A count with 53 significant bits is its own nearest one. -/
theorem roundSteps_of_hasShortBits {steps : Nat} (short : HasShortBits steps) :
    roundSteps steps 1 = steps := by
  obtain ⟨significand, same⟩ := short
  unfold roundSteps
  dsimp only
  rw [Nat.div_one]
  generalize steps.log2 - 52 = shift at same
  have positive : 0 < 1 <<< shift := by
    rw [Nat.one_shiftLeft]
    exact Nat.two_pow_pos shift
  rw [same, Nat.mul_comm, roundHalfEven_mul_self _ positive, Nat.shiftLeft_eq, Nat.one_shiftLeft]

/-- Less than half a step is nothing. -/
theorem roundSteps_eq_zero {numerator denominator : Nat} (small : 2 * numerator < denominator) :
    roundSteps numerator denominator = 0 := by
  have below : numerator < denominator := by omega
  unfold roundSteps roundHalfEven
  simp only [Nat.div_eq_of_lt below, Nat.mod_eq_of_lt below, Nat.log2_zero, Nat.zero_sub, Nat.shiftLeft_zero,
    small, true_or, if_true]

/-- The leading bit of a ratio is kept. -/
theorem two_pow_log2_le_roundSteps {numerator denominator : Nat} (nonzero : numerator / denominator ≠ 0) :
    2 ^ (numerator / denominator).log2 ≤ roundSteps numerator denominator := by
  unfold roundSteps
  dsimp only
  generalize same : numerator / denominator = steps at nonzero ⊢
  have split : 2 ^ steps.log2 = 2 ^ (steps.log2 - (steps.log2 - 52)) * 2 ^ (steps.log2 - 52) := by
    rw [← Nat.pow_add]
    congr 1
    omega
  have leading : 2 ^ (steps.log2 - (steps.log2 - 52)) ≤ numerator / denominator <<< (steps.log2 - 52) := by
    rw [Nat.shiftLeft_eq, ← Nat.div_div_eq_div_mul, same, Nat.le_div_iff_mul_le (Nat.two_pow_pos _), ← split]
    exact Nat.log2_self_le nonzero
  rw [split, Nat.shiftLeft_eq _ (steps.log2 - 52)]
  exact Nat.mul_le_mul_right _ (Nat.le_trans leading (le_roundHalfEven _ _))

/-- A ratio past every number stays there. -/
theorem limit_le_roundSteps {numerator denominator : Nat} (large : limit ≤ numerator / denominator) :
    limit ≤ roundSteps numerator denominator := by
  have nonzero : numerator / denominator ≠ 0 := Nat.ne_of_gt (Nat.lt_of_lt_of_le zero_lt_limit large)
  have limit_eq : limit = 2 ^ (fractionBits + 1024) := Nat.one_shiftLeft _
  rw [limit_eq] at large ⊢
  exact Nat.le_trans (Nat.pow_le_pow_right (by decide) ((Nat.le_log2 nonzero).mpr large))
    (two_pow_log2_le_roundSteps nonzero)

private theorem stepsPerUnit_pos : 0 < stepsPerUnit :=
  Nat.lt_of_lt_of_eq (Nat.two_pow_pos fractionBits) (Nat.one_shiftLeft _).symm

private theorem natAbs_signed (negative : Bool) (magnitude : Nat) :
    (signed negative magnitude).natAbs = magnitude := by
  cases negative <;> simp [signed]

private theorem signed_signed (negative : Bool) (magnitude unit : Nat) :
    signed (decide (signed negative magnitude < 0)) (magnitude * unit) =
      signed negative (magnitude * unit) := by
  cases negative with
  | false =>
    simp only [signed, Bool.false_eq_true, if_false]
    exact if_neg (by simp)
  | true =>
    rcases Nat.eq_zero_or_pos magnitude with rfl | above
    · simp [signed]
    · simp [signed, above]

theorem position?_ofSteps {negative : Bool} {steps : Nat} {short : HasShortBits steps}
    (below : steps < limit) :
    (ofSteps negative steps short).position? = some (signed negative steps) := by
  rw [ofSteps, dif_pos below]
  rfl

theorem wholeValue?_eq_some {negative : Bool} {steps : Nat} {below : steps < limit}
    {short : HasShortBits steps} {whole : Int}
    (found : (finite negative steps below short).wholeValue? = some whole) :
    ∃ magnitude, steps = magnitude * stepsPerUnit ∧ whole = signed negative magnitude := by
  have opened : (if steps % stepsPerUnit = 0 ∧ steps < stepsPerUnit <<< 63 then
      some (signed negative (steps / stepsPerUnit)) else none) = some whole := found
  rw [Option.ite_none_right_eq_some] at opened
  obtain ⟨⟨integral, _⟩, units⟩ := opened
  obtain ⟨magnitude, same⟩ := Nat.dvd_of_mod_eq_zero integral
  refine ⟨magnitude, same.trans (Nat.mul_comm _ _), ?_⟩
  rw [← Option.some.inj units, same, Nat.mul_div_cancel_left _ stepsPerUnit_pos]

/-- The integer of a whole number stands where the number stands. -/
theorem position?_ofInt {value : Number} {whole : Int} (found : value.wholeValue? = some whole) :
    (ofInt whole).position? = value.position? := by
  cases value with
  | nan => cases found
  | infinite negative => cases found
  | finite negative steps below short =>
    obtain ⟨magnitude, same, rfl⟩ := wholeValue?_eq_some found
    have rounded : roundSteps ((signed negative magnitude).natAbs * stepsPerUnit) 1 = steps := by
      rw [natAbs_signed, ← same, roundSteps_of_hasShortBits short]
    have bound : roundSteps ((signed negative magnitude).natAbs * stepsPerUnit) 1 < limit := by rwa [rounded]
    rw [ofInt, ofRatio, position?_ofSteps bound, rounded, position?]
    rw [same, signed_signed]

end Number

end RecordQuery
