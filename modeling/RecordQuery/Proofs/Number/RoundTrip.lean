import RecordQuery.Number.Shortest
import RecordQuery.Proofs.Number.Rounding
import RecordQuery.Proofs.Text.Digits

/-! # Numbers are read back from their texts

The shortest digits of a number are chosen among those that round to it. Moving zeros between the
significand and the exponent changes nothing of the ratio that is rounded, and the shortcuts for extreme
exponents agree with the rounding wherever the result is a number. So the digits before and behind the point
of a text give the number back. Whatever the digits, a numeral is read as the number of these digits.
-/

namespace RecordQuery

/-- The digits of a fraction behind a point, which is there only with digits. -/
def Number.pointed (fraction : List Char) : List Char := if fraction = [] then [] else '.' :: fraction

namespace Decimal

/-- The steps nearest to a decimal magnitude, computed from the ratio for every exponent. -/
def exactSteps (decimal : Decimal) : Nat :=
  match decimal.exponent with
  | .ofNat power => Number.roundSteps (decimal.significand * 10 ^ power * Number.stepsPerUnit) 1
  | .negSucc power => Number.roundSteps (decimal.significand * Number.stepsPerUnit) (10 ^ (power + 1))

variable {decimal : Decimal}

private theorem stepsPerUnit_eq : Number.stepsPerUnit = 2 ^ Number.fractionBits := Nat.one_shiftLeft _

private theorem limit_eq : Number.limit = 2 ^ (Number.fractionBits + 1024) := Nat.one_shiftLeft _

/-- Powers of two and of ten are compared in steps of 2⁹³ ≤ 10²⁸ and what is left. -/
private theorem two_pow_le_ten_pow (count rest more : Nat) {bits places : Nat} (left : 2 ^ rest ≤ 10 ^ more)
    (allBits : bits = 93 * count + rest) (allPlaces : places = 28 * count + more) :
    2 ^ bits ≤ 10 ^ places := by
  rw [allBits, allPlaces, Nat.pow_add, Nat.pow_mul, Nat.pow_add, Nat.pow_mul]
  exact Nat.mul_le_mul (Nat.pow_le_pow_left (by decide) count) left

private theorem scaled_lt {significand bits places power : Nat} (step : 2 ^ (bits + 2) ≤ 10 ^ places)
    (far : significand.log2 + places ≤ power) : 2 * (significand * 2 ^ bits) < 10 ^ power :=
  have below : significand < 2 ^ (significand.log2 + 1) := Nat.lt_log2_self
  calc 2 * (significand * 2 ^ bits)
      < 2 * (2 ^ (significand.log2 + 1) * 2 ^ bits) :=
        Nat.mul_lt_mul_of_pos_left (Nat.mul_lt_mul_of_pos_right below (Nat.two_pow_pos _)) (by decide)
    _ = 2 ^ significand.log2 * 2 ^ (bits + 2) := by
        rw [← Nat.pow_add, ← Nat.pow_succ', ← Nat.pow_add]
        congr 1
        omega
    _ ≤ 10 ^ significand.log2 * 10 ^ places := Nat.mul_le_mul (Nat.pow_le_pow_left (by decide) _) step
    _ = 10 ^ (significand.log2 + places) := (Nat.pow_add _ _ _).symm
    _ ≤ 10 ^ power := Nat.pow_le_pow_right (by decide) far

private theorem le_scaled {significand bits places power unit : Nat} (step : 2 ^ bits ≤ 10 ^ places)
    (positive : 0 < significand) (far : places ≤ power) :
    2 ^ (unit + bits) ≤ significand * 10 ^ power * 2 ^ unit :=
  calc 2 ^ (unit + bits) = 1 * 2 ^ bits * 2 ^ unit := by rw [Nat.one_mul, Nat.add_comm, Nat.pow_add]
    _ ≤ significand * 10 ^ power * 2 ^ unit :=
      Nat.mul_le_mul_right _ (Nat.mul_le_mul positive
        (Nat.le_trans step (Nat.pow_le_pow_right (by decide) far)))

theorem exactSteps_of_zero (zero : decimal.significand = 0) : decimal.exactSteps = 0 := by
  unfold exactSteps
  rw [zero]
  split
  · exact Number.roundSteps_eq_zero (by simp)
  · refine Number.roundSteps_eq_zero ?_
    rw [Nat.zero_mul, Nat.mul_zero]
    exact Nat.pow_pos (by decide)

/-- A magnitude whose leading digit lies below the smallest step vanishes. -/
theorem exactSteps_of_small (small : decimal.exponent < -(decimal.significand.log2 + 326)) :
    decimal.exactSteps = 0 := by
  obtain ⟨significand, exponent⟩ := decimal
  cases exponent with
  | ofNat power =>
    simp only [Int.ofNat_eq_natCast] at small
    omega
  | negSucc power =>
    simp only at small
    have far : significand.log2 + 326 ≤ power + 1 := by omega
    refine Number.roundSteps_eq_zero ?_
    change 2 * (significand * Number.stepsPerUnit) < 10 ^ (power + 1)
    rw [stepsPerUnit_eq]
    exact scaled_lt (@two_pow_le_ten_pow 11 53 18 (Number.fractionBits + 2) 326 (by decide) rfl rfl) far

/-- A magnitude of more than 309 whole digits is past every number. -/
theorem limit_le_exactSteps (nonzero : decimal.significand ≠ 0) (large : 309 < decimal.exponent) :
    Number.limit ≤ decimal.exactSteps := by
  obtain ⟨significand, exponent⟩ := decimal
  cases exponent with
  | ofNat power =>
    simp only [Int.ofNat_eq_natCast] at large nonzero
    have far : 310 ≤ power := by omega
    have reaches : 2 ^ (Number.fractionBits + 1024) ≤ significand * 10 ^ power * Number.stepsPerUnit := by
      rw [stepsPerUnit_eq]
      exact le_scaled (@two_pow_le_ten_pow 11 1 2 1024 310 (by decide) rfl rfl)
        (Nat.pos_of_ne_zero nonzero) far
    refine Number.limit_le_roundSteps ?_
    rwa [Nat.div_one, limit_eq]
  | negSucc power =>
    simp only at large
    omega

/-- Rounding takes no shortcut where its result is a number. -/
theorem roundedSteps_eq_exactSteps (bound : decimal.exactSteps < Number.limit) :
    decimal.roundedSteps = decimal.exactSteps := by
  unfold roundedSteps
  split
  · rename_i vanishing
    rcases vanishing with zero | small
    · rw [exactSteps_of_zero zero]
    · rw [exactSteps_of_small small]
  · rename_i visible
    split
    · rename_i large
      have past := limit_le_exactSteps (fun zero => visible (.inl zero)) large
      exact absurd bound (Nat.not_lt_of_le past)
    · rfl

theorem exactSteps_eq_roundedSteps (bound : decimal.roundedSteps < Number.limit) :
    decimal.exactSteps = decimal.roundedSteps := by
  unfold roundedSteps at bound ⊢
  split
  · rename_i vanishing
    rcases vanishing with zero | small
    · rw [exactSteps_of_zero zero]
    · rw [exactSteps_of_small small]
  · rename_i visible
    rw [if_neg visible] at bound
    split
    · rename_i large
      rw [if_pos large] at bound
      exact absurd bound (Nat.lt_irrefl _)
    · rfl

/-- A zero may stand at the end of the significand or count in the exponent. -/
theorem exactSteps_mul_ten (significand : Nat) (exponent : Int) :
    exactSteps ⟨significand * 10, exponent⟩ = exactSteps ⟨significand, exponent + 1⟩ := by
  cases exponent with
  | ofNat power =>
    change Number.roundSteps (significand * 10 * 10 ^ power * _) 1 =
      Number.roundSteps (significand * 10 ^ (power + 1) * _) 1
    rw [Nat.mul_assoc significand, ← Nat.pow_succ']
  | negSucc power =>
    have moved : significand * 10 * Number.stepsPerUnit = significand * Number.stepsPerUnit * 10 :=
      Nat.mul_right_comm _ _ _
    cases power with
    | zero =>
      change Number.roundSteps (significand * 10 * _) (10 ^ 1) =
        Number.roundSteps (significand * 10 ^ 0 * _) 1
      rw [moved, Nat.pow_zero, Nat.mul_one]
      exact Number.roundSteps_mul_right _ 1 (by decide)
    | succ power =>
      change Number.roundSteps (significand * 10 * _) (10 ^ (power + 1 + 1)) =
        Number.roundSteps (significand * _) (10 ^ (power + 1))
      rw [moved, Nat.pow_succ 10 (power + 1), Number.roundSteps_mul_right _ _ (by decide)]

/-- Trimming keeps the magnitude. -/
theorem exactSteps_trimmed (decimal : Decimal) : decimal.trimmed.exactSteps = decimal.exactSteps := by
  fun_induction trimmed decimal with
  | case1 decimal zero => rw [exactSteps_of_zero zero, exactSteps_of_zero rfl]
  | case2 decimal nonzero trailing ih =>
    have whole : decimal.significand / 10 * 10 = decimal.significand :=
      Nat.div_mul_cancel (Nat.dvd_of_mod_eq_zero trailing)
    rw [ih, ← exactSteps_mul_ten, whole]
  | case3 decimal nonzero last => rfl

/-- Digits behind the point divide by a power of ten. -/
theorem exactSteps_neg (significand places : Nat) :
    exactSteps ⟨significand, -(places : Int)⟩ =
      Number.roundSteps (significand * Number.stepsPerUnit) (10 ^ places) := by
  cases places with
  | zero =>
    change Number.roundSteps (significand * 10 ^ 0 * _) 1 = _
    rw [Nat.pow_zero, Nat.mul_one]
  | succ places => rfl

theorem exactSteps_expansion {steps : Nat} (short : Number.HasShortBits steps) :
    (expansion steps).exactSteps = steps := by
  have tens (places : Nat) : 5 ^ places * 2 ^ places = 10 ^ places := (Nat.mul_pow 5 2 places).symm
  have positive : 0 < 10 ^ Number.fractionBits := Nat.pow_pos (by decide)
  have cancelled := Number.roundSteps_mul_right steps 1 positive
  rw [Nat.one_mul, Number.roundSteps_of_hasShortBits short] at cancelled
  rw [expansion, exactSteps_neg, Nat.pow_eq, stepsPerUnit_eq, Nat.mul_assoc, tens, cancelled]

theorem roundedSteps_of_gridPoint? {tie : Tie} {steps : Nat} {exponent : Int}
    (found : gridPoint? tie steps exponent = some decimal) : decimal.roundedSteps = steps := by
  unfold gridPoint? at found
  dsimp only at found
  split at found
  · rename_i lower upper
    split at found
    · cases found
      exact beq_iff_eq.mp lower
    · cases found
      exact beq_iff_eq.mp upper
  · rename_i lower upper
    cases found
    exact beq_iff_eq.mp lower
  · rename_i lower upper
    cases found
    exact beq_iff_eq.mp upper
  · cases found

/-- The shortest digits of a count of steps round to it. -/
theorem exactSteps_shortest (tie : Tie) {steps : Nat} (below : steps < Number.limit)
    (short : Number.HasShortBits steps) : (shortest tie steps).exactSteps = steps := by
  unfold shortest
  dsimp only
  rw [exactSteps_trimmed]
  cases found : (List.range 17).findSome? fun extra =>
      gridPoint? tie steps (leadingExponent steps - (extra : Nat)) with
  | none => exact exactSteps_expansion short
  | some decimal =>
    obtain ⟨extra, -, point⟩ := List.exists_of_findSome?_eq_some found
    have rounded := roundedSteps_of_gridPoint? point
    rw [Option.getD_some, exactSteps_eq_roundedSteps (rounded ▸ below), rounded]

/-- The text of a magnitude has digits in front of a point and behind it, which stand for the magnitude. -/
theorem exists_positional (decimal : Decimal) :
    ∃ whole fraction, whole ≠ [] ∧ (∀ digit ∈ whole ++ fraction, digit.isDigit) ∧
      decimal.positional.toList = whole ++ Number.pointed fraction ∧
      exactSteps ⟨Text.digitsValue (whole ++ fraction), -fraction.length⟩ = decimal.exactSteps := by
  obtain ⟨significand, exponent⟩ := decimal
  cases exponent with
  | ofNat power =>
    refine ⟨Nat.toDigits 10 significand ++ List.replicate power '0', [], ?_, ?_, ?_, ?_⟩
    · exact List.append_ne_nil_of_left_ne_nil Nat.toDigits_ne_nil _
    · intro digit member
      rw [List.append_nil, List.mem_append] at member
      exact member.elim Text.isDigit_of_mem_toDigits Text.isDigit_of_mem_zeros
    · rw [Number.pointed, if_pos rfl, List.append_nil]
      exact String.toList_ofList
    · rw [List.append_nil, Text.digitsValue_append_zeros, Text.digitsValue_toDigits, List.length_nil,
        exactSteps_neg, Nat.pow_zero]
      rfl
  | negSucc power =>
    let written :=
      List.replicate (power + 2 - (Nat.toDigits 10 significand).length) '0' ++ Nat.toDigits 10 significand
    let places := written.length - (power + 1)
    have long : power + 2 ≤ written.length := by
      simp only [written, List.length_append, List.length_replicate]
      omega
    have behind : (written.drop places).length = power + 1 := by
      rw [List.length_drop]
      omega
    have nonempty : written.drop places ≠ [] := fun none => by simp [none] at behind
    refine ⟨written.take places, written.drop places, ?_, ?_, ?_, ?_⟩
    · intro none
      have front := congrArg List.length none
      rw [List.length_take, List.length_nil] at front
      omega
    · intro digit member
      rw [List.take_append_drop, List.mem_append] at member
      exact member.elim Text.isDigit_of_mem_zeros Text.isDigit_of_mem_toDigits
    · rw [Number.pointed, if_neg nonempty]
      exact String.toList_ofList
    · rw [List.take_append_drop, behind, Text.digitsValue_zeros_append, Text.digitsValue_toDigits,
        exactSteps_neg]
      rfl

end Decimal

namespace Number

/-- The characters of a numeral: a sign, whole digits and a fraction. -/
def numeral (negative : Bool) (whole fraction : List Char) : List Char :=
  (if negative then ['-'] else []) ++ whole ++ pointed fraction

private theorem ofSteps_eq_finite {negative : Bool} {steps rounded : Nat} (same : rounded = steps)
    (below : steps < limit) (short : HasShortBits steps) (shortRounded : HasShortBits rounded) :
    ofSteps negative rounded shortRounded = finite negative steps below short := by
  subst same
  exact dif_pos below

/-- The text of a finite number is a numeral of the number. -/
theorem exists_numeral {value : Number} (isFinite : value.isFinite) :
    ∃ negative whole fraction, whole ≠ [] ∧ (∀ digit ∈ whole ++ fraction, digit.isDigit) ∧
      value.text.toList = numeral negative whole fraction ∧ ofDigits negative whole fraction = value := by
  cases value with
  | nan | infinite => cases isFinite
  | finite negative steps below short =>
    obtain ⟨whole, fraction, nonempty, digits, written, exact⟩ :=
      Decimal.exists_positional (Decimal.shortest .up steps)
    rw [Decimal.exactSteps_shortest .up below short] at exact
    refine ⟨negative, whole, fraction, nonempty, digits, ?_, ?_⟩
    · rw [text, String.toList_append, written, numeral, List.append_assoc]
      cases negative <;> rfl
    · exact ofSteps_eq_finite ((Decimal.roundedSteps_eq_exactSteps (exact ▸ below)).trans exact) below short _

/-- A numeral is read as the number of its digits. -/
theorem ofText?_numeral (negative : Bool) {whole fraction : List Char} (nonempty : whole ≠ [])
    (digits : ∀ digit ∈ whole ++ fraction, digit.isDigit) :
    ofText? (String.ofList (numeral negative whole fraction)) = some (ofDigits negative whole fraction) := by
  have inWhole : ∀ digit ∈ whole, digit.isDigit :=
    fun digit member => digits digit (List.mem_append_left _ member)
  have inFraction : ∀ digit ∈ fraction, digit.isDigit :=
    fun digit member => digits digit (List.mem_append_right _ member)
  have signs : splitSign (numeral negative whole fraction) = (negative, whole ++ pointed fraction) := by
    cases negative with
    | true => rfl
    | false =>
      obtain ⟨first, others, rfl⟩ := List.exists_cons_of_ne_nil nonempty
      have isDigit : first.isDigit := inWhole first List.mem_cons_self
      change splitSign (first :: (others ++ pointed fraction)) = _
      unfold splitSign
      split
      · rename_i minus
        rw [(List.cons.inj minus).1] at isDigit
        cases isDigit
      · rename_i plus
        rw [(List.cons.inj plus).1] at isDigit
        cases isDigit
      · rfl
  have point : (pointed fraction).head?.any Char.isDigit = false := by
    unfold pointed
    split <;> rfl
  have split : splitFraction (pointed fraction) = (fraction, []) := by
    unfold pointed
    split
    · rename_i integral
      rw [integral]
      rfl
    · have run : (fraction ++ []).takeWhile Char.isDigit = fraction := Text.takeWhile_run inFraction rfl
      have behind : (fraction ++ []).dropWhile Char.isDigit = [] := Text.dropWhile_run inFraction rfl
      rw [List.append_nil] at run behind
      rw [splitFraction, run, behind]
  have read : readDecimal? (whole ++ pointed fraction) =
      some ⟨Text.digitsValue (whole ++ fraction), -fraction.length⟩ := by
    rw [readDecimal?, Text.takeWhile_run inWhole point, Text.dropWhile_run inWhole point, split]
    dsimp only
    rw [if_neg fun empty => nonempty empty.1, readExponent?, Option.map_some, Int.zero_sub]
  rw [ofText?, String.toList_ofList, signs]
  dsimp only
  rw [read]
  rfl

end Number

end RecordQuery
