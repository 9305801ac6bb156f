import Mathlib.Algebra.Order.Field.Power
import Mathlib.Algebra.Order.Ring.Rat
import Mathlib.Tactic.FieldSimp
import Mathlib.Tactic.Linarith
import Mathlib.Tactic.NormNum
import Mathlib.Tactic.Positivity
import Mathlib.Tactic.Ring
import ProseTree.Decimal.Nearest
import ProseTree.Decimal.Shortest

/-!
# Ratios that round to a double

A double stands for the ratios from half a unit in its last place below it to half a unit above it, or from
a quarter of a unit below it where the next smaller double is closer; the ends belong to it when its
significand is even. Every such ratio has this double as its nearest one, in three cases: the ratio has
the exponent of the double; it is less than a power of two and rounds up to it; or it is subnormal.
-/

namespace ProseTree.Decimal

section Quotients

variable {numerator denominator whole : Nat}

/-- A ratio that rounds to a natural number, ties to even. -/
structure RoundsToNat (ratio : ℚ) (whole : Nat) : Prop where
  low : (whole : ℚ) - 1 / 2 ≤ ratio
  high : ratio ≤ whole + 1 / 2
  odd : whole % 2 = 1 → (whole : ℚ) - 1 / 2 < ratio ∧ ratio < whole + 1 / 2

/-- Whether a quotient rounds to a natural number is seen from multiples of the divisor. -/
theorem RoundsToNat.multiplied (positive : 0 < denominator)
    (rounds : RoundsToNat ((numerator : ℚ) / denominator) whole) :
    2 * (whole * denominator) ≤ 2 * numerator + denominator ∧
      2 * numerator ≤ 2 * (whole * denominator) + denominator ∧
      (whole % 2 = 1 → 2 * (whole * denominator) < 2 * numerator + denominator ∧
        2 * numerator < 2 * (whole * denominator) + denominator) := by
  have positive' : (0 : ℚ) < denominator := by exact_mod_cast positive
  obtain ⟨low, high, odd⟩ := rounds
  rw [le_div_iff₀ positive'] at low
  rw [div_le_iff₀ positive'] at high
  rw [lt_div_iff₀ positive', div_lt_iff₀ positive'] at odd
  have low' : (2 * (whole * denominator) : ℚ) ≤ 2 * numerator + denominator := by linarith
  have high' : (2 * numerator : ℚ) ≤ 2 * (whole * denominator) + denominator := by linarith
  refine ⟨by exact_mod_cast low', by exact_mod_cast high', fun isOdd => ?_⟩
  obtain ⟨above, below⟩ := odd isOdd
  have above' : (2 * (whole * denominator) : ℚ) < 2 * numerator + denominator := by linarith
  have below' : (2 * numerator : ℚ) < 2 * (whole * denominator) + denominator := by linarith
  exact ⟨by exact_mod_cast above', by exact_mod_cast below'⟩

/-- A quotient is rounded to the natural number that its ratio rounds to. -/
theorem divideToEven_eq (positive : 0 < denominator)
    (rounds : RoundsToNat ((numerator : ℚ) / denominator) whole) :
    divideToEven numerator denominator = whole := by
  obtain ⟨low, high, odd⟩ := rounds.multiplied positive
  have split := Nat.div_add_mod numerator denominator
  have rest := Nat.mod_lt numerator positive
  rw [divideToEven]
  generalize numerator / denominator = quotient at split ⊢
  generalize numerator % denominator = remainder at split rest ⊢
  have notBelow : quotient ≤ whole := by
    have scaled : denominator * quotient < denominator * (whole + 1) := by
      rw [Nat.mul_add, Nat.mul_comm denominator whole]
      omega
    exact Nat.lt_succ_iff.1 (Nat.lt_of_mul_lt_mul_left scaled)
  have notAbove : whole ≤ quotient + 1 := by
    have scaled : denominator * whole < denominator * (quotient + 2) := by
      rw [Nat.mul_add, Nat.mul_comm denominator whole]
      omega
    exact Nat.lt_succ_iff.1 (Nat.lt_of_mul_lt_mul_left scaled)
  obtain rfl | rfl : whole = quotient ∨ whole = quotient + 1 := by omega
  · rw [Nat.mul_comm] at split
    rw [if_pos]
    simp only [Bool.or_eq_true, decide_eq_true_eq, Bool.and_eq_true, beq_iff_eq]
    omega
  · rw [Nat.mul_comm] at split
    rw [Nat.add_mul] at low high odd
    rw [if_neg]
    simp only [Bool.or_eq_true, decide_eq_true_eq, Bool.and_eq_true, beq_iff_eq]
    omega

end Quotients

section Scaling

variable {numerator denominator : Nat}

/-- An exponent is not negative, or the negative of a natural number. -/
theorem exponent_cases (exponent : Int) :
    (∃ places : Nat, exponent = places) ∨ ∃ places : Nat, 0 < places ∧ exponent = -places := by
  by_cases negative : exponent < 0
  · exact .inr ⟨(-exponent).toNat, by omega, by omega⟩
  · exact .inl ⟨exponent.toNat, by omega⟩

/-- Whether a power of two is at most a ratio is found by multiplication. -/
theorem two_zpow_le_div_iff (positive : 0 < denominator) (exponent : Int) :
    (2 : ℚ) ^ exponent ≤ numerator / denominator ↔
      (if 0 ≤ exponent then decide (denominator * Nat.pow 2 exponent.toNat ≤ numerator)
        else decide (denominator ≤ numerator * Nat.pow 2 (-exponent).toNat)) = true := by
  have positive' : (0 : ℚ) < denominator := by exact_mod_cast positive
  rw [le_div_iff₀ positive']
  obtain ⟨places, rfl⟩ | ⟨places, negative, rfl⟩ := exponent_cases exponent
  · rw [if_pos (Int.natCast_nonneg places), Int.toNat_natCast, decide_eq_true_eq, zpow_natCast,
      mul_comm]
    exact_mod_cast Iff.rfl
  · rw [if_neg (by omega), neg_neg, Int.toNat_natCast, decide_eq_true_eq, zpow_neg, zpow_natCast,
      inv_mul_le_iff₀ (by positivity), mul_comm]
    exact_mod_cast Iff.rfl

/-- The exponent of a ratio is that of the largest power of two not above it. -/
theorem binaryExponent_spec (numeratorPositive : 0 < numerator) (positive : 0 < denominator) :
    (2 : ℚ) ^ binaryExponent numerator denominator ≤ numerator / denominator ∧
      (numerator : ℚ) / denominator < 2 ^ (binaryExponent numerator denominator + 1) := by
  have positive' : (0 : ℚ) < denominator := by exact_mod_cast positive
  have numeratorLow : (2 : ℚ) ^ (Nat.log2 numerator : Int) ≤ numerator := by
    exact_mod_cast Nat.log2_self_le numeratorPositive.ne'
  have numeratorHigh : (numerator : ℚ) < 2 ^ (Nat.log2 numerator + 1 : Int) := by
    exact_mod_cast Nat.lt_log2_self
  have denominatorLow : (2 : ℚ) ^ (Nat.log2 denominator : Int) ≤ denominator := by
    exact_mod_cast Nat.log2_self_le positive.ne'
  have denominatorHigh : (denominator : ℚ) < 2 ^ (Nat.log2 denominator + 1 : Int) := by
    exact_mod_cast Nat.lt_log2_self
  have reached : (2 : ℚ) ^ ((Nat.log2 numerator : Int) - Nat.log2 denominator) ≤
      numerator / denominator ↔ _ := two_zpow_le_div_iff positive _
  rw [binaryExponent]
  generalize (Nat.log2 numerator : Int) = first at *
  generalize (Nat.log2 denominator : Int) = second at *
  have above : (numerator : ℚ) / denominator < 2 ^ (first - second + 1) := by
    rw [div_lt_iff₀ positive']
    calc (numerator : ℚ) < 2 ^ (first + 1) := numeratorHigh
      _ = 2 ^ (first - second + 1) * 2 ^ second := by
        rw [← zpow_add₀ two_ne_zero]
        congr 1
        omega
      _ ≤ 2 ^ (first - second + 1) * denominator :=
        mul_le_mul_of_nonneg_left denominatorLow (by positivity)
  have below : (2 : ℚ) ^ (first - second - 1) ≤ numerator / denominator := by
    rw [le_div_iff₀ positive']
    calc (2 : ℚ) ^ (first - second - 1) * denominator
        ≤ 2 ^ (first - second - 1) * 2 ^ (second + 1) :=
          mul_le_mul_of_nonneg_left denominatorHigh.le (by positivity)
      _ = 2 ^ first := by
        rw [← zpow_add₀ two_ne_zero]
        congr 1
        omega
      _ ≤ numerator := numeratorLow
  by_cases isReached : (2 : ℚ) ^ (first - second) ≤ numerator / denominator
  · rw [if_pos (reached.1 isReached)]
    exact ⟨isReached, above⟩
  · rw [if_neg (mt reached.2 isReached), sub_add_cancel]
    exact ⟨below, not_le.1 isReached⟩

/-- Division at a scale rounds the ratio in units of this scale. -/
theorem divideToEven_scaled {whole : Nat} (positive : 0 < denominator) {scale : Int}
    (rounds : RoundsToNat ((numerator : ℚ) / denominator / 2 ^ scale) whole) :
    (if 0 ≤ scale then divideToEven numerator (denominator * Nat.pow 2 scale.toNat)
      else divideToEven (numerator * Nat.pow 2 (-scale).toNat) denominator) = whole := by
  obtain ⟨places, rfl⟩ | ⟨places, negative, rfl⟩ := exponent_cases scale
  · rw [if_pos (Int.natCast_nonneg places), Int.toNat_natCast]
    apply divideToEven_eq (Nat.mul_pos positive (Nat.two_pow_pos places))
    rw [div_div, zpow_natCast] at rounds
    push_cast
    exact rounds
  · rw [if_neg (by omega), neg_neg, Int.toNat_natCast]
    apply divideToEven_eq positive
    rw [zpow_neg, zpow_natCast, div_inv_eq_mul, div_mul_eq_mul_div] at rounds
    rw [Nat.pow_eq]
    push_cast
    exact rounds

/-- The nearest bits put the exponent of the scale above what the ratio rounds to at this scale. -/
theorem nearestBits_eq_min (numeratorPositive : 0 < numerator) (positive : 0 < denominator)
    {scale : Int} (isScale : max (-1074) (binaryExponent numerator denominator - 52) = scale)
    {whole : Nat} (rounds : RoundsToNat ((numerator : ℚ) / denominator / 2 ^ scale) whole) :
    nearestBits numerator denominator =
      min infinityBits ((scale + 1074).toNat * Nat.pow 2 52 + whole) := by
  have notZero : (numerator == 0) = false := by
    simpa using numeratorPositive.ne'
  simp only [nearestBits, notZero, isScale, divideToEven_scaled positive rounds, Bool.false_eq_true,
    if_false]

end Scaling

namespace Binary

variable {binary : Binary}

/-- The part of a unit in the last place by which a ratio may fall short of the value. -/
def slack (binary : Binary) : ℚ :=
  if binary.narrowBelow then 1 / 4 else 1 / 2

/-- A ratio that rounds to the value, measured in units in the last place. -/
structure RoundsTo (binary : Binary) (ratio : ℚ) : Prop where
  low : binary.significand - binary.slack ≤ ratio / 2 ^ binary.exponent
  high : ratio / 2 ^ binary.exponent ≤ binary.significand + 1 / 2
  odd : binary.significand % 2 = 1 →
    binary.significand - binary.slack < ratio / 2 ^ binary.exponent ∧
      ratio / 2 ^ binary.exponent < binary.significand + 1 / 2

/-- The bits of a positive double. -/
def bits (binary : Binary) : Nat :=
  (binary.exponent + 1074).toNat * Nat.pow 2 52 + binary.significand

/-- A positive finite double: its significand has 53 binary digits unless its exponent is the least one. -/
structure IsDouble (binary : Binary) : Prop where
  positive : 0 < binary.significand
  bounded : binary.significand < 2 ^ 53
  lowest : -1074 ≤ binary.exponent
  leading : -1074 < binary.exponent → 2 ^ 52 ≤ binary.significand
  narrow : -1074 < binary.exponent → binary.significand = 2 ^ 52 → binary.narrowBelow = true
  finite : binary.bits < infinityBits

section OfBits

variable {bits : Nat} (finite : bits < infinityBits)

include finite

/-- The parts of the bits of a finite double: a subnormal one has no leading digit. -/
theorem ofBits_cases :
    (bits < 2 ^ 52 ∧ ofBits bits = ⟨bits, -1074, false⟩) ∨
      ∃ fraction biased, fraction < 2 ^ 52 ∧ 0 < biased ∧ bits = biased * 2 ^ 52 + fraction ∧
        ofBits bits = ⟨2 ^ 52 + fraction, (biased : Int) - 1075, fraction == 0 && biased != 1⟩ := by
  rw [infinityBits, Nat.pow_eq] at finite
  have biased : bits / 2 ^ 52 % 2 ^ 11 = bits / 2 ^ 52 := by omega
  by_cases subnormal : bits / 2 ^ 52 = 0
  · have fraction : bits % 2 ^ 52 = bits := by omega
    refine .inl ⟨by omega, ?_⟩
    simp only [ofBits, Nat.pow_eq, subnormal, fraction, Nat.zero_mod, beq_self_eq_true, if_true]
  · refine .inr ⟨bits % 2 ^ 52, bits / 2 ^ 52, by omega, by omega, by omega, ?_⟩
    simp only [ofBits, Nat.pow_eq, biased, beq_iff_eq, subnormal, if_false, Int.ofNat_eq_natCast]

/-- The bits of a double are those that it is made of. -/
theorem bits_ofBits : (ofBits bits).bits = bits := by
  obtain ⟨_, made⟩ | ⟨fraction, biased, _, _, whole, made⟩ := ofBits_cases finite
  · simp only [made, Binary.bits, Nat.pow_eq]
    omega
  · simp only [made, Binary.bits, Nat.pow_eq]
    omega

/-- All bits between those of zero and of infinity make a positive double. -/
theorem isDouble_ofBits (positive : 0 < bits) : (ofBits bits).IsDouble := by
  have same := bits_ofBits finite
  obtain ⟨subnormal, made⟩ | ⟨fraction, biased, _, _, whole, made⟩ := ofBits_cases finite
  · rw [made] at same ⊢
    exact {
      positive := positive
      bounded := by dsimp only; omega
      lowest := Int.le_refl _
      leading := fun above => absurd above (Int.lt_irrefl _)
      narrow := fun above => absurd above (Int.lt_irrefl _)
      finite := same.trans_lt finite }
  · rw [made] at same ⊢
    exact {
      positive := by dsimp only; omega
      bounded := by dsimp only; omega
      lowest := by dsimp only; omega
      leading := fun _ => by dsimp only; omega
      narrow := fun above powerOfTwo => by
        dsimp only at above powerOfTwo
        have noFraction : fraction = 0 := by omega
        have notLeast : biased ≠ 1 := by omega
        simp [noFraction, notLeast]
      finite := same.trans_lt finite }

end OfBits

/-- No ratio may fall short of a value by more than half a unit. -/
theorem slack_le (binary : Binary) : binary.slack ≤ 1 / 2 := by
  rw [slack]
  split <;> norm_num

/-- A ratio may fall short of any value by a quarter of a unit. -/
theorem quarter_le_slack (binary : Binary) : 1 / 4 ≤ binary.slack := by
  rw [slack]
  split <;> norm_num

namespace RoundsTo

variable {ratio : ℚ} (rounds : binary.RoundsTo ratio)

include rounds

/-- A ratio that rounds to a positive double is positive. -/
theorem pos (isDouble : binary.IsDouble) : 0 < ratio := by
  have positive : (1 : ℚ) ≤ binary.significand := by exact_mod_cast isDouble.positive
  have slack := binary.slack_le
  have scaled : 0 < ratio / 2 ^ binary.exponent := by linarith [rounds.low]
  exact (div_pos_iff_of_pos_right (by positivity)).1 scaled

/-- At the scale of its double, a ratio rounds to the significand. -/
theorem roundsToNat : RoundsToNat (ratio / 2 ^ binary.exponent) binary.significand := by
  have slack := binary.slack_le
  obtain ⟨low, high, odd⟩ := rounds
  refine ⟨by linarith, high, fun isOdd => ?_⟩
  obtain ⟨above, below⟩ := odd isOdd
  exact ⟨by linarith, below⟩

/-- The exponent of a ratio is not above that of its double. -/
theorem exponent_le (isDouble : binary.IsDouble) {exponent : Int} (reached : 2 ^ exponent ≤ ratio) :
    exponent - 52 ≤ binary.exponent := by
  have bounded : (binary.significand : ℚ) + 1 / 2 < 2 ^ (53 : Int) := by
    have : (binary.significand : ℚ) + 1 ≤ 2 ^ 53 := by exact_mod_cast isDouble.bounded
    norm_num at this ⊢
    linarith
  have below : (2 : ℚ) ^ exponent < 2 ^ (53 + binary.exponent) := by
    rw [zpow_add₀ two_ne_zero, ← div_lt_iff₀ (by positivity)]
    calc (2 : ℚ) ^ exponent / 2 ^ binary.exponent ≤ ratio / 2 ^ binary.exponent :=
          div_le_div_of_nonneg_right reached (by positivity)
      _ ≤ binary.significand + 1 / 2 := rounds.high
      _ < 2 ^ (53 : Int) := bounded
  have := (zpow_lt_zpow_iff_right₀ one_lt_two).1 below
  omega

/-- A ratio whose exponent is below that of its double is less than a power of two by at most half a unit of
this smaller exponent, and the double is this power of two. -/
theorem of_exponent_lt (isDouble : binary.IsDouble) (above : -1074 < binary.exponent) {exponent : Int}
    (passed : ratio < 2 ^ (exponent + 1)) (lower : exponent - 52 < binary.exponent) :
    binary.significand = 2 ^ 52 ∧ exponent - 52 = binary.exponent - 1 ∧
      RoundsToNat (ratio / 2 ^ (exponent - 52)) (2 ^ 53) := by
  have slack := binary.slack_le
  have low := rounds.low
  have small : ratio / 2 ^ binary.exponent < 2 ^ (52 : Int) := by
    rw [div_lt_iff₀ (by positivity), ← zpow_add₀ two_ne_zero]
    exact passed.trans_le (zpow_le_zpow_right₀ one_le_two (by omega))
  have powerOfTwo : binary.significand = 2 ^ 52 := by
    have notAbove : (binary.significand : ℚ) < 2 ^ 52 + 1 := by
      norm_num at small
      linarith
    have atMost : binary.significand < 2 ^ 52 + 1 := by exact_mod_cast notAbove
    exact Nat.le_antisymm (Nat.lt_succ_iff.1 atMost) (isDouble.leading above)
  have quarter : binary.slack = 1 / 4 := by
    rw [Binary.slack, isDouble.narrow above powerOfTwo, if_pos rfl]
  rw [powerOfTwo, quarter] at low
  have large : (2 : ℚ) ^ (51 : Int) ≤ ratio / 2 ^ binary.exponent := by
    norm_num at low ⊢
    linarith
  have isBelow : exponent - 52 = binary.exponent - 1 := by
    rw [le_div_iff₀ (by positivity), ← zpow_add₀ two_ne_zero] at large
    have := (zpow_lt_zpow_iff_right₀ one_lt_two).1 (large.trans_lt passed)
    omega
  refine ⟨powerOfTwo, isBelow, ?_⟩
  have doubled : ratio / 2 ^ (exponent - 52) = 2 * (ratio / 2 ^ binary.exponent) := by
    rw [isBelow, zpow_sub₀ two_ne_zero]
    field_simp
  rw [doubled]
  norm_num at low small
  exact ⟨by norm_num; linarith, by norm_num; linarith, fun isOdd => by norm_num at isOdd⟩

end RoundsTo

/-- A ratio that rounds to a positive double has the bits of this double as its nearest ones. -/
theorem nearestBits_eq (isDouble : binary.IsDouble) {numerator denominator : Nat}
    (positive : 0 < denominator) (rounds : binary.RoundsTo (numerator / denominator)) :
    nearestBits numerator denominator = binary.bits := by
  have numeratorPositive : 0 < numerator := by
    have ratioPositive := rounds.pos isDouble
    rw [div_pos_iff_of_pos_right (by exact_mod_cast positive)] at ratioPositive
    exact_mod_cast ratioPositive
  obtain ⟨reached, passed⟩ := binaryExponent_spec numeratorPositive positive
  have notAbove := rounds.exponent_le isDouble reached
  have lowest := isDouble.lowest
  have finite := isDouble.finite
  by_cases sameScale : max (-1074) (binaryExponent numerator denominator - 52) = binary.exponent
  · rw [nearestBits_eq_min numeratorPositive positive sameScale rounds.roundsToNat]
    exact Nat.min_eq_right finite.le
  · -- The ratio has a smaller exponent than its double, which is a power of two.
    obtain ⟨powerOfTwo, isBelow, roundsUp⟩ :=
      rounds.of_exponent_lt isDouble (by omega) passed (by omega)
    have scale : max (-1074) (binaryExponent numerator denominator - 52) =
        binaryExponent numerator denominator - 52 := by omega
    have same : (binary.exponent - 1 + 1074).toNat * Nat.pow 2 52 + 2 ^ 53 = binary.bits := by
      rw [bits, powerOfTwo, Nat.pow_eq]
      omega
    rw [nearestBits_eq_min numeratorPositive positive scale roundsUp, isBelow, same]
    exact Nat.min_eq_right finite.le

end Binary

end ProseTree.Decimal
