import ProseTree.Proofs.Decimal.Nearest

/-!
# The shortest digits round to their double

A grid point is chosen only if it rounds to the value, and there is one on every grid whose step is less
than the ratios that round to the value are apart. The grids that are searched become that fine: the first
one has at most two digits before its step, and twenty digits are more than a double has.
-/

namespace ProseTree.Decimal

/-- The exact value of a decimal number. -/
def Number.value (number : Number) : ℚ :=
  number.digits * 10 ^ number.exponent

namespace Grid

variable {grid : Grid}

/-- A point within the interval of a grid, in units of the grid. -/
structure Holds (grid : Grid) (point : Nat) : Prop where
  low : grid.value ≤ point + grid.below
  high : point ≤ grid.value + grid.above
  opened : grid.closed = false → grid.value < point + grid.below ∧ point < grid.value + grid.above

/-- What is within a limit is not beyond it, and not at it where the ends are left out. -/
theorem within_eq_true_iff {distance limit : Nat} :
    grid.within distance limit = true ↔
      distance ≤ limit ∧ (grid.closed = false → distance < limit) := by
  unfold within
  cases grid.closed with
  | true => simp
  | false => simpa using Nat.le_of_lt

/-- What is not within a limit is not below it. -/
theorem le_of_within_eq_false {distance limit : Nat} (outside : ¬ grid.within distance limit = true) :
    limit ≤ distance := by
  rw [within_eq_true_iff] at outside
  by_contra below
  exact outside ⟨by omega, by omega⟩

variable (positive : 0 < grid.step)

include positive

/-- A point is chosen only if it is within the interval. -/
theorem holds_of_choose? (below : 0 < grid.below) (above : 0 < grid.above) {digits : Nat}
    (chosen : grid.choose? = some digits) : grid.Holds (digits * grid.step) := by
  have split := Nat.div_add_mod' grid.value grid.step
  have rest := Nat.mod_lt grid.value positive
  simp only [choose?] at chosen
  generalize grid.value % grid.step = down at *
  split at chosen
  · rename_i lowerFits
    cases chosen
    obtain ⟨within, opened⟩ := within_eq_true_iff.1 (Bool.and_eq_true_iff.1 lowerFits).1
    exact ⟨by omega, by omega, fun isOpen => by have := opened isOpen; omega⟩
  · split at chosen
    · rename_i upperFits
      cases chosen
      obtain ⟨within, opened⟩ := within_eq_true_iff.1 upperFits
      rw [Nat.add_mul, Nat.one_mul]
      exact ⟨by omega, by omega, fun isOpen => by have := opened isOpen; omega⟩
    · cases chosen

/-- On a grid that is finer than the interval a point is chosen. -/
theorem choose?_ne_none (fine : grid.step < grid.below + grid.above) : grid.choose? ≠ none := by
  have rest := Nat.mod_lt grid.value positive
  intro missing
  simp only [choose?] at missing
  generalize grid.value % grid.step = down at *
  split at missing
  · cases missing
  · rename_i noLower
    split at missing
    · cases missing
    · rename_i upperMisses
      have lowerMisses : ¬ grid.within down grid.below = true := by
        intro lowerFits
        exact noLower (by simp [lowerFits, upperMisses])
      have := le_of_within_eq_false lowerMisses
      have := le_of_within_eq_false upperMisses
      omega

end Grid

/-- A power with any exponent is a ratio of natural numbers. -/
theorem exists_power {base : Nat} (positive : 0 < base) (exponent : Int) :
    ∃ numerator denominator : Nat,
      (if 0 ≤ exponent then (Nat.pow base exponent.toNat, 1) else (1, Nat.pow base (-exponent).toNat)) =
        (numerator, denominator) ∧
      0 < numerator ∧ 0 < denominator ∧ (numerator : ℚ) / denominator = base ^ exponent := by
  obtain ⟨places, rfl⟩ | ⟨places, negative, rfl⟩ := exponent_cases exponent
  · rw [if_pos (Int.natCast_nonneg places), Int.toNat_natCast]
    exact ⟨_, _, rfl, Nat.pow_pos positive, one_pos, by simp⟩
  · rw [if_neg (by omega), neg_neg, Int.toNat_natCast]
    exact ⟨_, _, rfl, one_pos, Nat.pow_pos positive, by simp⟩

namespace Binary

variable {binary : Binary} {gridExponent : Int}

/-- The numbers of a grid are multiples of a quarter of a unit in the last place, and one step is the grid's
power of ten in the same measure. -/
theorem exists_grid (binary : Binary) (gridExponent : Int) :
    ∃ quarter : Nat, 0 < quarter ∧ 0 < (binary.grid gridExponent).step ∧
      (binary.grid gridExponent).value = 4 * binary.significand * quarter ∧
      ((binary.grid gridExponent).below : ℚ) = 4 * quarter * binary.slack ∧
      (binary.grid gridExponent).above = 2 * quarter ∧
      (binary.grid gridExponent).closed = (binary.significand % 2 == 0) ∧
      ((binary.grid gridExponent).step : ℚ) / (4 * quarter) = 10 ^ gridExponent / 2 ^ binary.exponent := by
  obtain ⟨twoNumerator, twoDenominator, two, twoPositive, _, twoPower⟩ :=
    exists_power two_pos (binary.exponent - 2)
  obtain ⟨tenNumerator, tenDenominator, ten, tenPositive, _, tenPower⟩ :=
    exists_power (by decide : 0 < 10) gridExponent
  have isTwo : powerOfTwo (binary.exponent - 2) = (twoNumerator, twoDenominator) := two
  have isTen : powerOfTen gridExponent = (tenNumerator, tenDenominator) := ten
  simp only [grid, isTwo, isTen]
  refine ⟨twoNumerator * tenDenominator, by positivity, by positivity, rfl, ?_, rfl, trivial, ?_⟩
  · rw [slack]
    split
    · push_cast
      ring
    · push_cast
      ring
  · have scale : (2 : ℚ) ^ binary.exponent = 4 * (twoNumerator / twoDenominator) := by
      rw [twoPower, Nat.cast_ofNat, zpow_sub₀ two_ne_zero]
      norm_num
      ring
    rw [scale, show (10 : ℚ) ^ gridExponent = tenNumerator / tenDenominator from tenPower.symm]
    push_cast
    field_simp

/-- The point that is chosen on a grid rounds to the value. -/
theorem roundsTo_of_choose? {digits : Nat} (chosen : (binary.grid gridExponent).choose? = some digits) :
    binary.RoundsTo (digits * 10 ^ gridExponent) := by
  obtain ⟨quarter, quarterPositive, step, value, below, above, closed, ratio⟩ :=
    binary.exists_grid gridExponent
  generalize binary.grid gridExponent = grid at *
  have positive : (0 : ℚ) < 4 * quarter := by exact_mod_cast Nat.mul_pos (by decide) quarterPositive
  have slack := binary.quarter_le_slack
  have belowPositive : 0 < grid.below := by
    have : (0 : ℚ) < grid.below := by
      rw [below]
      positivity
    exact_mod_cast this
  obtain ⟨low, high, opened⟩ := Grid.holds_of_choose? step belowPositive (by omega) chosen
  have measured : (digits : ℚ) * 10 ^ gridExponent / 2 ^ binary.exponent =
      digits * grid.step / (4 * quarter) := by
    rw [mul_div_assoc, ← ratio, mul_div_assoc]
  have value' : (grid.value : ℚ) = 4 * binary.significand * quarter := by exact_mod_cast value
  have above' : (grid.above : ℚ) = 2 * quarter := by exact_mod_cast above
  refine ⟨?low, ?high, fun isOdd => ?odd⟩
  case low =>
    have : (grid.value : ℚ) ≤ digits * grid.step + grid.below := by exact_mod_cast low
    rw [measured, le_div_iff₀ positive]
    linarith
  case high =>
    have : (digits * grid.step : ℚ) ≤ grid.value + grid.above := by exact_mod_cast high
    rw [measured, div_le_iff₀ positive]
    linarith
  case odd =>
    obtain ⟨aboveLow, belowHigh⟩ := opened (by simp [closed, isOdd])
    have first : (grid.value : ℚ) < digits * grid.step + grid.below := by exact_mod_cast aboveLow
    have second : (digits * grid.step : ℚ) < grid.value + grid.above := by exact_mod_cast belowHigh
    rw [measured, lt_div_iff₀ positive, div_lt_iff₀ positive]
    exact ⟨by linarith, by linarith⟩

/-- On a grid whose step is below three quarters of a unit in the last place a point is chosen. -/
theorem choose?_ne_none (fine : (10 : ℚ) ^ gridExponent < 3 / 4 * 2 ^ binary.exponent) :
    (binary.grid gridExponent).choose? ≠ none := by
  obtain ⟨quarter, quarterPositive, step, _, below, above, _, ratio⟩ := binary.exists_grid gridExponent
  apply Grid.choose?_ne_none step
  have positive : (0 : ℚ) < 4 * quarter := by exact_mod_cast Nat.mul_pos (by decide) quarterPositive
  have narrow : ((binary.grid gridExponent).step : ℚ) < 3 / 4 * (4 * quarter) := by
    rw [← div_lt_iff₀ positive, ratio, div_lt_iff₀ (by positivity)]
    exact fine
  have slack := binary.quarter_le_slack
  have wide : (3 / 4 * (4 * quarter) : ℚ) ≤
      (binary.grid gridExponent).below + (binary.grid gridExponent).above := by
    rw [below, above]
    push_cast
    nlinarith
  exact_mod_cast narrow.trans_le wide

/-- If there is a point on one of the grids that are searched, then the number that is found rounds to the
value. -/
theorem roundsTo_search {grids : Nat} {gridExponent : Int}
    (found : ∃ passed < grids, (binary.grid (gridExponent - passed)).choose? ≠ none) :
    binary.RoundsTo (binary.search grids gridExponent).value := by
  induction grids generalizing gridExponent with
  | zero =>
    obtain ⟨passed, inside, -⟩ := found
    cases inside
  | succ grids inductionHypothesis =>
    rw [search]
    split
    · rename_i digits chosen
      exact roundsTo_of_choose? chosen
    · rename_i missing
      apply inductionHypothesis
      obtain ⟨passed, inside, isPoint⟩ := found
      cases passed with
      | zero => exact absurd missing (by simpa using isPoint)
      | succ passed =>
        refine ⟨passed, by omega, ?_⟩
        rwa [show gridExponent - 1 - (passed : Int) = gridExponent - (passed + 1 : Nat) by omega]

end Binary

/-- A power of ten is at most a power of two by its digits, with room for the error that its measure adds up
over the exponents of doubles. -/
theorem ten_zpow_le {digits places : Int} (lowest : -1074 ≤ places) (highest : places ≤ 1024)
    (atMost : 100000 * digits ≤ 30103 * places) : (10 : ℚ) ^ digits ≤ 2 ^ (places + 4) := by
  obtain ⟨count, rfl⟩ | ⟨count, negative, rfl⟩ := exponent_cases digits
  · -- Three digits take at most ten binary ones.
    obtain ⟨room, total⟩ : ∃ room : Nat, places + 4 = room := ⟨(places + 4).toNat, by omega⟩
    rw [total, zpow_natCast, zpow_natCast]
    have cubed : ((10 : ℚ) ^ count) ^ 3 ≤ (2 ^ room) ^ 3 := by
      calc ((10 : ℚ) ^ count) ^ 3 = (10 ^ 3) ^ count := by rw [← pow_mul, ← pow_mul, mul_comm]
        _ ≤ (2 ^ 10) ^ count := pow_le_pow_left₀ (by norm_num) (by norm_num) count
        _ = 2 ^ (10 * count) := by rw [← pow_mul]
        _ ≤ 2 ^ (room * 3) := pow_le_pow_right₀ one_le_two (by omega)
        _ = (2 ^ room) ^ 3 := by rw [← pow_mul]
    exact le_of_pow_le_pow_left₀ (by decide) (by positivity) cubed
  · -- Twenty-eight digits take at least ninety-three binary ones.
    obtain ⟨room, total⟩ | ⟨room, below, total⟩ := exponent_cases (places + 4)
    · rw [total, zpow_neg, zpow_natCast, zpow_natCast]
      calc ((10 : ℚ) ^ count)⁻¹ ≤ 1 := inv_le_one_of_one_le₀ (one_le_pow₀ (by norm_num))
        _ ≤ 2 ^ room := one_le_pow₀ one_le_two
    · rw [total, zpow_neg, zpow_neg, zpow_natCast, zpow_natCast]
      apply inv_anti₀ (by positivity)
      have raised : ((2 : ℚ) ^ room) ^ 28 ≤ (10 ^ count) ^ 28 := by
        calc ((2 : ℚ) ^ room) ^ 28 = 2 ^ (room * 28) := by rw [← pow_mul]
          _ ≤ 2 ^ (93 * count) := pow_le_pow_right₀ one_le_two (by omega)
          _ = (2 ^ 93) ^ count := by rw [← pow_mul]
          _ ≤ (10 ^ 28) ^ count := pow_le_pow_left₀ (by norm_num) (by norm_num) count
          _ = (10 ^ count) ^ 28 := by rw [← pow_mul, ← pow_mul, mul_comm]
      exact le_of_pow_le_pow_left₀ (by decide) (by positivity) raised

namespace Binary

variable {binary : Binary} (isDouble : binary.IsDouble)

include isDouble

/-- The exponent of a finite double is not above that of the largest one. -/
theorem IsDouble.highest : binary.exponent ≤ 971 := by
  have finite := isDouble.finite
  have leading := isDouble.leading
  rw [bits, infinityBits, Nat.pow_eq] at finite
  omega

/-- The last of the searched grids is finer than the ratios that round to a double are apart. -/
theorem ten_zpow_lt : (10 : ℚ) ^ (binary.topExponent - 19) < 3 / 4 * 2 ^ binary.exponent := by
  have highest := isDouble.highest
  have lowest := isDouble.lowest
  have log : Nat.log2 binary.significand ≤ 52 :=
    Nat.lt_succ_iff.1 ((Nat.log2_lt isDouble.positive.ne').2 isDouble.bounded)
  rw [topExponent, Int.fdiv_eq_ediv_of_nonneg _ (by decide)]
  generalize places : (Nat.log2 binary.significand : Int) + binary.exponent + 1 = size
  have digits : (10 : ℚ) ^ (size * 30103 / 100000) ≤ 2 ^ (size + 4) :=
    ten_zpow_le (by omega) (by omega) (by omega)
  have binaryDigits : (2 : ℚ) ^ (size + 4) ≤ 2 ^ (57 + binary.exponent) :=
    zpow_le_zpow_right₀ one_le_two (by omega)
  calc (10 : ℚ) ^ (size * 30103 / 100000 + 1 - 19)
      = 10 ^ (size * 30103 / 100000) * 10 ^ (-18 : Int) := by
        rw [← zpow_add₀ (by norm_num)]
        congr 1
        omega
    _ ≤ 2 ^ (57 + binary.exponent) * 10 ^ (-18 : Int) :=
        mul_le_mul_of_nonneg_right (digits.trans binaryDigits) (by positivity)
    _ = 2 ^ 57 / 10 ^ 18 * 2 ^ binary.exponent := by
        rw [zpow_add₀ two_ne_zero]
        norm_num
        ring
    _ < 3 / 4 * 2 ^ binary.exponent := mul_lt_mul_of_pos_right (by norm_num) (by positivity)

/-- The shortest number of a double rounds to it. -/
theorem roundsTo_shortest : binary.RoundsTo binary.shortest.value := by
  apply roundsTo_search
  refine ⟨19, by decide, choose?_ne_none ?_⟩
  exact_mod_cast ten_zpow_lt isDouble

end Binary

end ProseTree.Decimal
