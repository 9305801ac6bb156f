import Mathlib
import ProseTree.Proofs.Arithmetic.Scanning
import ProseTree.Proofs.Decimal.Shortest

/-!
# Doubles read back from their texts

The text of a finite double without a sign is a literal, and the double nearest to this literal is the one
that was written: its digits are those of a decimal number that rounds to the double, whatever the
magnitude. A sign is written as a minus sign in front of the literal.
-/

namespace ProseTree.Decimal

open Arithmetic (Literal)
open Float.Model (Format)
open Float.Model.UnpackedFloat

section Spelling

/-- The number that the digits of a literal spell is the one that they are the digits of. -/
theorem significand_eq (literal : Literal) :
    literal.significand = Nat.ofDigitChars 10 (literal.integral ++ literal.fraction) 0 := by
  simp only [Literal.significand, Nat.ofDigitChars, Nat.mul_comm]

/-- A natural number is written with digits. -/
theorem isDigit_of_mem_ofNat {number : Nat} {c : Char} (member : c ∈ Text.ofNat number) :
    c.isDigit = true :=
  Nat.isDigit_of_mem_toDigits (by decide) (by decide) member

/-- Zeros are digits. -/
theorem isDigit_of_mem_replicate {count : Nat} {c : Char} (member : c ∈ List.replicate count '0') :
    c.isDigit = true := by
  rw [List.eq_of_mem_replicate member]
  rfl

/-- The digits of a number spell it. -/
theorem ofDigitChars_ofNat (number : Nat) : Nat.ofDigitChars 10 (Text.ofNat number) 0 = number :=
  Nat.ofDigitChars_toDigits (by decide) (by decide)

/-- A number behind which zeros are put is written as a literal without a fraction. -/
theorem exists_literal_of_integral (number places : Nat) :
    ∃ literal : Literal, literal.text = Text.ofNat number ++ List.replicate places '0' ∧
      literal.value = nearestDouble false number places := by
  let literal : Literal := {
    integral := Text.ofNat number ++ List.replicate places '0'
    fraction := []
    integral_ne_nil := by simp [Text.ofNat, Nat.toDigits_ne_nil]
    integral_digits := fun c member =>
      (List.mem_append.1 member).elim isDigit_of_mem_ofNat isDigit_of_mem_replicate
    fraction_digits := by simp }
  have significand : literal.significand = number * 10 ^ places := by
    rw [significand_eq, List.append_nil, Nat.ofDigitChars_append, ofDigitChars_ofNat,
      Nat.ofDigitChars_replicate_zero, Nat.mul_comm]
  refine ⟨literal, ?_, ?_⟩
  · simp [Literal.text, literal]
  · simp [Literal.value, significand, nearestDouble, literal]

/-- Digits that spell a number are written as a literal with any fraction shorter than they are. -/
theorem exists_literal_of_fraction {digits : Text} (spelled : ∀ c ∈ digits, c.isDigit = true) {places : Nat}
    (positive : 0 < places) (long : places < digits.length) :
    ∃ literal : Literal,
      literal.text =
        digits.take (digits.length - places) ++ '.' :: digits.drop (digits.length - places) ∧
      literal.value = nearestDouble false (Nat.ofDigitChars 10 digits 0) (-places) := by
  let literal : Literal := {
    integral := digits.take (digits.length - places)
    fraction := digits.drop (digits.length - places)
    integral_ne_nil := by
      rw [← List.length_pos_iff, List.length_take]
      omega
    integral_digits := fun c member => spelled c (List.mem_of_mem_take member)
    fraction_digits := fun c member => spelled c (List.mem_of_mem_drop member) }
  have fraction : literal.fraction.length = places := by
    simp only [literal, List.length_drop]
    omega
  have someFraction : literal.fraction.isEmpty = false := by
    rw [List.isEmpty_eq_false_iff, ← List.length_pos_iff]
    omega
  refine ⟨literal, ?_, ?_⟩
  · rw [Literal.text, someFraction]
    rfl
  · rw [Literal.value, significand_eq, List.take_append_drop, fraction]

/-- The text of a positive decimal number is a literal, and it stands for the same double. -/
theorem Number.exists_literal {number : Number} (positive : 0 < number.digits) :
    ∃ literal : Literal, literal.text = number.positional ∧
      literal.value = nearestDouble false number.digits number.exponent := by
  obtain ⟨places, exponent⟩ | ⟨places, negative, exponent⟩ := exponent_cases number.exponent
  · obtain ⟨literal, text, value⟩ := exists_literal_of_integral number.digits places
    refine ⟨literal, ?_, by rw [value, exponent]⟩
    simp [text, positional, exponent, positive.ne']
  · -- Zeros are put in front of the digits where there are fewer of them than the fraction has.
    have padded : ∀ c ∈ List.replicate (places + 1 - (Text.ofNat number.digits).length) '0' ++
        Text.ofNat number.digits, c.isDigit = true := fun c member =>
      (List.mem_append.1 member).elim isDigit_of_mem_replicate isDigit_of_mem_ofNat
    have long : places < (List.replicate (places + 1 - (Text.ofNat number.digits).length) '0' ++
        Text.ofNat number.digits).length := by
      rw [List.length_append, List.length_replicate]
      omega
    obtain ⟨literal, text, value⟩ := exists_literal_of_fraction padded negative long
    rw [Nat.ofDigitChars_append, Nat.ofDigitChars_replicate_zero, Nat.mul_zero, ofDigitChars_ofNat] at value
    refine ⟨literal, ?_, by rw [value, exponent]⟩
    rw [text, positional, if_neg (by omega), exponent, neg_neg, Int.toNat_natCast]

end Spelling

/-- A number that rounds to a positive double has digits. -/
theorem digits_pos {binary : Binary} (isDouble : binary.IsDouble) {number : Number}
    (rounds : binary.RoundsTo number.value) : 0 < number.digits := by
  apply Nat.pos_of_ne_zero
  intro zero
  have positive := rounds.pos isDouble
  simp [Number.value, zero] at positive

/-- The double nearest to a decimal number is the one that the number rounds to. -/
theorem nearestDouble_eq {binary : Binary} (isDouble : binary.IsDouble) {number : Number}
    (rounds : binary.RoundsTo number.value) :
    nearestDouble false number.digits number.exponent = Float.ofBits (UInt64.ofNat binary.bits) := by
  rw [Number.value] at rounds
  obtain ⟨places, exponent⟩ | ⟨places, negative, exponent⟩ := exponent_cases number.exponent
  · have nearest : nearestBits (number.digits * 10 ^ places) 1 = binary.bits := by
      apply Binary.nearestBits_eq isDouble one_pos
      rw [exponent, zpow_natCast] at rounds
      push_cast
      rwa [div_one]
    simp [nearestDouble, exponent, nearest]
  · have nearest : nearestBits number.digits (10 ^ places) = binary.bits := by
      apply Binary.nearestBits_eq isDouble (Nat.pow_pos (by decide))
      rw [exponent, zpow_neg, zpow_natCast, ← div_eq_mul_inv] at rounds
      push_cast
      exact rounds
    simp [nearestDouble, exponent, nearest, negative.ne']

/-- A bit pattern with the largest exponent is unpacked to no finite double. -/
theorem isFinite_unpack {bits : BitVec Format.binary64.numBits}
    (allOnes : bits.toNat / 2 ^ 52 % 2 ^ 11 = 2047) :
    (unpack Format.binary64 bits).isFinite = false := by
  have exponent : unpackExponent bits = -1#11 := by
    apply BitVec.eq_of_toNat_eq
    simpa [unpackExponent, BitVec.extractLsb_toNat, Nat.shiftRight_eq_div_pow] using allOnes
  rw [unpack]
  dsimp only
  rw [if_pos exponent]
  split <;> rfl

/-- A finite double is neither infinite nor no number, and without its sign its bits are below those of
infinity. -/
theorem isFinite_cases {value : Float} (finite : value.isFinite = true) :
    value.isNaN = false ∧ value.isInf = false ∧ value.toBits.toNat % 2 ^ 63 < infinityBits := by
  obtain ⟨⟨bits, valid⟩⟩ := value
  simp only [Float.isFinite, Float.Model.isFinite, Float.isNaN, Float.Model.isNaN, Float.isInf,
    Float.Model.isInf, Float.toBits, Float.Model.unpack] at *
  refine ⟨?_, ?_, ?_⟩
  · cases unpacked : unpack Format.binary64 bits.toBitVec <;> rw [unpacked] at finite <;>
      first | rfl | cases finite
  · cases unpacked : unpack Format.binary64 bits.toBitVec <;> rw [unpacked] at finite <;>
      first | rfl | cases finite
  · have notOnes : bits.toNat / 2 ^ 52 % 2 ^ 11 ≠ 2047 := by
      intro allOnes
      rw [isFinite_unpack allOnes] at finite
      cases finite
    rw [infinityBits, Nat.pow_eq]
    omega

/-- The text of a finite double without a sign is a literal whose value is the double. -/
theorem exists_literal_ofDouble {value : Float} (finite : value.isFinite = true)
    (unsigned : value.toBits.toNat < 2 ^ 63) :
    ∃ literal : Literal, literal.text = ofDouble value ∧ literal.value = value := by
  obtain ⟨isNumber, bounded, below⟩ := isFinite_cases finite
  have magnitude := Nat.mod_eq_of_lt unsigned
  have signless : ¬ 2 ^ 63 ≤ value.toBits.toNat := Nat.not_le.2 unsigned
  have same : Float.ofBits (UInt64.ofNat value.toBits.toNat) = value := by
    rw [UInt64.ofNat_toNat, Float.ofBits_toBits]
  simp only [ofDouble, Nat.pow_eq, isNumber, bounded, Bool.false_eq_true, if_false, signless, magnitude]
  rw [magnitude] at below
  by_cases zero : value.toBits.toNat = 0
  · refine ⟨⟨['0'], [], by simp, by simp, by simp⟩, ?_, ?_⟩
    · simp [Literal.text, zero]
    · rw [zero] at same
      exact same
  · have isDouble := Binary.isDouble_ofBits below (Nat.pos_of_ne_zero zero)
    have rounds := Binary.roundsTo_shortest isDouble
    have nearest := nearestDouble_eq isDouble rounds
    rw [Binary.bits_ofBits below, same] at nearest
    obtain ⟨literal, text, isNearest⟩ := Number.exists_literal (digits_pos isDouble rounds)
    refine ⟨literal, ?_, isNearest.trans nearest⟩
    simp [text, zero]

/-- The text of a finite double with a sign starts with a minus sign. -/
theorem ofDouble_eq_cons {value : Float} (finite : value.isFinite = true)
    (signed : 2 ^ 63 ≤ value.toBits.toNat) : ∃ magnitude, ofDouble value = '-' :: magnitude := by
  obtain ⟨number, -, -⟩ := isFinite_cases finite
  simp only [ofDouble, number, Nat.pow_eq, signed, if_true, Bool.false_eq_true, if_false]
  exact ⟨_, rfl⟩

end ProseTree.Decimal
