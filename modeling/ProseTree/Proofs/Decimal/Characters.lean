import ProseTree.Proofs.Decimal.RoundTrip

/-!
# The characters of a double's text

The text of a finite double is made of digits, a point and a minus sign. Any other double is written as a
word, and so with letters. No text of a double has white space in it.
-/

namespace ProseTree.Decimal

open Float.Model (Format)
open Float.Model.UnpackedFloat

/-- The characters that finite doubles are written with. -/
def numberChars : List Char :=
  "0123456789.-".toList

/-- Digits are among them. -/
theorem mem_numberChars_of_isDigit {c : Char} (digit : c.isDigit = true) : c ∈ numberChars :=
  List.mem_append_left ".-".toList (Text.mem_of_isDigit digit)

/-- A positional number has digits and a point. -/
theorem mem_numberChars_of_mem_positional {number : Number} {c : Char} (member : c ∈ number.positional) :
    c ∈ numberChars := by
  have padded : c ∈ List.replicate ((-number.exponent).toNat + 1 - (Text.ofNat number.digits).length) '0' ++
      Text.ofNat number.digits → c ∈ numberChars := fun inside =>
    mem_numberChars_of_isDigit
      ((List.mem_append.1 inside).elim isDigit_of_mem_replicate isDigit_of_mem_ofNat)
  unfold Number.positional at member
  dsimp only at member
  split at member
  · split at member
    · rw [List.mem_singleton.1 member]
      decide
    · exact mem_numberChars_of_isDigit
        ((List.mem_append.1 member).elim isDigit_of_mem_ofNat isDigit_of_mem_replicate)
  · obtain before | member := List.mem_append.1 member
    · exact padded (List.mem_of_mem_take before)
    · obtain rfl | behind := List.mem_cons.1 member
      · decide
      · exact padded (List.mem_of_mem_drop behind)

/-- A finite double is written with digits, a point and a minus sign. -/
theorem mem_numberChars_of_mem_ofDouble {value : Float} (finite : value.isFinite = true) {c : Char}
    (member : c ∈ ofDouble value) : c ∈ numberChars := by
  obtain ⟨isNumber, bounded, -⟩ := isFinite_cases finite
  have magnitude : ∀ c ∈ (if value.toBits.toNat % Nat.pow 2 63 == 0 then ['0']
      else (Binary.ofBits value.toBits.toNat).shortest.positional : Text), c ∈ numberChars := by
    intro c inside
    split at inside
    · rw [List.mem_singleton.1 inside]
      decide
    · exact mem_numberChars_of_mem_positional inside
  simp only [ofDouble, isNumber, bounded, Bool.false_eq_true, if_false] at member
  split at member
  · obtain rfl | member := List.mem_cons.1 member
    · decide
    · exact magnitude c member
  · exact magnitude c member

/-- A double that is not finite is infinite or no number. -/
theorem isNaN_or_isInf {value : Float} (notFinite : value.isFinite = false) :
    value.isNaN = true ∨ value.isInf = true := by
  obtain ⟨⟨bits, valid⟩⟩ := value
  simp only [Float.isFinite, Float.Model.isFinite, Float.isNaN, Float.Model.isNaN, Float.isInf,
    Float.Model.isInf, Float.Model.unpack] at *
  cases unpacked : unpack Format.binary64 bits.toBitVec with
  | _ => rw [unpacked] at notFinite; first | exact .inl rfl | exact .inr rfl | cases notFinite

/-- No double is written with white space. -/
theorem noBlank_ofDouble (value : Float) : ∀ c ∈ ofDouble value, Text.isBlank c = false := by
  cases finite : value.isFinite with
  | true =>
    have noBlank : ∀ c ∈ numberChars, Text.isBlank c = false := Text.forall_eq_false_of_any (by decide)
    exact fun c member => noBlank c (mem_numberChars_of_mem_ofDouble finite member)
  | false =>
    cases isNumber : value.isNaN with
    | true =>
      simp only [ofDouble, isNumber, if_true]
      exact Text.forall_eq_false_of_any (by decide)
    | false =>
      have infinite := (isNaN_or_isInf finite).resolve_left (Bool.eq_false_iff.1 isNumber)
      simp only [ofDouble, isNumber, infinite, Bool.false_eq_true, if_false, if_true]
      split <;> exact Text.forall_eq_false_of_any (by decide)

/-- A double that is not finite is written with a letter n. -/
theorem exists_letter_of_not_isFinite {value : Float} (notFinite : value.isFinite = false) :
    ∃ c ∈ ofDouble value, c = 'n' ∨ c = 'N' := by
  cases isNumber : value.isNaN with
  | true =>
    refine ⟨'N', ?_, .inr rfl⟩
    simp only [ofDouble, isNumber, if_true]
    decide
  | false =>
    have infinite := (isNaN_or_isInf notFinite).resolve_left (Bool.eq_false_iff.1 isNumber)
    refine ⟨'n', ?_, .inl rfl⟩
    simp only [ofDouble, isNumber, infinite, Bool.false_eq_true, if_false, if_true]
    split <;> decide

end ProseTree.Decimal
