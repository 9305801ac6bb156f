import ProseTree.Text.Basic
import ProseTree.Text.DecimalDigit

/-!
# White space and digits, character by character

White space is a finite set, so that a decidable property of all white space is checked on a list.
No white space is a digit, and the ASCII digits are the first of the decimal digits.
-/

namespace ProseTree.Text

/-- A class in which no character of a text is has none of its characters. -/
theorem forall_eq_false_of_any {inClass : Char → Bool} {text : Text}
    (outside : text.any inClass = false) : ∀ c ∈ text, inClass c = false := by
  intro c member
  exact Bool.eq_false_iff.2 (List.any_eq_false.1 outside c member)

/-- All characters that are white space. -/
def blanks : List Char :=
  ['\t', '\n', '\x0b', '\x0c', '\r', ' ', '\u0085', '\u00a0', '\u1680', '\u2000', '\u2001', '\u2002',
    '\u2003', '\u2004', '\u2005', '\u2006', '\u2007', '\u2008', '\u2009', '\u200a', '\u2028',
    '\u2029', '\u202f', '\u205f', '\u3000']

/-- White space is exactly what the list of white space holds. -/
theorem isBlank_iff_mem_blanks {c : Char} : isBlank c = true ↔ c ∈ blanks := by
  constructor
  · intro blank
    have listed : c.toNat ∈ blanks.map Char.toNat := by
      simp only [isBlank, Bool.or_eq_true, Bool.and_eq_true, decide_eq_true_eq, beq_iff_eq,
        UInt32.le_iff_toNat_le, ← UInt32.toNat_inj, UInt32.reduceToNat, Char.toNat_val] at blank
      simp only [blanks, List.map_cons, List.map_nil, List.mem_cons, Char.reduceToNat]
      omega
    obtain ⟨d, member, same⟩ := List.mem_map.1 listed
    exact Char.toNat_inj.1 same ▸ member
  · exact List.all_eq_true.1 (rfl : blanks.all isBlank = true) c

/-- White space is no digit of any script. -/
theorem isDecimalDigit_eq_false_of_isBlank {c : Char} (blank : isBlank c = true) :
    isDecimalDigit c = false :=
  have outside : blanks.any isDecimalDigit = false := by decide
  forall_eq_false_of_any outside c (isBlank_iff_mem_blanks.1 blank)

/-- ASCII digits are decimal digits. -/
theorem isDecimalDigit_of_isDigit {c : Char} (digit : c.isDigit = true) :
    isDecimalDigit c = true := by
  have bounds : 48 ≤ c.toNat ∧ c.toNat ≤ 57 := by
    simpa [Char.isDigit, UInt32.le_iff_toNat_le] using digit
  have above : ¬ c.toNat < 0x30 := by omega
  have below : c.toNat < 0x3A := by omega
  simp [isDecimalDigit, decimalDigits, CodePointSet.contains, CodePointSet.holds, above, below]

/-- Below the digits of other scripts, decimal digits are ASCII digits. -/
theorem isDigit_of_isDecimalDigit {c : Char} (below : c.toNat < 0x660)
    (decimal : isDecimalDigit c = true) : c.isDigit = true := by
  by_cases early : c.toNat < 0x30
  · rw [isDecimalDigit, decimalDigits, CodePointSet.contains_eq_false_of_lt early] at decimal
    cases decimal
  · by_cases late : c.toNat < 0x3A
    · have bounds : 48 ≤ c.toNat ∧ c.toNat ≤ 57 := by omega
      simpa [Char.isDigit, UInt32.le_iff_toNat_le] using bounds
    · simp [isDecimalDigit, decimalDigits, CodePointSet.contains, CodePointSet.holds, early, late,
        below] at decimal

/-- The ASCII digits, one by one. -/
theorem mem_of_isDigit {c : Char} (digit : c.isDigit = true) : c ∈ "0123456789".toList := by
  have bounds : 48 ≤ c.toNat ∧ c.toNat ≤ 57 := by
    simpa [Char.isDigit, UInt32.le_iff_toNat_le] using digit
  have listed : c.toNat ∈ "0123456789".toList.map Char.toNat := by
    simp only [String.reduceToList, List.map_cons, List.map_nil, List.mem_cons, Char.reduceToNat]
    omega
  obtain ⟨d, member, same⟩ := List.mem_map.1 listed
  exact Char.toNat_inj.1 same ▸ member

end ProseTree.Text
