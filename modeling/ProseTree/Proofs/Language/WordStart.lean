import ProseTree.Proofs.Arithmetic.PlainStart
import ProseTree.Proofs.Language.Spelling

/-!
# Words are no expressions

A plain expression starts with white space or with a digit of some script, a word in a built-in grammar
with a letter or an enclosure, and these are neither. So no text is both, decorated words included. Nor does a
letter stand anywhere else in a plain expression.
-/

namespace ProseTree.Language

/-- No word letter and no enclosure is a digit of any script. -/
def Grammar.SetsDigitsApart (grammar : Grammar) (wordLetters : CharClass) : Prop :=
  ∀ c, wordLetters.contains c = true ∨ grammar.isEnclosure c = true → Text.isDecimalDigit c = false

/-- What starts like a word is no plain expression. -/
theorem WordSpelling.isPlain_text {grammar : Grammar} {letters wordLetters : CharClass}
    (classes : grammar.alphabet = .classes letters wordLetters)
    (solid : grammar.SetsTokensApart wordLetters) (digits : grammar.SetsDigitsApart wordLetters)
    (spelling : WordSpelling grammar) : grammar.evaluator.isPlain spelling.text = false := by
  obtain ⟨c, rest, whole, first⟩ : ∃ c rest, spelling.text = c :: rest ∧
      (wordLetters.contains c = true ∨ grammar.isEnclosure c = true) := by
    obtain ⟨c, rest, starts, letter⟩ := Grammar.exists_letter_of_isWord classes spelling.isWord
    unfold text
    cases opening : spelling.opening with
    | none => exact ⟨c, rest ++ spelling.ending, by simp [starts], .inl letter⟩
    | some d => exact ⟨d, _, rfl, .inr (spelling.opens d opening)⟩
  rw [← Bool.not_eq_true]
  intro isPlain
  have noBlank := (isSolid_text classes solid spelling).noBlank c (by simp [whole])
  rw [whole] at isPlain
  obtain blank | digit := Arithmetic.Evaluator.blank_or_digit_of_isPlain isPlain
  · rw [noBlank] at blank
    cases blank
  · rw [digits c first] at digit
    cases digit

namespace CharClass

/-- A character of some ranges is not above the last characters of all of them. -/
theorem toNat_lt_of_contains {ranges : List CharRange} {bound : Nat}
    (below : ∀ range ∈ ranges, range.last.toNat < bound) {c : Char}
    (inside : (CharClass.mk false ranges).contains c = true) : c.toNat < bound := by
  simp only [contains, Bool.bne_false, List.any_eq_true, CharRange.contains, Bool.and_eq_true,
    decide_eq_true_eq] at inside
  obtain ⟨range, member, -, last⟩ := inside
  exact Nat.lt_of_le_of_lt last (below range member)

end CharClass

namespace BuiltIn

variable {language : BuiltIn} {grammar : Grammar}

/-- The word letters of a built-in definition lie below the digits of other scripts, and no ASCII digit
is among them. -/
theorem exists_ranges (language : BuiltIn) :
    ∃ letters ranges,
      Alphabet.ofConfiguration language.configuration = .ok (.classes letters ⟨false, ranges⟩) ∧
      (∀ range ∈ ranges, range.last.toNat < 0x660) ∧
      ∀ c ∈ "0123456789".toList, (CharClass.mk false ranges).contains c = false := by
  cases language <;> exact ⟨_, _, rfl, by decide, Text.forall_eq_false_of_any (by decide)⟩

/-- Words and enclosures hold no digits in a built-in grammar. -/
theorem setsDigitsApart (accepted : Grammar.ofConfiguration language.configuration = .ok grammar)
    {letters wordLetters : CharClass} (classes : grammar.alphabet = .classes letters wordLetters) :
    grammar.SetsDigitsApart wordLetters := by
  have follows := Grammar.follows_of_ofConfiguration accepted
  obtain ⟨_, ranges, alphabet, below, noDigit⟩ := language.exists_ranges
  cases classes.symm.trans (Grammar.alphabet_eq accepted alphabet)
  rintro c (letter | enclosure)
  · rw [← Bool.not_eq_true]
    intro decimal
    have digit := Text.isDigit_of_isDecimalDigit (CharClass.toNat_lt_of_contains below letter) decimal
    rw [noDigit c (Text.mem_of_isDigit digit)] at letter
    cases letter
  · have outside : ∀ c ∈ language.configuration.enclosures, Text.isDecimalDigit c = false := by
      apply Text.forall_eq_false_of_any
      cases language <;> decide
    rw [Grammar.isEnclosure, follows.enclosures] at enclosure
    exact outside c (List.contains_iff_mem.1 enclosure)

/-- No letter of a built-in grammar is a character of numbers, of operator runs or white space. -/
theorem not_isPlainChar_of_isLetter
    (accepted : Grammar.ofConfiguration language.configuration = .ok grammar) {c : Char}
    (letter : grammar.isLetter c = true) :
    ¬ Arithmetic.IsPlainChar grammar.evaluator.operators c := by
  obtain ⟨ranges, wordLetters, alphabet, below, outside⟩ : ∃ ranges wordLetters,
      Alphabet.ofConfiguration language.configuration = .ok (.classes ⟨false, ranges⟩ wordLetters) ∧
      (∀ range ∈ ranges, range.last.toNat < 0x660) ∧
      ∀ c ∈ "0123456789.".toList ++ language.configuration.expression.operators,
        (CharClass.mk false ranges).contains c = false := by
    cases language <;> exact ⟨_, _, rfl, by decide, Text.forall_eq_false_of_any (by decide)⟩
  have inRanges : (CharClass.mk false ranges).contains c = true := by
    rwa [Grammar.isLetter_eq accepted alphabet] at letter
  have notListed : c ∉ "0123456789.".toList ++ language.configuration.expression.operators := by
    intro listed
    rw [outside c listed] at inRanges
    cases inRanges
  rw [List.mem_append, not_or] at notListed
  rintro (digit | rfl | operator | blank)
  · have ascii := Text.isDigit_of_isDecimalDigit (CharClass.toNat_lt_of_contains below inRanges) digit
    exact notListed.1 (List.mem_append_left ['.'] (Text.mem_of_isDigit ascii))
  · exact notListed.1 (by decide)
  · rw [(Grammar.follows_of_ofConfiguration accepted).operators] at operator
    exact notListed.2 (List.contains_iff_mem.1 operator)
  · rw [(setsMarksApart accepted).letter c letter] at blank
    cases blank

/-- No text with a letter is a plain expression. -/
theorem isPlain_eq_false_of_isLetter
    (accepted : Grammar.ofConfiguration language.configuration = .ok grammar) {text : Text} {c : Char}
    (member : c ∈ text) (letter : grammar.isLetter c = true) : grammar.evaluator.isPlain text = false := by
  rw [← Bool.not_eq_true]
  intro isPlain
  exact not_isPlainChar_of_isLetter accepted letter (Arithmetic.isPlainChar_of_isPlain isPlain c member)

end BuiltIn

end ProseTree.Language
