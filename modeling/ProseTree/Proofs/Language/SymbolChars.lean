import ProseTree.Proofs.Language.BuiltIn
import ProseTree.Proofs.Language.Decoration

/-!
# Words and the ellipsis in symbols

A word that is left to the symbol stage loses nothing when all of its characters can be symbols. In a
built-in grammar this is so: words are made of letters and of joiners that are punctuation or quotes, and
the ellipsis is made of terminators.
-/

namespace ProseTree.Language

namespace Grammar

variable {grammar : Grammar}

/-- Words and the ellipsis are made of characters that can be symbols. -/
structure SpellsInSymbols (grammar : Grammar) : Prop where
  word : ∀ {text : Text}, grammar.isWord text = true → ∀ c ∈ text, grammar.isSymbolChar c = true
  ellipsis : ∀ c ∈ grammar.ellipsis, grammar.isSymbolChar c = true

section Classes

variable {c : Char}

theorem isSymbolChar_of_isLetter (letter : grammar.isLetter c = true) :
    grammar.isSymbolChar c = true := by
  simp [isSymbolChar, letter]

theorem isSymbolChar_of_isDigit (digit : c.isDigit = true) : grammar.isSymbolChar c = true := by
  simp [isSymbolChar, digit]

theorem isSymbolChar_of_isTerminator (terminator : grammar.isTerminator c = true) :
    grammar.isSymbolChar c = true := by
  simp [isSymbolChar, isPunctuation, terminator]

theorem isSymbolChar_of_punctuation (listed : grammar.punctuation.contains c = true) :
    grammar.isSymbolChar c = true := by
  simp only [isSymbolChar, isPunctuation, listed, Bool.true_or, Bool.or_true]

theorem isSymbolChar_of_isEnclosure (enclosure : grammar.isEnclosure c = true) :
    grammar.isSymbolChar c = true := by
  simp [isSymbolChar, enclosure]

end Classes

end Grammar

namespace BuiltIn

variable {language : BuiltIn} {grammar : Grammar}

/-- The words of a built-in definition are written in its letters. -/
theorem exists_classes_eq (language : BuiltIn) :
    ∃ letters, Alphabet.ofConfiguration language.configuration = .ok (.classes letters letters) := by
  cases language <;> exact ⟨_, rfl⟩

/-- The joiners of a built-in definition are punctuation or enclosures. -/
theorem joiner_cases (language : BuiltIn) :
    ∀ c ∈ language.configuration.lexicon.wordJoiners,
      (language.configuration.lexicon.punctuation.contains c ||
        language.configuration.enclosures.contains c) = true := by
  apply List.all_eq_true.1
  cases language <;> decide

/-- Words and the ellipsis of a built-in grammar are made of characters that can be symbols. -/
theorem spellsInSymbols (accepted : Grammar.ofConfiguration language.configuration = .ok grammar) :
    grammar.SpellsInSymbols := by
  have follows := Grammar.follows_of_ofConfiguration accepted
  constructor
  · intro text isWord c member
    obtain ⟨letters, alphabet⟩ := language.exists_classes_eq
    have classes := Grammar.alphabet_eq accepted alphabet
    obtain letter | joiner := Grammar.letter_or_joiner_of_isWord classes isWord c member
    · exact Grammar.isSymbolChar_of_isLetter ((Grammar.isLetter_eq accepted alphabet c).trans letter)
    · rw [follows.wordJoiners, List.contains_iff_mem] at joiner
      obtain punctuation | enclosure := Bool.or_eq_true_iff.1 (language.joiner_cases c joiner)
      · exact Grammar.isSymbolChar_of_punctuation (follows.punctuation ▸ punctuation)
      · apply Grammar.isSymbolChar_of_isEnclosure
        rw [Grammar.isEnclosure, follows.enclosures]
        exact enclosure
  · intro c member
    exact Grammar.isSymbolChar_of_isTerminator ((setsMarksApart accepted).ellipsis c member)

end BuiltIn

end ProseTree.Language
