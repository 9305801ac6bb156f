import ProseTree.Language.Embedded
import ProseTree.Proofs.Language.Accepted
import ProseTree.Proofs.Language.Division
import ProseTree.Proofs.Text.Blank

/-!
# Built-in grammars

What the built-in definitions have in common beyond being accepted: letters, white space and the
characters that end a sentence are apart from each other, and an ellipsis is made of characters that
could end a sentence themselves.
-/

namespace ProseTree.Language

namespace BuiltIn

variable (language : BuiltIn)

/-- The letters of every built-in definition are plain. -/
theorem hasPlainLetters : language.configuration.HasPlainLetters := by
  refine .inl ?_
  cases language <;> decide

/-- Every built-in definition is accepted. -/
theorem exists_ofConfiguration :
    ∃ grammar, Grammar.ofConfiguration language.configuration = .ok grammar := by
  cases language <;> exact ⟨_, rfl⟩

/-- No built-in definition names a class of the tables, so it has the same grammar under all of them. -/
theorem ofConfiguration_eq_without_tables [ClassTables] :
    Grammar.ofConfiguration language.configuration =
      @Grammar.ofConfiguration .none language.configuration := by
  obtain ⟨letters, wordLetters, spelled, wordsSpelled⟩ : ∃ letters wordLetters,
      CharClass.ofBody? language.configuration.letterBody = some letters ∧
        CharClass.ofBody? language.configuration.wordLetterBody = some wordLetters := by
    cases language <;> exact ⟨_, _, rfl, rfl⟩
  have made : ∀ tables : ClassTables, Alphabet.ofConfiguration language.configuration =
      .ok (.classes letters wordLetters) :=
    fun tables => Alphabet.ofConfiguration_eq_classes_iff.2 ⟨spelled, wordsSpelled⟩
  exact Grammar.ofConfigurationWith_congr ((made _).trans (made _).symm)

/-- Indents are made of white space. -/
theorem isBlank_of_mem_indentMarkers :
    ∀ marker ∈ language.configuration.paragraph.indentMarkers,
      ∀ c ∈ marker, Text.isBlank c = true := by
  have allBlank : language.configuration.paragraph.indentMarkers.all (·.all Text.isBlank) = true := by
    cases language <;> rfl
  intro marker member
  exact List.all_eq_true.1 (List.all_eq_true.1 allBlank marker member)

/-- No built-in alphabet has a terminator or white space among its letters. -/
theorem exists_letters :
    ∃ letters wordLetters,
      Alphabet.ofConfiguration language.configuration = .ok (.classes letters wordLetters) ∧
      (∀ c ∈ language.configuration.sentence.terminators, letters.contains c = false) ∧
      ∀ c ∈ Text.blanks, letters.contains c = false := by
  cases language <;>
  · refine ⟨_, _, rfl, Text.forall_eq_false_of_any ?_, Text.forall_eq_false_of_any ?_⟩ <;> decide

variable {language} {grammar : Grammar}

/-- The marks of every built-in grammar are set apart. -/
theorem setsMarksApart (accepted : Grammar.ofConfiguration language.configuration = .ok grammar) :
    grammar.SetsMarksApart := by
  have follows := Grammar.follows_of_ofConfiguration accepted
  have terminator : ∀ c, grammar.isTerminator c = true →
      c ∈ language.configuration.sentence.terminators := by
    intro c isTerminator
    rw [Grammar.isTerminator, follows.terminators] at isTerminator
    exact List.contains_iff_mem.1 isTerminator
  obtain ⟨letters, wordLetters, alphabet, noTerminator, noBlank⟩ := language.exists_letters
  have isLetter : ∀ c, grammar.isLetter c = letters.contains c := Grammar.isLetter_eq accepted alphabet
  constructor
  · intro c letter
    rw [isLetter] at letter
    apply Bool.eq_false_iff.2
    intro blank
    rw [noBlank c (Text.isBlank_iff_mem_blanks.1 blank)] at letter
    cases letter
  · intro c isTerminator
    have solid : ∀ c ∈ language.configuration.sentence.terminators, Text.isBlank c = false := by
      apply Text.forall_eq_false_of_any
      cases language <;> decide
    exact solid c (terminator c isTerminator)
  · intro c isTerminator
    rw [isLetter]
    exact noTerminator c (terminator c isTerminator)
  · intro c member
    have inside : ∀ c ∈ language.configuration.sentence.ellipsis,
        language.configuration.sentence.terminators.contains c = true := by
      apply List.all_eq_true.1
      cases language <;> decide
    rw [Grammar.isTerminator, follows.terminators]
    rw [follows.ellipsis] at member
    exact inside c member

/-- No built-in grammar has white space among its operators. -/
theorem operators_separate (accepted : Grammar.ofConfiguration language.configuration = .ok grammar) :
    ∀ c, Text.isBlank c = true → grammar.evaluator.operators.contains c = false := by
  rw [(Grammar.follows_of_ofConfiguration accepted).operators]
  have outside : ∀ c ∈ Text.blanks,
      language.configuration.expression.operators.contains c = false := by
    apply Text.forall_eq_false_of_any
    cases language <;> decide
  exact fun c blank => outside c (Text.isBlank_iff_mem_blanks.1 blank)

/-- No built-in grammar has white space among its vowels. -/
theorem isVowel_eq_false_of_isBlank
    (accepted : Grammar.ofConfiguration language.configuration = .ok grammar) :
    ∀ c, Text.isBlank c = true → grammar.isVowel c = false := by
  unfold Grammar.isVowel
  rw [(Grammar.follows_of_ofConfiguration accepted).vowels]
  have outside : ∀ c ∈ Text.blanks, language.configuration.vowels.contains c = false := by
    apply Text.forall_eq_false_of_any
    cases language <;> decide
  exact fun c blank => outside c (Text.isBlank_iff_mem_blanks.1 blank)

/-- Every vowel of a built-in grammar is one of its letters. -/
theorem isLetter_of_isVowel
    (accepted : Grammar.ofConfiguration language.configuration = .ok grammar) {c : Char}
    (vowel : grammar.isVowel c = true) : grammar.isLetter c = true := by
  obtain ⟨letters, wordLetters, alphabet, inside⟩ : ∃ letters wordLetters,
      Alphabet.ofConfiguration language.configuration = .ok (.classes letters wordLetters) ∧
      ∀ c ∈ language.configuration.vowels, letters.contains c = true := by
    cases language <;>
    · refine ⟨_, _, rfl, List.all_eq_true.1 ?_⟩
      decide
  rw [Grammar.isVowel, (Grammar.follows_of_ofConfiguration accepted).vowels] at vowel
  rw [Grammar.isLetter_eq accepted alphabet]
  exact inside c (List.contains_iff_mem.1 vowel)

/-- The indents of every built-in grammar are a tab and four spaces. -/
theorem indentMarkers_eq (accepted : Grammar.ofConfiguration language.configuration = .ok grammar) :
    grammar.indentMarkers = ["\t".toList, "    ".toList] := by
  rw [(Grammar.follows_of_ofConfiguration accepted).indentMarkers]
  cases language <;> rfl

/-- What follows an indent is the body of a paragraph. -/
theorem unindented?_marker_append
    (accepted : Grammar.ofConfiguration language.configuration = .ok grammar) {marker : Text}
    (isMarker : marker ∈ grammar.indentMarkers) (body : Text) :
    grammar.unindented? (marker ++ body) = some (Text.trim body) := by
  rw [indentMarkers_eq accepted] at isMarker
  rw [Grammar.unindented?, indentMarkers_eq accepted]
  simp only [List.mem_cons, List.not_mem_nil, or_false] at isMarker
  obtain rfl | rfl := isMarker <;> rfl

/-- What follows four spaces is the body of a paragraph. -/
theorem unindented?_append (accepted : Grammar.ofConfiguration language.configuration = .ok grammar)
    (body : Text) : grammar.unindented? ("    " ++ body) = some (Text.trim body) :=
  unindented?_marker_append accepted (by simp [indentMarkers_eq accepted]) body

end BuiltIn

end ProseTree.Language
