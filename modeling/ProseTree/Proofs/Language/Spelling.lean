import ProseTree.Proofs.Language.BuiltIn
import ProseTree.Proofs.Language.Decoration
import ProseTree.Proofs.Language.Normalization

/-!
# Words in a sentence

Where the characters of decorated words are no white space, a decorated word is one token; where the
last of them is no terminator either, the sentence goes on behind it. A mark behind such words is split
off, whatever stands in front of it. The built-in grammars keep all their sets of characters apart in
this way.
-/

namespace ProseTree.Language

/-- The characters of decorated words are no white space, and only a punctuation character can end both a
decorated word and a sentence. -/
structure Grammar.SetsTokensApart (grammar : Grammar) (wordLetters : CharClass) : Prop extends
    grammar.SetsDecorationApart wordLetters where
  solid : ∀ c, wordLetters.contains c = true ∨ grammar.wordJoiners.contains c = true ∨
    grammar.isEnclosure c = true ∨ grammar.punctuation.contains c = true → Text.isBlank c = false
  goesOn : ∀ c, wordLetters.contains c = true ∨ grammar.isEnclosure c = true →
    grammar.isTerminator c = false

namespace WordSpelling

open Grammar

variable {grammar : Grammar} {letters wordLetters : CharClass}
  (classes : grammar.alphabet = .classes letters wordLetters)
  (apart : grammar.SetsTokensApart wordLetters)

include classes apart

/-- A word with the characters around it is one token. -/
theorem isSolid_text (spelling : WordSpelling grammar) : spelling.text.IsSolid := by
  constructor
  · obtain ⟨c, rest, starts, -⟩ := exists_letter_of_isWord classes spelling.isWord
    simp [text, starts]
  · intro c member
    simp only [text, ending, List.mem_append, Option.mem_toList] at member
    apply apart.solid
    obtain opening | inWord | closing | trailing := member
    · exact .inr (.inr (.inl (spelling.opens c opening)))
    · obtain letter | joiner := letter_or_joiner_of_isWord classes spelling.isWord c inWord
      · exact .inl letter
      · exact .inr (.inl joiner)
    · exact .inr (.inr (.inl (spelling.closes c closing)))
    · exact .inr (.inr (.inr (spelling.trails c trailing)))

/-- The sentence goes on behind a word that no terminator trails. -/
theorem not_endsInTerminator_text (spelling : WordSpelling grammar)
    (goesOn : ∀ c ∈ spelling.trailing, grammar.isTerminator c = false) :
    ¬ grammar.EndsInTerminator spelling.text := by
  rintro ⟨c, final, terminator⟩
  have noTerminator : grammar.isTerminator c = false := by
    unfold text ending at final
    cases trailing : spelling.trailing with
    | some d =>
      simp only [trailing, Option.toList_some, ← List.append_assoc, List.getLast?_concat,
        Option.mem_some_iff] at final
      exact final ▸ goesOn d trailing
    | none =>
      cases closing : spelling.closing with
      | some d =>
        simp only [trailing, closing, Option.toList_some, Option.toList_none, List.append_nil,
          ← List.append_assoc, List.getLast?_concat, Option.mem_some_iff] at final
        exact final ▸ apart.goesOn d (.inr (spelling.closes d closing))
      | none =>
        obtain ⟨d, rest, starts, -⟩ := exists_letter_of_isWord classes spelling.isWord
        have inWord : c ∈ spelling.word.getLast? := by
          simpa [trailing, closing, starts, List.getLast?_append] using final
        exact apart.goesOn c (.inl (letter_getLast?_of_isWord classes spelling.isWord c inWord))
  rw [noTerminator] at terminator
  cases terminator

end WordSpelling

namespace Grammar

variable {grammar : Grammar}

/-- A mark behind words in a sentence is split off. -/
theorem splitTerminator?_join (apart : grammar.SetsMarksApart)
    (long : ∀ c, grammar.ellipsis ≠ [c]) {tokens : List Text} (nonempty : tokens ≠ [])
    (each : ∀ token ∈ tokens, token.IsSolid ∧ ¬ grammar.EndsInTerminator token) {mark : Text}
    (isMark : grammar.IsMark mark) :
    grammar.splitTerminator? (Text.join " " tokens ++ mark) = some (Text.join " " tokens, mark) := by
  obtain ⟨solid, goesOn⟩ := each _ (List.getLast_mem nonempty)
  rw [← List.dropLast_concat_getLast nonempty]
  refine splitTerminator?_join_append apart solid isMark ?_ tokens.dropLast
  obtain rfl | ⟨c, rfl, -⟩ := isMark
  · exact .inl rfl
  · exact .inr (noEllipsis_append_singleton apart goesOn (long c))

end Grammar

namespace BuiltIn

variable {language : BuiltIn} {grammar : Grammar}

/-- No letter of words in a built-in alphabet is an enclosure, a punctuation character, a terminator or
white space. -/
theorem exists_wordLetters (language : BuiltIn) :
    ∃ letters wordLetters,
      Alphabet.ofConfiguration language.configuration = .ok (.classes letters wordLetters) ∧
      ∀ c, wordLetters.contains c = true →
        language.configuration.enclosures.contains c = false ∧
        language.configuration.lexicon.punctuation.contains c = false ∧
        language.configuration.sentence.terminators.contains c = false ∧ Text.isBlank c = false := by
  have outside : ∃ letters wordLetters,
      Alphabet.ofConfiguration language.configuration = .ok (.classes letters wordLetters) ∧
      ∀ c ∈ language.configuration.enclosures ++ language.configuration.lexicon.punctuation ++
        language.configuration.sentence.terminators ++ Text.blanks, wordLetters.contains c = false := by
    cases language <;>
    · refine ⟨_, _, rfl, Text.forall_eq_false_of_any ?_⟩
      decide
  obtain ⟨letters, wordLetters, alphabet, outside⟩ := outside
  refine ⟨letters, wordLetters, alphabet, fun c letter => ?_⟩
  have absent := mt (outside c) (by simp [letter])
  simp only [List.mem_append, not_or] at absent
  obtain ⟨⟨⟨enclosure, punctuation⟩, terminator⟩, blank⟩ := absent
  rw [← Text.isBlank_iff_mem_blanks] at blank
  simp [enclosure, punctuation, terminator, blank]

/-- The enclosures of a built-in definition are no punctuation characters, no terminators and no white
space, and neither joiners nor punctuation characters are white space. -/
theorem marks_apart (language : BuiltIn) :
    (∀ c ∈ language.configuration.enclosures,
        language.configuration.lexicon.punctuation.contains c = false ∧
        language.configuration.sentence.terminators.contains c = false ∧ Text.isBlank c = false) ∧
      (∀ c ∈ language.configuration.lexicon.wordJoiners, Text.isBlank c = false) ∧
      ∀ c ∈ language.configuration.lexicon.punctuation, Text.isBlank c = false := by
  have enclosures : ∀ c ∈ language.configuration.enclosures,
      (language.configuration.lexicon.punctuation.contains c ||
        (language.configuration.sentence.terminators.contains c || Text.isBlank c)) = false := by
    apply Text.forall_eq_false_of_any
    cases language <;> decide
  have others : ∀ c ∈ language.configuration.lexicon.wordJoiners ++
      language.configuration.lexicon.punctuation, Text.isBlank c = false := by
    apply Text.forall_eq_false_of_any
    cases language <;> decide
  simp only [Bool.or_eq_false_iff] at enclosures
  exact ⟨enclosures, fun c joiner => others c (List.mem_append_left _ joiner),
    fun c mark => others c (List.mem_append_right _ mark)⟩

/-- The characters of decorated words are set apart in every built-in grammar. -/
theorem setsTokensApart (accepted : Grammar.ofConfiguration language.configuration = .ok grammar) :
    ∃ letters wordLetters, grammar.alphabet = .classes letters wordLetters ∧
      grammar.SetsTokensApart wordLetters := by
  have follows := Grammar.follows_of_ofConfiguration accepted
  obtain ⟨letters, wordLetters, alphabet, outside⟩ := language.exists_wordLetters
  have isEnclosure : ∀ c, grammar.isEnclosure c = language.configuration.enclosures.contains c := by
    intro c
    rw [Grammar.isEnclosure, follows.enclosures]
  have isTerminator : ∀ c,
      grammar.isTerminator c = language.configuration.sentence.terminators.contains c := by
    intro c
    rw [Grammar.isTerminator, follows.terminators]
  obtain ⟨enclosures, joiners, punctuation⟩ := language.marks_apart
  refine ⟨letters, wordLetters, Grammar.alphabet_eq accepted alphabet, ?_⟩
  constructor
  · constructor
    · intro c letter
      rw [isEnclosure]
      exact (outside c letter).1
    · intro c letter
      rw [follows.punctuation]
      exact (outside c letter).2.1
    · intro c enclosure
      rw [isEnclosure] at enclosure
      rw [follows.punctuation]
      exact (enclosures c (List.contains_iff_mem.1 enclosure)).1
  · intro c inside
    rw [isEnclosure, follows.wordJoiners, follows.punctuation] at inside
    obtain letter | joiner | enclosure | isPunctuation := inside
    · exact (outside c letter).2.2.2
    · exact joiners c (List.contains_iff_mem.1 joiner)
    · exact (enclosures c (List.contains_iff_mem.1 enclosure)).2.2
    · exact punctuation c (List.contains_iff_mem.1 isPunctuation)
  · intro c inside
    rw [isEnclosure] at inside
    rw [isTerminator]
    obtain letter | enclosure := inside
    · exact (outside c letter).2.2.1
    · exact (enclosures c (List.contains_iff_mem.1 enclosure)).2.1

/-- The ellipsis of every built-in grammar has several characters. -/
theorem ellipsis_ne_singleton
    (accepted : Grammar.ofConfiguration language.configuration = .ok grammar) (c : Char) :
    grammar.ellipsis ≠ [c] := by
  rw [(Grammar.follows_of_ofConfiguration accepted).ellipsis]
  cases language <;> simp [configuration, Configuration.english, Configuration.russian,
    Configuration.european]

/-- Every built-in grammar has enclosures. -/
theorem enclosures_ne_nil (accepted : Grammar.ofConfiguration language.configuration = .ok grammar) :
    grammar.enclosures ≠ [] := by
  rw [(Grammar.follows_of_ofConfiguration accepted).enclosures]
  cases language <;> decide

end BuiltIn

end ProseTree.Language
