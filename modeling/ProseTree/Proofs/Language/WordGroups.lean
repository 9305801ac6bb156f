import ProseTree.Proofs.Language.Spelling

/-!
# Which texts are words, and which are decorated words

Words are the groups of word letters with single joiners between them, also where a character is both: a
joiner that is read as a letter leaves more ways to go on. Decorated words are the texts that can be
written as a word with optional marks around it, in whatever way these share characters with the word.
-/

namespace ProseTree.Language

/-- Groups of letters, none of them empty, with single joiners between them. -/
inductive IsGrouped (isLetter isJoiner : Char → Bool) : Text → Prop
  | last {group : Text} (nonempty : group ≠ []) (letters : ∀ c ∈ group, isLetter c = true) :
      IsGrouped isLetter isJoiner group
  | cons {group rest : Text} {joiner : Char} (nonempty : group ≠ [])
      (letters : ∀ c ∈ group, isLetter c = true) (joins : isJoiner joiner = true)
      (others : IsGrouped isLetter isJoiner rest) :
      IsGrouped isLetter isJoiner (group ++ joiner :: rest)

namespace IsGrouped

variable {isLetter isJoiner : Char → Bool} {c : Char} {text : Text}

/-- There is at least one letter. -/
theorem ne_nil (grouped : IsGrouped isLetter isJoiner text) : text ≠ [] := by
  cases grouped with
  | last nonempty _ => exact nonempty
  | cons => simp

/-- A letter alone is a group. -/
theorem singleton (letter : isLetter c = true) : IsGrouped isLetter isJoiner [c] :=
  .last (List.cons_ne_nil c []) (by simpa using letter)

/-- A letter in front of groups belongs to the first one. -/
theorem letter_cons (letter : isLetter c = true) (grouped : IsGrouped isLetter isJoiner text) :
    IsGrouped isLetter isJoiner (c :: text) := by
  cases grouped with
  | last _ letters => exact .last (List.cons_ne_nil c _) (List.forall_mem_cons.2 ⟨letter, letters⟩)
  | @cons group rest joiner _ letters joins others =>
    rw [← List.cons_append]
    exact .cons (List.cons_ne_nil c group) (List.forall_mem_cons.2 ⟨letter, letters⟩) joins others

/-- Groups start with a letter. Behind it nothing is left, or the first group goes on, or a joiner and
other groups follow. -/
theorem cons_iff : IsGrouped isLetter isJoiner (c :: text) ↔
    isLetter c = true ∧ (text = [] ∨ IsGrouped isLetter isJoiner text ∨
      ∃ joiner rest, text = joiner :: rest ∧ isJoiner joiner = true ∧
        IsGrouped isLetter isJoiner rest) := by
  constructor
  · intro grouped
    generalize whole : c :: text = source at grouped
    cases grouped with
    | last _ letters =>
      subst whole
      obtain ⟨letter, others⟩ := List.forall_mem_cons.1 letters
      refine ⟨letter, ?_⟩
      by_cases nothing : text = []
      · exact .inl nothing
      · exact .inr (.inl (.last nothing others))
    | @cons group rest joiner nonempty letters joins others =>
      obtain ⟨d, group, rfl⟩ := List.exists_cons_of_ne_nil nonempty
      obtain ⟨rfl, rfl⟩ := List.cons.inj whole
      obtain ⟨letter, groupLetters⟩ := List.forall_mem_cons.1 letters
      refine ⟨letter, .inr ?_⟩
      by_cases nothing : group = []
      · rw [nothing]
        exact .inr ⟨joiner, rest, rfl, joins, others⟩
      · exact .inl (.cons nothing groupLetters joins others)
  · rintro ⟨letter, rfl | grouped | ⟨joiner, rest, rfl, joins, others⟩⟩
    · exact singleton letter
    · exact grouped.letter_cons letter
    · exact .cons (List.cons_ne_nil c []) (by simpa using letter) joins others

end IsGrouped

/-- The classes of an alphabet are those that the definition's letters spell. -/
theorem Alphabet.wordLetters_of_ofConfiguration [ClassTables] {configuration : Configuration}
    {letters wordLetters : CharClass}
    (made : ofConfiguration configuration = .ok (.classes letters wordLetters)) :
    CharClass.ofBody? configuration.wordLetterBody = some wordLetters :=
  (ofConfiguration_eq_classes_iff.1 made).2

namespace Grammar

variable {grammar : Grammar} {letters wordLetters : CharClass}

/-- At its start a word is groups of letters, and behind a letter it goes on so that the letter belongs to
groups of letters. -/
theorem continuesWord_iff (text : Text) :
    (grammar.continuesWord wordLetters false text = true ↔
      IsGrouped wordLetters.contains grammar.wordJoiners.contains text) ∧
    ∀ c, wordLetters.contains c = true →
      (grammar.continuesWord wordLetters true text = true ↔
        IsGrouped wordLetters.contains grammar.wordJoiners.contains (c :: text)) := by
  induction text with
  | nil =>
    refine ⟨iff_of_false Bool.false_ne_true fun grouped => grouped.ne_nil rfl, fun c letter => ?_⟩
    exact iff_of_true rfl (.singleton letter)
  | cons d rest inductionHypothesis =>
    obtain ⟨afterJoiner, afterLetter⟩ := inductionHypothesis
    cases isLetter : wordLetters.contains d with
    | true =>
      have goesOn := afterLetter d isLetter
      constructor
      · simp only [continuesWord, isLetter, if_true]
        exact goesOn
      · intro c letter
        simp only [continuesWord, isLetter, if_true]
        rw [goesOn]
        constructor
        · exact fun grouped => grouped.letter_cons letter
        · intro grouped
          obtain ⟨-, nothing | others | ⟨joiner, behind, whole, -, others⟩⟩ :=
            IsGrouped.cons_iff.1 grouped
          · cases nothing
          · exact others
          · -- What is a joiner in these groups is a letter as well.
            obtain ⟨rfl, rfl⟩ := List.cons.inj whole
            exact others.letter_cons isLetter
    | false =>
      have noGroups : ¬ IsGrouped wordLetters.contains grammar.wordJoiners.contains (d :: rest) := by
        intro grouped
        rw [(IsGrouped.cons_iff.1 grouped).1] at isLetter
        cases isLetter
      constructor
      · simp [continuesWord, isLetter, noGroups]
      · intro c letter
        rw [continuesWord, isLetter, if_neg Bool.false_ne_true, Bool.true_and, Bool.and_eq_true,
          afterJoiner]
        constructor
        · rintro ⟨joins, others⟩
          exact IsGrouped.cons_iff.2 ⟨letter, .inr (.inr ⟨d, rest, rfl, joins, others⟩)⟩
        · intro grouped
          obtain ⟨-, nothing | others | ⟨joiner, behind, whole, joins, others⟩⟩ :=
            IsGrouped.cons_iff.1 grouped
          · cases nothing
          · exact absurd others noGroups
          · obtain ⟨rfl, rfl⟩ := List.cons.inj whole
            exact ⟨joins, others⟩

/-- By classes, words are groups of word letters with single joiners between them. -/
theorem isWord_iff (classes : grammar.alphabet = .classes letters wordLetters) {text : Text} :
    grammar.isWord text = true ↔
      IsGrouped wordLetters.contains grammar.wordJoiners.contains text := by
  rw [isWord, classes]
  exact (continuesWord_iff text).1

/-- By classes, the texts with a preferred reading are those that can be written as a decorated word. -/
theorem isSome_decoratedWord?_iff (classes : grammar.alphabet = .classes letters wordLetters)
    (enclosures : grammar.enclosures ≠ []) {text : Text} :
    (grammar.decoratedWord? text).isSome = true ↔
      ∃ spelling : WordSpelling grammar, spelling.text = text := by
  constructor
  · intro found
    obtain ⟨decorated, preferred⟩ := Option.isSome_iff_exists.1 found
    obtain ⟨spelling, whole, -⟩ :=
      WordSpelling.exists_of_readFrom (readFrom_decoratedWord? classes preferred)
    exact ⟨spelling, whole⟩
  · rintro ⟨spelling, rfl⟩
    rw [decoratedWord?_eq_enclosedWord? classes enclosures]
    exact Option.isSome_iff_ne_none.2 spelling.enclosedWord?_ne_none

/-- In a grammar with enclosures and plain letters, decorated words are recognized exactly: a reading is
found if and only if the text can be written as a word with optional marks, and it is a way to write it.
Words are groups of word letters with single joiners between them. Where letters and marks are apart, there
is one way only. -/
theorem decoratedWord?_exact [ClassTables] {configuration : Configuration}
    (accepted : ofConfiguration configuration = .ok grammar) (plain : configuration.HasPlainLetters)
    (enclosures : configuration.enclosures ≠ []) :
    ∃ wordLetters, CharClass.ofBody? configuration.wordLetterBody = some wordLetters ∧
      (∀ text, grammar.isWord text = true ↔
        IsGrouped wordLetters.contains grammar.wordJoiners.contains text) ∧
      (∀ text, (grammar.decoratedWord? text).isSome = true ↔
        ∃ spelling : WordSpelling grammar, spelling.text = text) ∧
      (∀ text decorated, grammar.decoratedWord? text = some decorated →
        decorated.ReadFrom grammar text) ∧
      (grammar.SetsDecorationApart wordLetters →
        ∀ left right : WordSpelling grammar, left.text = right.text → left = right) := by
  have follows := follows_of_ofConfiguration accepted
  obtain ⟨letters, wordLetters, classes⟩ := exists_classes accepted plain
  have alphabet := follows.alphabet
  rw [classes] at alphabet
  rw [← follows.enclosures] at enclosures
  refine ⟨wordLetters, Alphabet.wordLetters_of_ofConfiguration alphabet, ?words, ?found, ?parts, ?unique⟩
  case words => exact fun text => isWord_iff classes
  case found => exact fun text => isSome_decoratedWord?_iff classes enclosures
  case parts => exact fun text decorated preferred => readFrom_decoratedWord? classes preferred
  case unique => exact fun apart left right same => WordSpelling.text_inj classes apart same

/-- An English word in quotes, with the same character as a joiner inside, is written in one way. -/
theorem decoratedWord?_exact_english :
    ∃ grammar, ofConfiguration .english = .ok grammar ∧ Configuration.english.HasPlainLetters ∧
      Configuration.english.enclosures ≠ [] ∧
      (∃ decorated, grammar.decoratedWord? "'it's-here'." = some decorated ∧
        decorated = ⟨some "'", "it's-here", some "'", some "."⟩ ∧
        decorated.ReadFrom grammar "'it's-here'.") ∧
      ∀ left right : WordSpelling grammar, left.text = "'it's-here'.".toList →
        right.text = "'it's-here'.".toList → left = right := by
  obtain ⟨grammar, accepted⟩ := BuiltIn.english.exists_ofConfiguration
  have plain := BuiltIn.english.hasPlainLetters
  have enclosures : Configuration.english.enclosures ≠ [] := by decide
  obtain ⟨wordLetters, spelled, -, -, parts, unique⟩ := decoratedWord?_exact accepted plain enclosures
  have apart : grammar.SetsDecorationApart wordLetters := by
    obtain ⟨letters, others, classes, apart⟩ := BuiltIn.setsTokensApart accepted
    have alphabet := (follows_of_ofConfiguration accepted).alphabet
    rw [classes] at alphabet
    have same := Alphabet.wordLetters_of_ofConfiguration alphabet
    rw [← Option.some.inj (same.symm.trans spelled)]
    exact apart.toSetsDecorationApart
  have preferred : grammar.decoratedWord? "'it's-here'." =
      some ⟨some "'", "it's-here", some "'", some "."⟩ :=
    eq_of_computed accepted (fun grammar => grammar.decoratedWord? "'it's-here'.") (by decide +kernel)
  exact ⟨grammar, accepted, plain, enclosures, ⟨_, preferred, rfl, parts _ _ preferred⟩,
    fun left right first second => unique apart left right (first.trans second.symm)⟩

end Grammar

end ProseTree.Language
