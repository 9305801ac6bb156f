import ProseTree.Proofs.Language.Scripts

/-!
# Words with digits

A definition may let digits and underscores into words. They are set behind the letters as text, so
where more can be listed behind these, every word stays a word, and the digits and the underscore are
word letters like the letters themselves.
-/

namespace ProseTree.Language

/-- The definition with digits and underscores in its words. -/
def Configuration.withDigits (configuration : Configuration) : Configuration :=
  { configuration with lexicon := { configuration.lexicon with wordAllowsDigits := true } }

/-- More letters and more joiners leave the groups there are. -/
theorem IsGrouped.mono {isLetter isJoiner alsoLetter alsoJoiner : Char → Bool} {text : Text}
    (letters : ∀ c, isLetter c = true → alsoLetter c = true)
    (joiners : ∀ c, isJoiner c = true → alsoJoiner c = true)
    (grouped : IsGrouped isLetter isJoiner text) : IsGrouped alsoLetter alsoJoiner text := by
  induction grouped with
  | last nonempty inside => exact .last nonempty fun c member => letters c (inside c member)
  | cons nonempty inside joins _ inductionHypothesis =>
    exact .cons nonempty (fun c member => letters c (inside c member)) (joiners _ joins)
      inductionHypothesis

namespace CharSet

/-- The digits and the underscore that words may hold besides letters. -/
def wordDigits : List CharSet :=
  [ranges [⟨'0', '9'⟩], single '_']

/-- What stands behind the letters lists these. -/
theorem isListOf_wordDigits [ClassTables] : IsListOf "0-9_".toList wordDigits := by
  refine ⟨by decide, (bodyLists_iff (by decide) (by decide)).2 ?_⟩
  exact .item rfl rfl (.item rfl rfl (.nil [']']))

/-- They are the digits and the underscore. -/
theorem any_contains_wordDigits (c : Char) :
    wordDigits.any (·.contains c) = (c.isDigit || c == '_') := by
  rw [Bool.eq_iff_iff]
  simp only [wordDigits, List.any_cons, List.any_nil, Bool.or_false, Bool.or_eq_true,
    contains_single_iff, beq_iff_eq]
  simp only [contains, List.any_cons, List.any_nil, Bool.or_false]
  exact Iff.rfl

end CharSet

/-- Behind letters that more can be listed behind, the digits are listed too. -/
theorem Configuration.ListsLetters.withDigits [ClassTables] {configuration : Configuration} {letters : List CharSet}
    {levels : Nat} (extensible : CharSet.Extensible configuration.letterBody letters)
    (shallow : (CharSet.ofList letters).depth false ≤ levels) :
    configuration.withDigits.ListsLetters (levels + 1) letters (letters ++ CharSet.wordDigits) where
  letters := ⟨extensible.isListOf, Nat.le_succ_of_le shallow⟩
  wordLetters := by
    have goesOn : CharSet.GoesOnInto configuration.letterBody "0-9_".toList := by
      refine .of_noMark ?_
      rintro first ⟨⟩
      decide
    have noBracket : "0-9_".toList.head? ≠ some ']' := by decide
    refine ⟨extensible.isListOf_append goesOn noBracket CharSet.isListOf_wordDigits, ?_⟩
    refine CharSet.depth_ofList_le ?_
    rw [List.forall_mem_append]
    refine ⟨fun set member => Nat.le_trans (CharSet.depth_le_ofList member) shallow, ?_⟩
    simp [CharSet.wordDigits, CharSet.single, CharSet.depth]

namespace Grammar

variable {configuration : Configuration} {strict : Grammar} {letters : List CharSet}

/-- Letting digits into words only adds words: where more can be listed behind the letters of an accepted
definition, the definition with digits in its words is accepted too and has the same letters. All words are
words with it, and so are all groups of letters, digits and underscores with single joiners between them. -/
theorem isWord_withDigits [ClassTables] (accepted : ofConfiguration configuration = .ok strict)
    (forbidden : configuration.lexicon.wordAllowsDigits = false)
    (extensible : CharSet.Extensible configuration.letterBody letters)
    (shallow : (CharSet.ofList letters).depth false ≤ listLevels - 1) :
    ∃ loose, ofConfiguration configuration.withDigits = .ok loose ∧
      (∀ c, loose.isLetter c = strict.isLetter c) ∧
      (∀ text, strict.isWord text = true → loose.isWord text = true) ∧
      ∀ text, loose.isWord text = true ↔
        IsGrouped (fun c => strict.isLetter c || c.isDigit || c == '_') strict.wordJoiners.contains
          text := by
  have strictLists : configuration.ListsLetters listLevels letters letters :=
    .of_letters ⟨extensible.isListOf, Nat.le_trans shallow (Nat.sub_le _ 1)⟩ forbidden
  have looseLists := Configuration.ListsLetters.withDigits extensible shallow
  obtain ⟨loose, made⟩ : ∃ loose, ofConfiguration configuration.withDigits = .ok loose := by
    obtain ⟨valid, operators⟩ := (exists_ofConfiguration_iff_of_lists strictLists).1 ⟨strict, accepted⟩
    exact (exists_ofConfiguration_iff_of_lists looseLists).2 ⟨valid, operators⟩
  have isLetter := isLetter_eq_contains_ofList accepted strictLists
  have isWordLetter : ∀ c, (CharSet.ofList (letters ++ CharSet.wordDigits)).contains c =
      (strict.isLetter c || c.isDigit || c == '_') := by
    intro c
    rw [isLetter, CharSet.contains_ofList, List.any_append, CharSet.any_contains_wordDigits,
      ← CharSet.contains_ofList, Bool.or_assoc]
  have looseWord : ∀ text, loose.isWord text = true ↔
      IsGrouped (fun c => strict.isLetter c || c.isDigit || c == '_') strict.wordJoiners.contains
        text := by
    intro text
    rw [isWord_iff_of_lists made looseLists, funext isWordLetter,
      (follows_of_ofConfiguration made).wordJoiners, (follows_of_ofConfiguration accepted).wordJoiners]
    rfl
  refine ⟨loose, made, ?letters, ?words, looseWord⟩
  case letters => exact fun c => (isLetter_eq_contains_ofList made looseLists c).trans (isLetter c).symm
  case words =>
    intro text word
    rw [isWord_iff_of_lists accepted strictLists] at word
    refine (looseWord text).2 (word.mono ?_ fun c joins => joins)
    intro c letter
    simp [isLetter, letter]

/-- English with digits in its words has all English words, and others. -/
theorem isWord_withDigits_english :
    ∃ strict loose letters, ofConfiguration .english = .ok strict ∧
      Configuration.english.lexicon.wordAllowsDigits = false ∧
      CharSet.Extensible Configuration.english.letterBody letters ∧
      (CharSet.ofList letters).depth false ≤ listLevels - 1 ∧
      ofConfiguration Configuration.english.withDigits = .ok loose ∧
      (∀ text, strict.isWord text = true → loose.isWord text = true) ∧
      strict.isWord "chapter-3" = false ∧ loose.isWord "chapter-3" = true := by
  obtain ⟨strict, accepted⟩ := BuiltIn.english.exists_ofConfiguration
  obtain ⟨loose, made, -, words, -⟩ := isWord_withDigits accepted rfl extensible_latin (by decide)
  have noWord : strict.isWord "chapter-3" = false :=
    eq_of_computed accepted (·.isWord "chapter-3") (by decide +kernel)
  have word : loose.isWord "chapter-3" = true :=
    eq_of_computed made (·.isWord "chapter-3") (by decide +kernel)
  exact ⟨strict, loose, _, accepted, rfl, extensible_latin, by decide, made, words, noWord, word⟩

end Grammar

/-- English with all characters but the space as letters. -/
def Configuration.allButSpace : Configuration :=
  { Configuration.english with scripts := [{ name := "first", letters := "^ " }] }

namespace Grammar

/-- Behind a circumflex the digits are taken away from the word letters: where all characters but the space
are letters, a digit is a word, but no word any more when words may hold digits. -/
theorem isWord_lost_withDigits :
    ∃ strict loose, ofConfiguration .allButSpace = .ok strict ∧
      Configuration.allButSpace.lexicon.wordAllowsDigits = false ∧
      Configuration.allButSpace.HasPlainLetters ∧
      ofConfiguration Configuration.allButSpace.withDigits = .ok loose ∧
      strict.isWord "5" = true ∧ loose.isWord "5" = false :=
  ⟨_, _, rfl, rfl, by decide, rfl, by decide +kernel, by decide +kernel⟩

end Grammar

end ProseTree.Language
