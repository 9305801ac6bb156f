import ProseTree.Proofs.Language.Accepted
import ProseTree.Proofs.Language.ShapeReading

/-!
# Definitions with listed letters

Letters are listed where their body in brackets is a union of sets: of characters, ranges, escapes, named
classes and further sets in brackets. Such a definition is accepted as soon as its settings are valid,
unless its sets are nested too deep for a shape. Whether it gets an alphabet of classes or one of shapes,
its letters are those that one of the sets contains, and its words are the groups of its word letters.
-/

namespace ProseTree.Language

open CharSet

variable {tables : ClassTables}

/-- The letters and the word letters of a definition are lists in brackets. -/
structure Configuration.ListsLetters [ClassTables] (configuration : Configuration) (levels : Nat)
    (letters wordLetters : List CharSet) : Prop where
  letters : ListsUpTo levels configuration.letterBody letters
  wordLetters : ListsUpTo levels configuration.wordLetterBody wordLetters

/-- More levels are left to the lists than they need. -/
theorem Configuration.ListsLetters.mono {configuration : Configuration} {few levels : Nat}
    {letters wordLetters : List CharSet} (lists : configuration.ListsLetters few letters wordLetters)
    (fewer : few ≤ levels) : configuration.ListsLetters levels letters wordLetters :=
  ⟨lists.letters.mono fewer, lists.wordLetters.mono fewer⟩

/-- Without digits in words the word letters are the letters. -/
theorem Configuration.ListsLetters.of_letters {configuration : Configuration} {levels : Nat}
    {letters : List CharSet} (lists : ListsUpTo levels configuration.letterBody letters)
    (forbidden : configuration.lexicon.wordAllowsDigits = false) :
    configuration.ListsLetters levels letters letters := by
  refine ⟨lists, ?_⟩
  simpa [wordLetterBody, forbidden] using lists

/-- The levels that are left to a list by the shapes that it is set into. -/
def listLevels : Nat :=
  Shape.depthLimit - 8

/-- A list is read up to the bracket behind it. -/
theorem WordShapes.spells_of_isListOf {body : Text} {sets : List CharSet} (isList : IsListOf body sets) :
    Spells body (bracketed (ofList sets)) :=
  isList.read?_eq

variable {configuration : Configuration} {letters wordLetters : List CharSet}

/-- The shapes of a definition with listed letters. -/
def Configuration.listShapes (configuration : Configuration) (letters wordLetters : List CharSet) :
    WordShapes where
  letter := WordShapes.letterShape (bracketed (ofList letters))
  word := WordShapes.wordShape (bracketed (ofList wordLetters)) configuration.lexicon.wordJoiners
  punctuated := WordShapes.punctuatedShape (bracketed (ofList wordLetters))
    configuration.lexicon.wordJoiners configuration.lexicon.punctuation
  enclosed :=
    if configuration.enclosures.isEmpty then none
    else some (WordShapes.enclosedShape (bracketed (ofList wordLetters))
      configuration.lexicon.wordJoiners configuration.enclosures configuration.lexicon.punctuation)

/-- Listed letters spell all shapes. -/
theorem WordShapes.ofConfiguration_eq (lists : configuration.ListsLetters listLevels letters wordLetters)
    (punctuation : configuration.lexicon.punctuation ≠ []) :
    ofConfiguration configuration = .ok (configuration.listShapes letters wordLetters) := by
  have letterSpells := spells_of_isListOf lists.letters.toIsListOf
  have wordSpells := spells_of_isListOf lists.wordLetters.toIsListOf
  have letterShallow : (bracketed (ofList letters)).depth false + 1 ≤ Shape.depthLimit := by
    have levels := lists.letters.shallow
    simp only [listLevels, Shape.depthLimit, depth] at levels ⊢
    omega
  have wordShallow : max ((bracketed (ofList wordLetters)).depth false) 2 + 7 ≤ Shape.depthLimit := by
    have levels := lists.wordLetters.shallow
    simp only [listLevels, Shape.depthLimit, depth] at levels ⊢
    omega
  have letter := shape_letterText letterSpells letterShallow
  have word := shape_wordText wordSpells wordShallow
  have punctuated := shape_punctuatedText wordSpells punctuation wordShallow
  unfold ofConfiguration Configuration.listShapes
  split
  · rw [letter, word, punctuated]
    rfl
  · rename_i enclosures
    have enclosed := shape_enclosedText wordSpells (by simpa using enclosures) punctuation wordShallow
    rw [letter, word, punctuated, enclosed]
    rfl

namespace WordShapes

open Shape

/-- One character has the shape of a letter when it is one of the set. -/
theorem occursIn_letterShape (letters : CharSet) (c : Char) :
    (letterShape letters).occursIn [c] = letters.contains c := by
  have parts : Takes (ofSequence [oneOf letters]).run (oneCharacter letters) := takes_oneOf letters
  rw [Bool.eq_iff_iff]
  refine (occursIn_iff parts [c]).trans ⟨?_, fun letter => ⟨c, letter, rfl⟩⟩
  rintro ⟨d, letter, same⟩
  rwa [(List.cons.inj same).1]

/-- The parts of the shape of a word take the groups of word letters with joiners between them. -/
theorem takes_groupParts (wordLetters : CharSet) (joiners : List Char) :
    Takes (ofSequence (groupParts wordLetters joiners)).run
      {text | IsGrouped wordLetters.contains joiners.contains text} := by
  cases joiners with
  | nil =>
    have same : groupTexts wordLetters =
        {text | IsGrouped wordLetters.contains ([] : List Char).contains text} := by
      ext text
      constructor
      · exact fun ⟨nonempty, inside⟩ => .last nonempty inside
      · intro grouped
        cases grouped with
        | last nonempty inside => exact ⟨nonempty, inside⟩
        | cons _ _ joins _ => cases joins
    exact same ▸ takes_letterGroup wordLetters
  | cons joiner others =>
    have same : groupTexts wordLetters *
        KStar.kstar (oneCharacter (ofChars (joiner :: others)) * groupTexts wordLetters) =
          {text | IsGrouped wordLetters.contains (joiner :: others).contains text} := by
      ext text
      rw [mem_mul_kstar_iff, funext (contains_ofChars (joiner :: others))]
      exact Iff.rfl
    exact same ▸ takes_ofSequence_pair (takes_letterGroup wordLetters)
      (takes_joinedGroups wordLetters (ofChars (joiner :: others)))

/-- The texts with the shape of a word are groups of word letters with single joiners between them. -/
theorem occursIn_wordShape (wordLetters : CharSet) (joiners : List Char) (text : Text) :
    (wordShape wordLetters joiners).occursIn text = true ↔
      IsGrouped wordLetters.contains joiners.contains text :=
  occursIn_iff (takes_groupParts wordLetters joiners) text

end WordShapes

/-- Listed letters make an alphabet of classes where they are plain, and one of shapes otherwise. -/
theorem Alphabet.ofConfiguration_cases
    (lists : configuration.ListsLetters listLevels letters wordLetters)
    (punctuation : configuration.lexicon.punctuation ≠ []) :
    (∃ letterClass wordClass, ofConfiguration configuration = .ok (.classes letterClass wordClass)) ∨
      ofConfiguration configuration = .ok (.shapes (configuration.listShapes letters wordLetters)) := by
  unfold ofConfiguration
  split
  · exact .inl ⟨_, _, rfl⟩
  · rw [WordShapes.ofConfiguration_eq lists punctuation]
    exact .inr rfl

namespace Grammar

variable {grammar : Grammar}

/-- A definition is accepted when its settings are valid and there are an alphabet and an operator. -/
theorem exists_ofConfiguration_iff :
    (∃ grammar, ofConfiguration configuration = .ok grammar) ↔
      invalidSetting? configuration = none ∧
        (∃ alphabet, Alphabet.ofConfiguration configuration = .ok alphabet) ∧
        configuration.expression.operators ≠ [] :=
  exists_ofConfigurationWith_iff

/-- A definition without invalid settings has punctuation characters. -/
theorem punctuation_ne_nil_of_valid (valid : invalidSetting? configuration = none) :
    configuration.lexicon.punctuation ≠ [] := by
  intro missing
  simp only [invalidSetting?, missing, List.isEmpty_nil, if_true] at valid
  repeat' split at valid <;> try contradiction

/-- With listed letters, a definition is accepted when its settings are valid and there is an operator. -/
theorem exists_ofConfiguration_iff_of_lists
    (lists : configuration.ListsLetters listLevels letters wordLetters) :
    (∃ grammar, ofConfiguration configuration = .ok grammar) ↔
      invalidSetting? configuration = none ∧ configuration.expression.operators ≠ [] := by
  rw [exists_ofConfiguration_iff]
  refine and_congr_right fun valid => and_iff_right_of_imp fun _ => ?_
  obtain ⟨letterClass, wordClass, made⟩ | made :=
    Alphabet.ofConfiguration_cases lists (punctuation_ne_nil_of_valid valid)
  · exact ⟨_, made⟩
  · exact ⟨_, made⟩

/-- The alphabet of an accepted grammar with listed letters. -/
theorem alphabet_cases (accepted : ofConfiguration configuration = .ok grammar)
    (lists : configuration.ListsLetters listLevels letters wordLetters) :
    (∃ letterClass wordClass, grammar.alphabet = .classes letterClass wordClass ∧
      CharClass.ofBody? configuration.letterBody = some letterClass ∧
      CharClass.ofBody? configuration.wordLetterBody = some wordClass) ∨
    grammar.alphabet = .shapes (configuration.listShapes letters wordLetters) := by
  have valid := (exists_ofConfiguration_iff.1 ⟨grammar, accepted⟩).1
  obtain ⟨letterClass, wordClass, made⟩ | made :=
    Alphabet.ofConfiguration_cases lists (punctuation_ne_nil_of_valid valid)
  · exact .inl ⟨letterClass, wordClass, alphabet_eq accepted made,
      Alphabet.ofConfiguration_eq_classes_iff.1 made⟩
  · exact .inr (alphabet_eq accepted made)

/-- The letters of an accepted grammar are those that its list contains. -/
theorem isLetter_eq_contains_ofList (accepted : ofConfiguration configuration = .ok grammar)
    (lists : configuration.ListsLetters listLevels letters wordLetters) (c : Char) :
    grammar.isLetter c = (ofList letters).contains c := by
  obtain ⟨letterClass, wordClass, classes, read, -⟩ | shapes := alphabet_cases accepted lists
  · rw [isLetter, classes, Alphabet.isLetter]
    exact contains_ofList_of_ofBody? read lists.letters.toIsListOf c
  · rw [isLetter, shapes]
    exact WordShapes.occursIn_letterShape _ c

/-- The words of an accepted grammar are the groups of characters that the list of its word letters
contains, with single joiners between them. -/
theorem isWord_iff_of_lists (accepted : ofConfiguration configuration = .ok grammar)
    (lists : configuration.ListsLetters listLevels letters wordLetters) (text : Text) :
    grammar.isWord text = true ↔
      IsGrouped (ofList wordLetters).contains grammar.wordJoiners.contains text := by
  obtain ⟨letterClass, wordClass, classes, -, read⟩ | shapes := alphabet_cases accepted lists
  · rw [isWord_iff classes]
    have same := contains_ofList_of_ofBody? read lists.wordLetters.toIsListOf
    rw [funext same]
  · rw [isWord, shapes, (follows_of_ofConfiguration accepted).wordJoiners]
    exact WordShapes.occursIn_wordShape _ _ text

end Grammar

end ProseTree.Language
