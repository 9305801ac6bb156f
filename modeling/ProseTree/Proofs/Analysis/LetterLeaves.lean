import ProseTree.Proofs.Analysis.Letters
import ProseTree.Proofs.Decimal.Characters
import ProseTree.Proofs.Reading.Shape
import ProseTree.Proofs.Tree.Leaves

/-!
# Letters leaf by leaf

Rendering writes white space between the leaves of a tree, and values in place of expressions. So the letters
of a rendered tree are those of its words and symbols, and those of the texts of its values. A finite value
is written without letters. A value that is infinite or no number is written as a word, and the letters of
this word are counted.
-/

namespace ProseTree.Analysis

open ProseTree.Language (BuiltIn Grammar)
open ProseTree.Tree (Document Kind Node Sentence)

section Counted

variable {inClass : Char → Bool}

/-- Between the parts of a sentence stands nothing but white space. -/
theorem countP_spaced (noBlank : ∀ c, Text.isBlank c = true → inClass c = false)
    (parts : List (Kind × Text)) :
    (Node.spaced parts).countP inClass = (parts.map Prod.snd).flatten.countP inClass := by
  cases parts with
  | nil => rfl
  | cons first others =>
    have noSpace : inClass ' ' = false := noBlank ' ' (by decide)
    have behind : (others.flatMap fun part =>
        if part.1 = .symbol then part.2 else ' ' :: part.2).countP inClass =
          (others.map Prod.snd).flatten.countP inClass := by
      rw [List.countP_flatMap, List.countP_flatten, List.map_map]
      refine congrArg List.sum (List.map_congr_left fun part _ => ?_)
      dsimp only [Function.comp_def]
      split
      · rfl
      · rw [List.countP_cons_of_neg (by simp [noSpace])]
    rw [Node.spaced, List.countP_append, List.map_cons, List.flatten_cons, List.countP_append]
    exact congrArg (first.2.countP inClass + ·) behind

mutual

/-- What is counted in a rendered tree is counted in its words and symbols, and in its values. -/
theorem countP_text_node (noBlank : ∀ c, Text.isBlank c = true → inClass c = false) :
    ∀ node : Node, node.text.countP inClass =
      node.writtenTexts.flatten.countP inClass + (node.values.flatMap Decimal.ofDouble).countP inClass
  | .document children => by
    rw [Node.text, Text.countP_join (countP_of_all_isBlank noBlank (by decide))]
    exact countP_texts noBlank children
  | .paragraph children => by
    rw [Node.text, List.countP_append, countP_of_all_isBlank noBlank (by decide), Nat.zero_add,
      Text.countP_join (countP_of_all_isBlank noBlank (by decide))]
    exact countP_texts noBlank children
  | .sentence children => by
    have texts : ((children.map Node.kind).zip (Node.texts children)).map Prod.snd =
        Node.texts children :=
      List.map_snd_zip (by simp [Node.texts_eq_map])
    rw [Node.text, countP_spaced noBlank, texts]
    exact countP_texts noBlank children
  | .lexeme _ children => countP_texts noBlank children
  | .word letters => by simp [Node.text, Node.writtenTexts, Node.values]
  | .symbol mark => by simp [Node.text, Node.writtenTexts, Node.values]
  | .expression _ value => by simp [Node.text, Node.writtenTexts, Node.values]

/-- What is counted in several rendered trees is counted in their words and symbols, and in their values. -/
theorem countP_texts (noBlank : ∀ c, Text.isBlank c = true → inClass c = false) :
    ∀ nodes : List Node, (Node.texts nodes).flatten.countP inClass =
      (Node.writtenTextsAll nodes).flatten.countP inClass +
        ((Node.valuesAll nodes).flatMap Decimal.ofDouble).countP inClass
  | [] => rfl
  | node :: nodes => by
    rw [Node.texts, List.flatten_cons, List.countP_append, countP_text_node noBlank node,
      countP_texts noBlank nodes, Node.writtenTextsAll, Node.valuesAll, List.flatten_append,
      List.flatMap_append, List.countP_append, List.countP_append]
    omega

end

end Counted

section Sums

/-- Counts are the same when both of their numbers are. -/
theorem LetterCount.eq_iff {left right : LetterCount} :
    left = right ↔ left.vowels = right.vowels ∧ left.consonants = right.consonants := by
  cases left
  cases right
  simp

/-- The counts of several texts together. -/
def LetterCount.ofTexts (grammar : Grammar) (texts : List Text) : LetterCount :=
  texts.foldr (fun text counts => ofText grammar text + counts) {}

variable (grammar : Grammar) (texts : List Text)

theorem vowels_ofTexts :
    (LetterCount.ofTexts grammar texts).vowels = texts.flatten.countP grammar.isVowel := by
  induction texts with
  | nil => rfl
  | cons text texts inductionHypothesis =>
    rw [List.flatten_cons, List.countP_append, ← inductionHypothesis, ← vowels_ofText]
    rfl

theorem consonants_ofTexts :
    (LetterCount.ofTexts grammar texts).consonants = texts.flatten.countP grammar.isConsonant := by
  induction texts with
  | nil => rfl
  | cons text texts inductionHypothesis =>
    rw [List.flatten_cons, List.countP_append, ← inductionHypothesis, ← consonants_ofText]
    rfl

end Sums

section BuiltInGrammars

/-- No built-in alphabet has letters with which finite doubles are written, and each has the letter n in
either case. -/
theorem exists_letters_apart (language : BuiltIn) :
    ∃ letters wordLetters,
      Language.Alphabet.ofConfiguration language.configuration = .ok (.classes letters wordLetters) ∧
      (∀ c ∈ Decimal.numberChars, letters.contains c = false) ∧
      letters.contains 'n' = true ∧ letters.contains 'N' = true := by
  cases language <;>
  · refine ⟨_, _, rfl, Text.forall_eq_false_of_any ?_, ?_, ?_⟩ <;> decide

variable {language : BuiltIn} {grammar : Grammar}
  (accepted : Grammar.ofConfiguration language.configuration = .ok grammar)

include accepted

/-- No character that finite doubles are written with is counted in a built-in grammar. -/
theorem not_counted_of_mem_numberChars {c : Char} (member : c ∈ Decimal.numberChars) :
    grammar.isVowel c = false ∧ grammar.isConsonant c = false := by
  have follows := Grammar.follows_of_ofConfiguration accepted
  obtain ⟨letters, wordLetters, alphabet, apart, -⟩ := exists_letters_apart language
  have noVowel : ∀ c ∈ Decimal.numberChars, language.configuration.vowels.contains c = false := by
    apply Text.forall_eq_false_of_any
    cases language <;> decide
  constructor
  · rw [Grammar.isVowel, follows.vowels]
    exact noVowel c member
  · have noLetter : grammar.isLetter c = false :=
      (Grammar.isLetter_eq accepted alphabet c).trans (apart c member)
    rw [Grammar.isConsonant, noLetter, Bool.false_and]

/-- The letter n is counted in a built-in grammar. -/
theorem counted_of_eq_n {c : Char} (isN : c = 'n' ∨ c = 'N') :
    grammar.isVowel c = true ∨ grammar.isConsonant c = true := by
  obtain ⟨letters, wordLetters, alphabet, -, small, capital⟩ := exists_letters_apart language
  have letter : grammar.isLetter c = true := by
    rw [Grammar.isLetter_eq accepted alphabet]
    obtain rfl | rfl := isN
    · exact small
    · exact capital
  cases vowel : grammar.isVowel c with
  | true => exact .inl rfl
  | false => exact .inr (by rw [Grammar.isConsonant, letter, vowel]; rfl)

/-- In a built-in grammar, the letters of a tree are those of its words and symbols exactly when all of its
values are finite. -/
theorem ofText_text_eq_iff (node : Node) :
    LetterCount.ofText grammar node.text = .ofTexts grammar node.writtenTexts ↔
      ∀ value ∈ node.values, value.isFinite = true := by
  have noConsonant : ∀ c, Text.isBlank c = true → grammar.isConsonant c = false := by
    intro c blank
    rw [Grammar.isConsonant, (BuiltIn.setsMarksApart accepted).isLetter_eq_false blank, Bool.false_and]
  rw [LetterCount.eq_iff, vowels_ofText, vowels_ofTexts, consonants_ofText, consonants_ofTexts,
    countP_text_node (BuiltIn.isVowel_eq_false_of_isBlank accepted), countP_text_node noConsonant,
    Nat.add_eq_left, Nat.add_eq_left, List.countP_eq_zero, List.countP_eq_zero]
  constructor
  · rintro ⟨noVowels, noConsonants⟩ value member
    rw [← Bool.not_eq_false]
    intro notFinite
    obtain ⟨c, inside, isN⟩ := Decimal.exists_letter_of_not_isFinite notFinite
    have written := List.mem_flatMap.2 ⟨value, member, inside⟩
    obtain vowel | consonant := counted_of_eq_n accepted isN
    · exact noVowels c written vowel
    · exact noConsonants c written consonant
  · intro finite
    have notCounted : ∀ c ∈ node.values.flatMap Decimal.ofDouble,
        grammar.isVowel c = false ∧ grammar.isConsonant c = false := by
      intro c written
      obtain ⟨value, member, inside⟩ := List.mem_flatMap.1 written
      exact not_counted_of_mem_numberChars accepted
        (Decimal.mem_numberChars_of_mem_ofDouble (finite value member) inside)
    exact ⟨fun c written => Bool.not_eq_true _ ▸ (notCounted c written).1,
      fun c written => Bool.not_eq_true _ ▸ (notCounted c written).2⟩

/-- Under a built-in grammar, the counts of a sentence are the sums over its words and symbols, and its
expressions add nothing to them, exactly when the values of its expressions are finite. A number without a
nearest finite double is infinite, and what is computed with it may be no number. -/
theorem sentenceLetters_eq_ofTexts_iff (schedule : Reading.Schedule) (text : Text) :
    ∃ reading, (Reading.standardChain grammar schedule).readDocument text = .ok reading ∧
      List.Forall₂ (fun sentence letters =>
          letters.text = sentence.text ∧
            (letters.counts = .ofTexts grammar sentence.toNode.writtenTexts ↔
              ∀ value ∈ sentence.toNode.values, value.isFinite = true))
        reading.document.sentences (sentenceLetters grammar reading.document) := by
  obtain ⟨letters, wordLetters, classes⟩ := Grammar.exists_classes accepted language.hasPlainLetters
  obtain ⟨paragraphs, gaps, read, -⟩ := Reading.exists_readDocument classes schedule text
  refine ⟨_, read, ?_⟩
  generalize Document.mk paragraphs = document
  rw [sentenceLetters, List.forall₂_map_right_iff]
  conv => arg 2; rw [← List.zipIdx_map_fst 0 document.sentences]
  rw [List.forall₂_map_left_iff, List.forall₂_same]
  intro indexed _
  exact ⟨rfl, ofText_text_eq_iff accepted indexed.1.toNode⟩

end BuiltInGrammars

/-- An English sentence with an expression, of which only the words are counted. -/
theorem sentenceLetters_eq_ofTexts_english :
    ∃ grammar reading sentence letters, Grammar.ofConfiguration .english = .ok grammar ∧
      (Reading.standardChain grammar .sequential).readDocument "\tIt costs 2+3*4 coins." = .ok reading ∧
      reading.document.sentences = [sentence] ∧ sentenceLetters grammar reading.document = [letters] ∧
      sentence.toNode.values = [14] ∧
      letters.counts = .ofTexts grammar sentence.toNode.writtenTexts ∧ letters.counts = ⟨4, 8⟩ := by
  obtain ⟨grammar, accepted⟩ := BuiltIn.english.exists_ofConfiguration
  obtain ⟨reading, read, agree⟩ :=
    sentenceLetters_eq_ofTexts_iff accepted .sequential "\tIt costs 2+3*4 coins."
  have computed : ((Reading.standardChain grammar .sequential).readDocument
      "\tIt costs 2+3*4 coins.").toOption.map (fun reading =>
        (reading.document.sentences.map (·.toNode.values),
          (sentenceLetters grammar reading.document).map (·.counts))) = some ([[14]], [⟨4, 8⟩]) :=
    Grammar.eq_of_computed accepted (fun grammar => ((Reading.standardChain grammar .sequential).readDocument
      "\tIt costs 2+3*4 coins.").toOption.map fun reading =>
        (reading.document.sentences.map (·.toNode.values),
          (sentenceLetters grammar reading.document).map (·.counts))) (by decide +kernel)
  rw [read] at computed
  obtain ⟨values, counts⟩ := Prod.mk.inj (Option.some.inj computed)
  obtain ⟨sentence, isSentence, sameValues⟩ := List.map_eq_singleton_iff.1 values
  obtain ⟨letters, isLetters, sameCounts⟩ := List.map_eq_singleton_iff.1 counts
  rw [isSentence, isLetters, List.forall₂_cons] at agree
  refine ⟨grammar, reading, sentence, letters, accepted, read, isSentence, isLetters, sameValues,
    agree.1.2.2 ?_, sameCounts⟩
  rw [sameValues, List.forall_mem_singleton]
  decide +kernel

/-- A sentence with a number of 309 digits, which is beyond the largest double. -/
def infiniteSentence : Text :=
  "\tSo " ++ (List.replicate 309 '9' ++ " it is.")

/-- The number in this sentence is infinite, and the letters of the word for it are counted. -/
theorem sentenceLetters_infinite_counted :
    ¬ ∀ (language : BuiltIn) (grammar : Grammar),
      Grammar.ofConfiguration language.configuration = .ok grammar →
      ∀ (schedule : Reading.Schedule) (text : Text) (reading : Reading),
        (Reading.standardChain grammar schedule).readDocument text = .ok reading →
          (sentenceLetters grammar reading.document).map (·.counts) =
            reading.document.sentences.map fun sentence => .ofTexts grammar sentence.toNode.writtenTexts := by
  intro agree
  obtain ⟨grammar, accepted⟩ := BuiltIn.english.exists_ofConfiguration
  obtain ⟨letters, wordLetters, classes⟩ :=
    Grammar.exists_classes accepted BuiltIn.english.hasPlainLetters
  obtain ⟨paragraphs, gaps, read, -⟩ := Reading.exists_readDocument classes .sequential infiniteSentence
  have computed : ((Reading.standardChain grammar .sequential).readDocument infiniteSentence).toOption.map
      (fun reading => ((sentenceLetters grammar reading.document).map (·.counts),
        reading.document.sentences.map fun sentence =>
          LetterCount.ofTexts grammar sentence.toNode.writtenTexts)) = some ([⟨4, 5⟩], [⟨3, 3⟩]) :=
    Grammar.eq_of_computed accepted (fun grammar =>
      ((Reading.standardChain grammar .sequential).readDocument infiniteSentence).toOption.map
        fun reading => ((sentenceLetters grammar reading.document).map (·.counts),
          reading.document.sentences.map fun sentence =>
            LetterCount.ofTexts grammar sentence.toNode.writtenTexts)) (by decide +kernel)
  rw [read] at computed
  obtain ⟨counts, sums⟩ := Prod.mk.inj (Option.some.inj computed)
  have same := agree .english grammar accepted .sequential infiniteSentence _ read
  rw [counts, sums] at same
  exact absurd same (by decide)

end ProseTree.Analysis
