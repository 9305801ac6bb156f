import ProseTree.Analysis.Letters
import ProseTree.Proofs.Language.BuiltIn
import ProseTree.Proofs.Tree.Levels

/-!
# Counted letters

The letters of a text are counted character by character, so the letters of a rendered document are those of
its sentences, as long as no indent, no space and no blank line holds a letter.

The vowels of a script are listed apart from its letters, and a definition is accepted without a comparison of
the two. A listed vowel is counted even where it is no letter, so a total is the number of the letters of a
text only as far as its vowels are letters.
-/

namespace ProseTree

/-- What is counted in joined texts is counted in the texts themselves, where the separator holds nothing of
it. -/
theorem Text.countP_join {inClass : Char → Bool} {separator : Text}
    (outside : separator.countP inClass = 0) (pieces : List Text) :
    (join separator pieces).countP inClass = pieces.flatten.countP inClass := by
  induction pieces with
  | nil => rfl
  | cons piece pieces inductionHypothesis =>
    cases pieces with
    | nil => simp [join]
    | cons second pieces =>
      rw [join_cons (List.cons_ne_nil second pieces), List.countP_append, List.countP_append, outside,
        inductionHypothesis, Nat.zero_add, ← List.countP_append]
      rfl

namespace Analysis

open ProseTree.Language (Alphabet BuiltIn ConfigError Configuration Grammar)
open ProseTree.Tree (Document Node Sentence)

variable {grammar : Grammar}

section Counts

variable (grammar) (text : Text)

/-- The vowels of a text, one by one. -/
theorem vowels_ofText : (LetterCount.ofText grammar text).vowels = text.countP grammar.isVowel := by
  induction text with
  | nil => rfl
  | cons c rest inductionHypothesis =>
    change (LetterCount.ofChar grammar c).vowels + (LetterCount.ofText grammar rest).vowels = _
    rw [inductionHypothesis, List.countP_cons, LetterCount.ofChar]
    split
    · rw [Nat.add_comm]
    · split <;> simp

/-- The consonants of a text, one by one. -/
theorem consonants_ofText :
    (LetterCount.ofText grammar text).consonants = text.countP grammar.isConsonant := by
  induction text with
  | nil => rfl
  | cons c rest inductionHypothesis =>
    change (LetterCount.ofChar grammar c).consonants + (LetterCount.ofText grammar rest).consonants = _
    rw [inductionHypothesis, List.countP_cons, LetterCount.ofChar]
    split
    · rename_i vowel
      simp [Grammar.isConsonant, vowel]
    · split
      · rw [Nat.add_comm]
      · simp

/-- A total counts every letter once, and beyond the letters the listed vowels that are none. -/
theorem total_ofText_eq_add :
    (LetterCount.ofText grammar text).total =
      text.countP grammar.isLetter + text.countP fun c => grammar.isVowel c && !grammar.isLetter c := by
  rw [LetterCount.total, vowels_ofText, consonants_ofText]
  induction text with
  | nil => rfl
  | cons c rest inductionHypothesis =>
    simp only [List.countP_cons, Grammar.isConsonant] at inductionHypothesis ⊢
    -- One more character adds one to both sides if it is a letter or a vowel, and else nothing.
    by_cases letter : grammar.isLetter c = true <;> by_cases vowel : grammar.isVowel c = true <;>
      simp [letter, vowel] <;> omega

end Counts

section Totals

variable {text : Text}

/-- A total is the number of letters exactly for a text whose vowels are letters. -/
theorem total_ofText_eq_countP_iff :
    (LetterCount.ofText grammar text).total = text.countP grammar.isLetter ↔
      ∀ c ∈ text, grammar.isVowel c = true → grammar.isLetter c = true := by
  rw [total_ofText_eq_add, Nat.add_eq_left, List.countP_eq_zero]
  simp

variable {alphabetOf : Configuration → Except ConfigError Alphabet} {configuration : Configuration}
  (accepted : Grammar.ofConfigurationWith alphabetOf configuration = .ok grammar)

include accepted

/-- The vowels of a grammar are those that its scripts list. -/
theorem isVowel_iff_exists_script {c : Char} :
    grammar.isVowel c = true ↔ ∃ script ∈ configuration.scripts, c ∈ script.vowels := by
  rw [Grammar.isVowel, (Grammar.follows_of_ofConfigurationWith accepted).vowels, Configuration.vowels,
    List.contains_iff_mem, List.mem_flatMap]

/-- The counts of a text under any accepted definition, in whatever way its letters are understood. Its vowels
are the characters that some script lists, its consonants are the letters that are no vowels, and together
these are the letters of the text and the vowels that are no letters. So the total is the number of letters
exactly when all vowels of the scripts that stand in the text are letters, as those of the built-in grammars
always are. -/
theorem total_ofText (text : Text) :
    (LetterCount.ofText grammar text).vowels = text.countP grammar.isVowel ∧
    (LetterCount.ofText grammar text).consonants =
      text.countP (fun c => grammar.isLetter c && !grammar.isVowel c) ∧
    (LetterCount.ofText grammar text).total =
      text.countP grammar.isLetter + text.countP (fun c => grammar.isVowel c && !grammar.isLetter c) ∧
    ((LetterCount.ofText grammar text).total = text.countP grammar.isLetter ↔
      ∀ script ∈ configuration.scripts, ∀ c ∈ script.vowels, c ∈ text → grammar.isLetter c = true) ∧
    ∀ language : BuiltIn, Grammar.ofConfiguration language.configuration = .ok grammar →
      (LetterCount.ofText grammar text).total = text.countP grammar.isLetter := by
  refine ⟨vowels_ofText grammar text, consonants_ofText grammar text, total_ofText_eq_add grammar text,
    ?_, ?_⟩
  · rw [total_ofText_eq_countP_iff]
    constructor
    · intro letters script listed c isVowel inText
      exact letters c inText ((isVowel_iff_exists_script accepted).2 ⟨script, listed, isVowel⟩)
    · intro letters c inText vowel
      obtain ⟨script, listed, isVowel⟩ := (isVowel_iff_exists_script accepted).1 vowel
      exact letters script listed c isVowel inText
  · intro language builtIn
    rw [total_ofText_eq_countP_iff]
    exact fun c _ vowel => BuiltIn.isLetter_of_isVowel builtIn vowel

end Totals

/-- The eight letters of two English words, among digits and marks. -/
theorem total_ofText_english :
    ∃ grammar, Grammar.ofConfiguration .english = .ok grammar ∧
      (LetterCount.ofText grammar "Sky, 24 hours!").total =
        "Sky, 24 hours!".toList.countP grammar.isLetter ∧
      (LetterCount.ofText grammar "Sky, 24 hours!").total = 8 := by
  obtain ⟨grammar, accepted⟩ := BuiltIn.english.exists_ofConfiguration
  obtain ⟨-, -, -, -, letters⟩ := total_ofText accepted "Sky, 24 hours!"
  exact ⟨grammar, accepted, letters .english accepted,
    Grammar.eq_of_computed accepted (fun grammar => (LetterCount.ofText grammar "Sky, 24 hours!").total)
      (by decide +kernel)⟩

/-- A definition with letters in lower case only, and vowels in either case. -/
def lowerCaseLetters : Configuration :=
  { Configuration.english with scripts := [{ Language.Script.latin with letters := "a-z" }] }

/-- This definition is accepted, and a capital vowel is counted although it is no letter. -/
theorem total_ofText_capital_vowel :
    ¬ ∀ (configuration : Configuration) (grammar : Grammar),
      Grammar.ofConfiguration configuration = .ok grammar →
      ∀ text, (LetterCount.ofText grammar text).total = text.countP grammar.isLetter := by
  intro counted
  obtain ⟨grammar, accepted⟩ : ∃ grammar, Grammar.ofConfiguration lowerCaseLetters = .ok grammar :=
    ⟨_, rfl⟩
  have computed : ((LetterCount.ofText grammar "Ab").total, "Ab".toList.countP grammar.isLetter) = (2, 1) :=
    Grammar.eq_of_computed accepted (fun grammar =>
      ((LetterCount.ofText grammar "Ab").total, "Ab".toList.countP grammar.isLetter)) (by decide +kernel)
  obtain ⟨total, letters⟩ := Prod.mk.inj computed
  have same := counted lowerCaseLetters grammar accepted "Ab"
  rw [total, letters] at same
  exact absurd same (by decide)

section Documents

variable {document : Document} {inClass : Char → Bool}

/-- A class without white space has nothing in a text of white space. -/
theorem countP_of_all_isBlank (noBlank : ∀ c, Text.isBlank c = true → inClass c = false) {blank : Text}
    (allBlank : blank.all Text.isBlank = true) : blank.countP inClass = 0 := by
  rw [List.countP_eq_zero]
  intro c member
  simp [noBlank c (List.all_eq_true.1 allBlank c member)]

/-- A class without white space is counted in a document sentence by sentence. -/
theorem countP_text (wellFormed : document.WellFormed grammar)
    (noBlank : ∀ c, Text.isBlank c = true → inClass c = false) :
    document.text.countP inClass = (document.sentences.flatMap Sentence.text).countP inClass := by
  have outside : ∀ blank : Text, blank.all Text.isBlank = true → blank.countP inClass = 0 :=
    fun _ => countP_of_all_isBlank noBlank
  have inParagraph : ∀ paragraph ∈ document.paragraphs, paragraph.text.countP inClass =
      (paragraph.sentences.flatMap Sentence.text).countP inClass := by
    intro paragraph member
    rw [wellFormed.text_paragraph member, List.countP_append, outside Node.indent (by decide),
      Text.countP_join (outside " " (by decide)), Nat.zero_add, List.flatMap_def]
  rw [wellFormed.text_eq, Text.countP_join (outside Node.blankLine (by decide)), List.countP_flatten,
    List.map_map, Document.sentences, List.flatMap_assoc, List.countP_flatMap]
  exact congrArg List.sum (List.map_congr_left inParagraph)

/-- What is counted of a document is what is counted of its sentences, for each number of a count. -/
theorem documentLetters_eq_sum {number : LetterCount → Nat} (wellFormed : document.WellFormed grammar)
    (noBlank : ∀ c, Text.isBlank c = true → inClass c = false)
    (counts : ∀ text, number (.ofText grammar text) = text.countP inClass) :
    number (documentLetters grammar document) =
      ((sentenceLetters grammar document).map fun letters => number letters.counts).sum := by
  have perSentence : (sentenceLetters grammar document).map (fun letters => number letters.counts) =
      document.sentences.map fun sentence => sentence.text.countP inClass := by
    rw [sentenceLetters, List.map_map]
    conv => rhs; rw [← List.zipIdx_map_fst 0 document.sentences, List.map_map]
    exact List.map_congr_left fun _ _ => counts _
  rw [perSentence, documentLetters, counts, countP_text wellFormed noBlank, List.countP_flatMap]
  rfl

end Documents

end Analysis

end ProseTree
