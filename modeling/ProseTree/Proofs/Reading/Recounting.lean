import ProseTree.Proofs.Reading.PhraseWords
import ProseTree.Proofs.Tree.Levels

/-!
# Counting words again

A reading drops what it does not know, and the rendered document has less than the text. When it is read
again, the words of the rendered document are counted phrase by phrase. What is left of a run that lost
characters can be a word that was none before. It can also end in a terminator, so that the sentence is
cut there: then the words behind it are found again only where the rest starts like a sentence.
-/

namespace ProseTree.Reading

open ProseTree.Language (BuiltIn CharClass Grammar IsLine)
open ProseTree.Tree (Document Node)

variable {grammar : Grammar} {letters wordLetters : CharClass}

section Paragraphs

/-- Sums that agree item by item agree. -/
theorem sum_map_add_sum_map {α : Type} {first second third fourth : α → Nat} {items : List α}
    (each : ∀ item ∈ items, first item + second item = third item + fourth item) :
    (items.map first).sum + (items.map second).sum = (items.map third).sum + (items.map fourth).sum := by
  induction items with
  | nil => rfl
  | cons item items inductionHypothesis =>
    obtain ⟨here, behind⟩ := List.forall_mem_cons.1 each
    have following := inductionHypothesis behind
    simp only [List.map_cons, List.sum_cons]
    omega

/-- The words of phrases in a row are those of each phrase. -/
theorem phraseWords_flatten (groups : List (List RenderedLexeme)) :
    phraseWords groups.flatten = (groups.map phraseWords).sum := by
  induction groups with
  | nil => rfl
  | cons group groups inductionHypothesis =>
    rw [phraseWords] at inductionHypothesis
    rw [List.flatten_cons, phraseWords, List.map_append, Node.countAll_append, inductionHypothesis,
      List.map_cons, List.sum_cons, phraseWords]

/-- A paragraph that is rendered so that its words can be counted again. -/
inductive ParagraphRecounts (grammar : Grammar) : Node → Prop
  | intro {sentences : List Node} (nonempty : sentences ≠ [])
      (each : ∀ sentence ∈ sentences, SentenceRecounts grammar sentence) :
      ParagraphRecounts grammar (.paragraph sentences)

/-- The words of a paragraph that are not found again. -/
def lostWordsIn (grammar : Grammar) (paragraph : Node) : Nat :=
  ((phrases grammar paragraph).map (lostWords grammar)).sum

/-- The words of a paragraph that are found again and were none. -/
def gainedWordsIn (grammar : Grammar) (paragraph : Node) : Nat :=
  ((phrases grammar paragraph).map (gainedWords grammar)).sum

variable {paragraph : Node}

/-- The paragraph is rendered as a line. -/
theorem ParagraphRecounts.isLine (recounts : ParagraphRecounts grammar paragraph) :
    IsLine paragraph.text := by
  cases recounts with
  | intro nonempty each =>
    exact isLine_text_paragraph nonempty fun sentence member => (each sentence member).rendered.isSpaced

/-- The words of the paragraph are those of its phrases. -/
theorem ParagraphRecounts.count_word (recounts : ParagraphRecounts grammar paragraph) :
    paragraph.count .word = ((phrases grammar paragraph).map phraseWords).sum := by
  cases recounts with
  | @intro sentences nonempty each =>
    have words : sentences.map (Node.count .word) =
        (sentences.map renderedLexemes).map phraseWords := by
      rw [List.map_map]
      exact List.map_congr_left fun sentence member => (each sentence member).words
    rw [← phraseWords_flatten, flatten_phrases, phraseWords_flatten, ← words, ← Node.countAll_eq_sum]
    simp [Node.count]

/-- The words of the paragraph when it is read again. -/
theorem ParagraphRecounts.paragraphWords_text
    (indented : ∀ body, grammar.unindented? (Node.indent ++ body) = some (Text.trim body))
    (classes : grammar.alphabet = .classes letters wordLetters) (apart : grammar.SetsMarksApart)
    (recounts : ParagraphRecounts grammar paragraph) :
    paragraphWords grammar paragraph.text + lostWordsIn grammar paragraph =
      paragraph.count .word + gainedWordsIn grammar paragraph := by
  rw [recounts.count_word]
  cases recounts with
  | @intro sentences nonempty each =>
    have rendered : ∀ sentence ∈ sentences, IsRendered grammar sentence :=
      fun sentence member => (each sentence member).rendered
    have found := paragraphBody?_text_paragraph indented nonempty
      fun sentence member => (rendered sentence member).isSpaced
    have words : paragraphWords grammar (Node.text (.paragraph sentences)) =
        ((phrases grammar (.paragraph sentences)).map fun phrase =>
          sentenceWords grammar (phraseText phrase)).sum := by
      simp only [paragraphWords, found, sentenceCandidates_join_text rendered apart, List.map_map,
        Function.comp_def]
    rw [words]
    refine sum_map_add_sum_map fun phrase member => ?_
    refine sentenceWords_add_lostWords classes apart (isPhrase_of_mem_phrases rendered member) ?_
    intro lexeme inside
    obtain ⟨sentence, isSentence, inSentence⟩ := exists_of_mem_phrases member inside
    obtain ⟨tokenLexeme, isFound⟩ := (each sentence isSentence).each lexeme inSentence
    exact isRecounted_of_isFound tokenLexeme isFound

/-- Where no lexeme ends a sentence in its own right, no word is lost, and one is gained for each lexeme
that becomes a word. -/
theorem ParagraphRecounts.words_of_endsNoSentence (recounts : ParagraphRecounts grammar paragraph)
    (goesOn : ∀ lexeme ∈ paragraph.lexemes, EndsNoSentence grammar lexeme) :
    lostWordsIn grammar paragraph = 0 ∧
      gainedWordsIn grammar paragraph = paragraph.lexemes.countP (becomesWord grammar) := by
  cases recounts with
  | @intro sentences nonempty each =>
    have inSentence : ∀ sentence ∈ sentences, ∀ rendered ∈ renderedLexemes sentence,
        EndsNoSentence grammar rendered.lexeme := by
      intro sentence isSentence rendered inside
      refine goesOn _ (Node.mem_lexemesAll isSentence ?_)
      rw [(each sentence isSentence).lexemes]
      exact List.mem_map_of_mem inside
    have same : phrases grammar (.paragraph sentences) = sentences.map renderedLexemes := by
      refine phrases_eq_map (fun sentence member => (each sentence member).rendered) ?_
      intro sentence isSentence rendered inside
      exact (each sentence isSentence).goesOn rendered inside
        (inSentence sentence isSentence rendered (List.dropLast_subset _ inside))
    have words : ∀ sentence ∈ sentences, lostWords grammar (renderedLexemes sentence) = 0 ∧
        gainedWords grammar (renderedLexemes sentence) = sentence.lexemes.countP (becomesWord grammar) :=
      fun sentence member => (each sentence member).words_of_endsNoSentence (inSentence sentence member)
    rw [lostWordsIn, gainedWordsIn, same, List.map_map, List.map_map]
    constructor
    · exact List.sum_eq_zero_iff_forall_eq_nat.2
        (List.forall_mem_map.2 fun sentence member => (words sentence member).1)
    · rw [Node.lexemes, Node.lexemesAll_eq_flatMap, List.countP_flatMap]
      exact congrArg List.sum (List.map_congr_left fun sentence member => (words sentence member).2)

end Paragraphs

section Documents

/-- The words of a document that are not found again when it is rendered and read. -/
def lostWordsOf (grammar : Grammar) (document : Document) : Nat :=
  (document.children.map (lostWordsIn grammar)).sum

/-- The words of a document that are found when it is rendered and read, and were none. -/
def gainedWordsOf (grammar : Grammar) (document : Document) : Nat :=
  (document.children.map (gainedWordsIn grammar)).sum

/-- The words of a document when it is read again. -/
theorem wordCount_of_recounts
    (indented : ∀ body, grammar.unindented? (Node.indent ++ body) = some (Text.trim body))
    (classes : grammar.alphabet = .classes letters wordLetters) (apart : grammar.SetsMarksApart)
    {schedule : Schedule} {document : Document} {second : Reading}
    (each : ∀ paragraph ∈ document.children, ParagraphRecounts grammar paragraph)
    (read : (standardChain grammar schedule).readDocument document.text = .ok second) :
    second.document.wordCount + lostWordsOf grammar document =
      document.wordCount + gainedWordsOf grammar document := by
  have lines : ∀ line ∈ document.children.map Node.text, IsLine line :=
    List.forall_mem_map.2 fun paragraph member => (each paragraph member).isLine
  have words := wordCount_of_readDocument classes read
  rw [text_document, Language.paragraphCandidates_join lines, List.map_map] at words
  have before : document.wordCount = (document.children.map (Node.count .word)).sum :=
    Node.countAll_eq_sum .word document.children
  rw [words, before]
  exact sum_map_add_sum_map fun paragraph member =>
    (each paragraph member).paragraphWords_text indented classes apart

/-- Where no lexeme of a document ends a sentence in its own right, no word is lost, and one is gained for
each lexeme that becomes a word. -/
theorem words_of_endsNoSentence {document : Document}
    (each : ∀ paragraph ∈ document.children, ParagraphRecounts grammar paragraph)
    (goesOn : ∀ lexeme ∈ Node.lexemesAll document.children, EndsNoSentence grammar lexeme) :
    lostWordsOf grammar document = 0 ∧ gainedWordsOf grammar document =
      (Node.lexemesAll document.children).countP (becomesWord grammar) := by
  have words : ∀ paragraph ∈ document.children, lostWordsIn grammar paragraph = 0 ∧
      gainedWordsIn grammar paragraph = paragraph.lexemes.countP (becomesWord grammar) :=
    fun paragraph member => (each paragraph member).words_of_endsNoSentence
      fun lexeme inside => goesOn lexeme (Node.mem_lexemesAll member inside)
  rw [lostWordsOf, gainedWordsOf, Node.lexemesAll_eq_flatMap, List.countP_flatMap]
  constructor
  · exact List.sum_eq_zero_iff_forall_eq_nat.2
      (List.forall_mem_map.2 fun paragraph member => (words paragraph member).1)
  · exact congrArg List.sum (List.map_congr_left fun paragraph member => (words paragraph member).2)

variable (classes : grammar.alphabet = .classes letters wordLetters) (apart : grammar.SetsMarksApart)

include classes apart

/-- A paragraph candidate becomes a paragraph whose words can be counted again. -/
theorem recounts_of_placeParagraph {candidate : Text} {outcome : Outcome}
    (read : ParagraphOutcome grammar candidate outcome) :
    ∀ node ∈ (placeParagraph candidate outcome).1, node.count .expression = 0 →
      ParagraphRecounts grammar node := by
  intro node member noExpression
  obtain ⟨sentences, rfl, nonempty, each⟩ := exists_unbroken_of_placeParagraph classes apart read member
  refine .intro nonempty fun sentence inside => ?_
  obtain ⟨text, children, gaps, rfl, unbroken, parts, -⟩ := each sentence inside
  exact parts.sentenceRecounts classes apart unbroken (countAll_expression_of_mem noExpression inside)

/-- A text is read into paragraphs whose words can be counted again, unless there are expressions. -/
theorem exists_readDocument_recounts (schedule : Schedule) (text : Text) :
    ∃ reading, (standardChain grammar schedule).readDocument text = .ok reading ∧
      (Node.countAll .expression reading.document.children = 0 →
        ∀ paragraph ∈ reading.document.children, ParagraphRecounts grammar paragraph) := by
  obtain ⟨paragraphs, gaps, read, placed⟩ := exists_readDocument classes schedule text
  have recounts : ∀ paragraph ∈ paragraphs, paragraph.count .expression = 0 →
      ParagraphRecounts grammar paragraph := by
    refine placed.forall_nodes fun candidate _ outcome known => ?_
    exact recounts_of_placeParagraph classes apart (paragraphOutcome_of_read classes known)
  exact ⟨_, read, fun noExpression paragraph member =>
    recounts paragraph member (Node.countAll_eq_zero_iff.1 noExpression paragraph member)⟩

end Documents

/-- Under a built-in grammar, a document without expressions is read again, less the words of the phrases
that start no sentence, and with a word more for each token of the other phrases that became one. As many
words are counted exactly when as many are lost as are gained. No word is lost where no lexeme that lost
characters ends in a terminator. -/
theorem wordCount_readDocument_text {language : BuiltIn} {grammar : Grammar}
    (accepted : Grammar.ofConfiguration language.configuration = .ok grammar) (schedule again : Schedule)
    (text : Text) :
    ∃ reading, (standardChain grammar schedule).readDocument text = .ok reading ∧
      (Node.countAll .expression reading.document.children = 0 →
        ∃ second, (standardChain grammar again).readDocument reading.document.text = .ok second ∧
          second.document.wordCount + lostWordsOf grammar reading.document =
            reading.document.wordCount + gainedWordsOf grammar reading.document ∧
          (second.document.wordCount = reading.document.wordCount ↔
            lostWordsOf grammar reading.document = gainedWordsOf grammar reading.document) ∧
          ((∀ lexeme ∈ Node.lexemesAll reading.document.children, EndsNoSentence grammar lexeme) →
            second.document.wordCount = reading.document.wordCount +
              (Node.lexemesAll reading.document.children).countP (becomesWord grammar))) := by
  obtain ⟨letters, wordLetters, classes⟩ := Grammar.exists_classes accepted language.hasPlainLetters
  have apart := BuiltIn.setsMarksApart accepted
  obtain ⟨reading, read, recounts⟩ := exists_readDocument_recounts classes apart schedule text
  refine ⟨reading, read, fun noExpression => ?_⟩
  have each := recounts noExpression
  obtain ⟨second, readAgain, -⟩ := exists_readDocument_recounts classes apart again reading.document.text
  have words := wordCount_of_recounts (BuiltIn.unindented?_append accepted) classes apart each readAgain
  refine ⟨second, readAgain, words, by omega, fun goesOn => ?_⟩
  obtain ⟨noneLost, gained⟩ := words_of_endsNoSentence each goesOn
  rwa [noneLost, gained, Nat.add_zero] at words

/-- The numbers of an English text: the expressions, the words, the lexemes that end a sentence in their own
right, the words that are lost and those that are gained. -/
def englishNumbers? (text : Text) : Option (List Nat) := do
  let grammar ← (Grammar.ofConfiguration .english).toOption
  let reading ← ((standardChain grammar .sequential).readDocument text).toOption
  return [Node.countAll .expression reading.document.children, reading.document.wordCount,
    (Node.lexemesAll reading.document.children).countP fun lexeme =>
      !decide (EndsNoSentence grammar lexeme),
    lostWordsOf grammar reading.document, gainedWordsOf grammar reading.document]

/-- One token becomes a word, and two words are lost behind another token that ends in a terminator. Where
no token does so, nothing is lost. -/
theorem wordCount_readDocument_text_english :
    ∃ grammar, Grammar.ofConfiguration .english = .ok grammar ∧
      (∃ reading second,
        (standardChain grammar .sequential).readDocument "\tFine a§b 1.§ or not." = .ok reading ∧
        Node.countAll .expression reading.document.children = 0 ∧
        (standardChain grammar {}).readDocument reading.document.text = .ok second ∧
        reading.document.wordCount = 3 ∧ second.document.wordCount = 2) ∧
      ∃ reading second,
        (standardChain grammar .sequential).readDocument "\tFine a§b here." = .ok reading ∧
        Node.countAll .expression reading.document.children = 0 ∧
        (∀ lexeme ∈ Node.lexemesAll reading.document.children, EndsNoSentence grammar lexeme) ∧
        (standardChain grammar {}).readDocument reading.document.text = .ok second ∧
        second.document.wordCount = reading.document.wordCount + 1 := by
  obtain ⟨grammar, accepted⟩ := BuiltIn.english.exists_ofConfiguration
  have english : Grammar.ofConfiguration .english = .ok grammar := accepted
  refine ⟨grammar, accepted, ?_, ?_⟩
  · obtain ⟨reading, read, recount⟩ :=
      wordCount_readDocument_text accepted .sequential {} "\tFine a§b 1.§ or not."
    have computed : englishNumbers? "\tFine a§b 1.§ or not." = some [0, 3, 1, 2, 1] := by
      decide +kernel
    simp only [englishNumbers?, english, read, Except.toOption, Option.bind_eq_bind, Option.bind_some,
      Option.pure_def, Option.some.injEq, List.cons.injEq] at computed
    obtain ⟨noExpression, words, -, lost, gained, -⟩ := computed
    obtain ⟨second, readAgain, recounted, -⟩ := recount noExpression
    exact ⟨reading, second, read, noExpression, readAgain, words, by omega⟩
  · obtain ⟨reading, read, recount⟩ :=
      wordCount_readDocument_text accepted .sequential {} "\tFine a§b here."
    have computed : englishNumbers? "\tFine a§b here." = some [0, 2, 0, 0, 1] := by
      decide +kernel
    simp only [englishNumbers?, english, read, Except.toOption, Option.bind_eq_bind, Option.bind_some,
      Option.pure_def, Option.some.injEq, List.cons.injEq] at computed
    obtain ⟨noExpression, -, noEnd, lost, gained, -⟩ := computed
    have goesOn : ∀ lexeme ∈ Node.lexemesAll reading.document.children, EndsNoSentence grammar lexeme := by
      simpa using List.countP_eq_zero.1 noEnd
    obtain ⟨second, readAgain, recounted, -, kept⟩ := recount noExpression
    have moreWords := kept goesOn
    exact ⟨reading, second, read, noExpression, goesOn, readAgain, by omega⟩

/-- The expressions and the words of an English text, and the words of its rendered document. -/
def englishCounts? (text : Text) : Option (Nat × Nat × Nat) := do
  let grammar ← (Grammar.ofConfiguration .english).toOption
  let first ← ((standardChain grammar .sequential).readDocument text).toOption
  let second ← ((standardChain grammar .sequential).readDocument first.document.text).toOption
  return (Node.countAll .expression first.document.children, first.document.wordCount,
    second.document.wordCount)

/-- A dropped character can make a word of a run of symbols, or end a sentence in front of a word. -/
theorem englishCounts_change :
    englishCounts? "\tFine a§b here." = some (0, 2, 3) ∧
      englishCounts? "\tFine 1.§ here." = some (0, 2, 1) := by
  decide +kernel

end ProseTree.Reading
