import ProseTree.Analysis.Report
import ProseTree.Proofs.Analysis.Letters
import ProseTree.Proofs.Analysis.Structure
import ProseTree.Proofs.Analysis.WordCounts
import ProseTree.Proofs.Reading.Shape

/-!
# Reports agree with themselves

Every section of a report goes through the document in its own way: through the children of one level, through
the whole tree, through the rendered text or through the words. What they say of the same thing agrees for
every document that is read under a built-in grammar.
-/

namespace ProseTree.Analysis

open ProseTree.Language (BuiltIn Grammar)
open ProseTree.Tree (Document)

/-- The sections of a report agree with each other and with the document. -/
structure Report.ConsistentWith (report : Report) (document : Document) : Prop where
  paragraphCount : report.statistics.paragraphs = document.paragraphs.length
  positions : (report.paragraphs.map (·.position)).Perm (List.range report.statistics.paragraphs)
  summaries : ∀ summary ∈ report.paragraphs, ∃ paragraph,
    document.paragraphs[summary.position]? = some paragraph ∧
      summary.sentences = paragraph.sentences.length ∧ summary.text = paragraph.text
  sentenceSum : (report.paragraphs.map (·.sentences)).sum = report.statistics.sentences
  letterLength : report.letters.length = report.statistics.sentences
  vowelSum : report.letterSummary.vowels = (report.letters.map (·.counts.vowels)).sum
  consonantSum : report.letterSummary.consonants = (report.letters.map (·.counts.consonants)).sum
  noLength : report.longestWordLength = none ↔ report.statistics.words = 0
  noSentence : report.longestWordLength = none ↔ report.longestWordSentences = []
  longest : ∀ longest, report.longestWordLength = some longest →
    (∀ word ∈ document.words, word.length ≤ longest) ∧
      report.longestWordSentences =
        (document.sentences.filter fun sentence => sentence.words.any (·.length == longest)).map (·.text)
  fewerParagraphs : report.filteredStatistics.paragraphs ≤ report.statistics.paragraphs
  fewerSentences : report.filteredStatistics.sentences ≤ report.statistics.sentences
  fewerWords : report.filteredStatistics.words ≤ report.statistics.words
  duplicates : ∀ top ∈ report.topWords,
    ((∃ duplicate ∈ report.duplicateWords, duplicate.word = top.word) ↔ 1 < top.count) ∧
      ∀ duplicate ∈ report.duplicateWords, duplicate.word = top.word → duplicate.count = top.count

variable {grammar : Grammar} {document : Document}

/-- The summaries of a report have the counts of the paragraphs, in another order. -/
theorem sum_rankedParagraphs (wellFormed : document.WellFormed grammar) :
    ((rankedParagraphs document).map (·.1.sentenceCount)).sum = document.sentenceCount := by
  have counts := (paragraphsBySentenceCount_perm document).map Tree.Paragraph.sentenceCount
  rw [paragraphsBySentenceCount, List.map_map] at counts
  rw [wellFormed.sentenceCount_eq_sum, ← counts.sum_nat]
  rfl

/-- The report on a well-formed document is consistent, as long as no white space is a vowel or a letter. -/
theorem consistentWith_analyze (wellFormed : document.WellFormed grammar)
    (noVowel : ∀ c, Text.isBlank c = true → grammar.isVowel c = false)
    (noLetter : ∀ c, Text.isBlank c = true → grammar.isLetter c = false) (minWords : Nat) :
    (analyze grammar document minWords).ConsistentWith document where
  paragraphCount := wellFormed.paragraphCount_eq
  positions := by
    have positions := paragraphOrder_perm document
    rw [← wellFormed.paragraphCount_eq] at positions
    simpa [analyze, paragraphOrder, Statistics.ofDocument, Function.comp_def] using positions
  summaries := by
    intro summary member
    obtain ⟨⟨paragraph, position⟩, ranked, rfl⟩ := List.mem_map.1 member
    have found := getElem?_of_mem_rankedParagraphs ranked
    exact ⟨paragraph, found, wellFormed.sentenceCount_paragraph (List.mem_of_getElem? found), rfl⟩
  sentenceSum := by
    simpa [analyze, Statistics.ofDocument, Function.comp_def] using sum_rankedParagraphs wellFormed
  letterLength := by
    have sentences := wellFormed.sentenceCount_eq
    simpa [analyze, sentenceLetters, Statistics.ofDocument] using sentences.symm
  vowelSum := documentLetters_eq_sum wellFormed noVowel (vowels_ofText grammar)
  consonantSum := by
    refine documentLetters_eq_sum wellFormed (fun c blank => ?_) (consonants_ofText grammar)
    rw [Grammar.isConsonant, noLetter c blank, Bool.false_and]
  noLength := longestWordLength?_eq_none_iff
  noSentence := by
    rw [analyze, longestWordLength?_eq_none_iff, List.map_eq_nil_iff,
      longestWordSentences_eq_nil_iff wellFormed]
  longest := by
    intro longest found
    refine ⟨(longestWordLength?_eq_some_iff.1 found).2, ?_⟩
    rw [← longestWordSentences_eq_filter found]
    rfl
  fewerParagraphs := countAll_withoutShortSentences_le document minWords .paragraph
  fewerSentences := countAll_withoutShortSentences_le document minWords .sentence
  fewerWords := countAll_withoutShortSentences_le document minWords .word
  duplicates := fun _ top => ⟨exists_mem_duplicateWords_iff top, fun _ isDuplicate same =>
    congrArg WordCount.count (eq_of_mem_duplicateWords top isDuplicate same)⟩

/-- The report on a document that was read under a built-in grammar is consistent with itself and with the
document, whatever the text, the schedule and the number of words that a sentence has to have. -/
theorem consistentWith_readDocument {language : BuiltIn}
    (accepted : Grammar.ofConfiguration language.configuration = .ok grammar) (schedule : Reading.Schedule)
    (text : Text) :
    ∃ reading, (Reading.standardChain grammar schedule).readDocument text = .ok reading ∧
      ∀ minWords, (analyze grammar reading.document minWords).ConsistentWith reading.document := by
  obtain ⟨letters, wordLetters, classes⟩ := Grammar.exists_classes accepted language.hasPlainLetters
  obtain ⟨paragraphs, gaps, read, placed⟩ := Reading.exists_readDocument classes schedule text
  have marksApart := BuiltIn.setsMarksApart accepted
  exact ⟨_, read, consistentWith_analyze (Reading.wellFormed_of_placed classes placed)
    (BuiltIn.isVowel_eq_false_of_isBlank accepted) fun _ => marksApart.isLetter_eq_false⟩

/-- An English text with two paragraphs, of which one is left without its sentence. -/
theorem consistentWith_readDocument_english :
    ∃ grammar reading, Grammar.ofConfiguration .english = .ok grammar ∧
      (Reading.standardChain grammar .sequential).readDocument "\tThe cat saw the dog. Go!\n\n\tThe end." =
        .ok reading ∧
      (analyze grammar reading.document 3).ConsistentWith reading.document ∧
      (analyze grammar reading.document 3).statistics = ⟨2, 3, 8⟩ ∧
      (analyze grammar reading.document 3).filteredStatistics = ⟨1, 1, 5⟩ := by
  obtain ⟨grammar, accepted⟩ := BuiltIn.english.exists_ofConfiguration
  obtain ⟨reading, read, consistent⟩ := consistentWith_readDocument accepted .sequential
    "\tThe cat saw the dog. Go!\n\n\tThe end."
  have counts : ((Reading.standardChain grammar .sequential).readDocument
      "\tThe cat saw the dog. Go!\n\n\tThe end.").toOption.map (fun reading =>
        ((analyze grammar reading.document 3).statistics,
          (analyze grammar reading.document 3).filteredStatistics)) = some (⟨2, 3, 8⟩, ⟨1, 1, 5⟩) :=
    Grammar.eq_of_computed accepted (fun grammar => ((Reading.standardChain grammar .sequential).readDocument
      "\tThe cat saw the dog. Go!\n\n\tThe end.").toOption.map fun reading =>
        ((analyze grammar reading.document 3).statistics,
          (analyze grammar reading.document 3).filteredStatistics)) (by decide +kernel)
  rw [read] at counts
  obtain ⟨statistics, filtered⟩ := Prod.mk.inj (Option.some.inj counts)
  exact ⟨grammar, reading, accepted, read, consistent 3, statistics, filtered⟩

end ProseTree.Analysis
