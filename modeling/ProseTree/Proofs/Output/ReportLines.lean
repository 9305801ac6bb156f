import ProseTree.Proofs.Analysis.Consistency
import ProseTree.Proofs.Analysis.Removal
import ProseTree.Proofs.Output.ReportTexts
import ProseTree.Proofs.Reading.SolidSentences
import ProseTree.Proofs.Text.LowerCase

/-!
# Reports have one line for every item

The texts in a report are rendered sentences and paragraphs, and words in lower case. None of them has a line
feed when the document was read and no white space is in the ellipsis, and the lines of the filtered document
are the paragraphs that are left. So a report has one line for every item of its sections. Only the name of
the input and the code of the language may have line feeds in them; these stand in front of all sections.
-/

namespace ProseTree

open ProseTree.Analysis (LetterCount ParagraphSummary Report SentenceLetters WordCount analyze
  withoutShortSentences)
open ProseTree.Language (ClassTables Configuration Grammar)
open ProseTree.Reading (IsSolidSentence Schedule standardChain)
open ProseTree.Text (splitAtFeeds)
open ProseTree.Tree (Document Paragraph)

namespace Analysis

/-- No text of a report has a line feed, its language apart. -/
structure Report.StaysOnLines (report : Report) : Prop where
  paragraphs : ∀ paragraph ∈ report.paragraphs, '\n' ∉ paragraph.text
  longest : ∀ sentence ∈ report.longestWordSentences, '\n' ∉ sentence
  duplicates : ∀ entry ∈ report.duplicateWords, '\n' ∉ entry.word
  topWords : ∀ entry ∈ report.topWords, '\n' ∉ entry.word
  letters : ∀ sentence ∈ report.letters, '\n' ∉ sentence.text

variable {grammar : Grammar} {document : Document}

/-- The words of a document of sentences without white space in their parts have no line feeds in lower
case. -/
theorem noFeed_of_mem_wordCounts (wellFormed : document.WellFormed grammar)
    (solid : ∀ sentence ∈ document.sentences, IsSolidSentence sentence.children) :
    ∀ entry ∈ wordCounts document, '\n' ∉ entry.word := by
  intro entry member
  obtain ⟨word, inDocument, same⟩ := exists_of_mem_wordCounts member
  rw [wellFormed.words_eq] at inDocument
  obtain ⟨sentence, isSentence, inSentence⟩ := List.mem_flatMap.1 inDocument
  have noBlank := (solid sentence isSentence).noBlank_words word inSentence
  rw [same]
  exact Text.noFeed_toLower (Text.HasOnlySpaces.of_noBlank noBlank).noFeed

/-- The report on a document of such sentences stays on its lines. -/
theorem staysOnLines_analyze (wellFormed : document.WellFormed grammar)
    (solid : ∀ sentence ∈ document.sentences, IsSolidSentence sentence.children) (minWords : Nat) :
    (analyze grammar document minWords).StaysOnLines := by
  have noFeedSentence : ∀ sentence ∈ document.sentences, '\n' ∉ sentence.text := fun sentence member =>
    (solid sentence member).hasOnlySpaces_text.noFeed
  have noFeedWord := noFeed_of_mem_wordCounts wellFormed solid
  constructor
  case paragraphs =>
    intro summary member
    obtain ⟨⟨paragraph, position⟩, ranked, rfl⟩ := List.mem_map.1 member
    have found := List.mem_of_getElem? (getElem?_of_mem_rankedParagraphs ranked)
    exact (Reading.hasOnlySpaces_paragraph wellFormed solid paragraph found).noFeed
  case longest =>
    refine List.forall_mem_map.2 fun sentence member => ?_
    unfold longestWordSentences at member
    split at member
    · cases member
    · exact noFeedSentence sentence (List.mem_filter.1 member).1
  case duplicates => exact fun entry member => noFeedWord entry (List.mem_filter.1 member).1
  case topWords => exact fun entry member => noFeedWord entry (mem_wordCounts_of_mem_frequentWords member)
  case letters =>
    refine List.forall_mem_map.2 fun ⟨sentence, index⟩ member => ?_
    exact noFeedSentence sentence (List.mem_of_getElem? (List.mem_zipIdx_iff_getElem?.1 member))

/-- The lines of the filtered text are the paragraphs that are left. -/
theorem filter_lines_filteredText (wellFormed : document.WellFormed grammar)
    (solid : ∀ sentence ∈ document.sentences, IsSolidSentence sentence.children) (minWords : Nat) :
    (Text.lines (analyze grammar document minWords).filteredText).filter (!·.isEmpty) =
      (withoutShortSentences document minWords).paragraphs.map Paragraph.text := by
  have keptFormed := wellFormed_withoutShortSentences wellFormed minWords
  refine Reading.filter_lines_text keptFormed fun sentence member => ?_
  rw [sentences_withoutShortSentences] at member
  exact solid sentence (List.mem_filter.1 member).1

/-- No paragraph that is left has a line feed. -/
theorem noFeed_of_mem_withoutShortSentences (wellFormed : document.WellFormed grammar)
    (solid : ∀ sentence ∈ document.sentences, IsSolidSentence sentence.children) (minWords : Nat) :
    ∀ paragraph ∈ (withoutShortSentences document minWords).paragraphs, '\n' ∉ paragraph.text := by
  intro paragraph member
  refine (Reading.hasOnlySpaces_paragraph (wellFormed_withoutShortSentences wellFormed minWords)
    (fun sentence inside => ?_) paragraph member).noFeed
  rw [sentences_withoutShortSentences] at inside
  exact solid sentence (List.mem_filter.1 inside).1

end Analysis

namespace Output

variable {report : Report} {kept : List Paragraph}

/-- A counted noun has no line feed in it, if the noun has none. -/
theorem noFeed_counted (number : Nat) {noun : Text} (noFeed : '\n' ∉ noun) : '\n' ∉ counted number noun := by
  rw [← plural_eq_counted]
  exact noFeed_plural number noFeed

namespace Plain

/-- The text of a word has no line feed, if the word has none. -/
theorem noFeed_wordText {entry : WordCount} (noFeed : '\n' ∉ entry.word) : '\n' ∉ wordText entry := by
  unfold wordText
  simp [noFeed, noFeed_ofNat]

/-- The text of a paragraph has no line feed, if its own has none. -/
theorem noFeed_paragraphText {paragraph : ParagraphSummary} (noFeed : '\n' ∉ paragraph.text) :
    '\n' ∉ paragraphText paragraph := by
  unfold paragraphText
  simp [noFeed_trimStart noFeed, noFeed_ofNat, noFeed_counted]

/-- The text of the letters of a sentence has no line feed, if the sentence has none. -/
theorem noFeed_letterText {sentence : SentenceLetters} (noFeed : '\n' ∉ sentence.text) :
    '\n' ∉ letterText sentence := by
  unfold letterText
  simp [noFeed, noFeed_ofNat]

/-- The texts of the duplicates have no line feed, if the words have none. -/
theorem noFeed_duplicateTexts {entries : List WordCount} (noFeed : ∀ entry ∈ entries, '\n' ∉ entry.word) :
    ∀ text ∈ duplicateTexts entries, '\n' ∉ text := by
  cases entries with
  | nil => decide
  | cons first others => exact List.forall_mem_map.2 fun entry member => noFeed_wordText (noFeed entry member)

/-- What a report says in front of items has no line feed. -/
theorem noFeed_titles (report : Report) : '\n' ∉ statisticsText report.statistics ∧
    '\n' ∉ longestText report.longestWordLength ∧ '\n' ∉ filteredText report ∧
    '\n' ∉ letterTotalText report.letterSummary := by
  unfold statisticsText longestText filteredText letterTotalText
  refine ⟨?_, ?_, ?_, ?_⟩
  · simp [noFeed_counted]
  · split
    · decide
    · simp [noFeed_ofNat]
  · simp [noFeed_counted]
  · simp [noFeed_counted]

/-- No text of the sections has a line feed. -/
theorem noFeed_sectionTexts (stays : report.StaysOnLines)
    (keptStays : ∀ paragraph ∈ kept, '\n' ∉ paragraph.text) :
    ∀ text ∈ sectionTexts report kept, '\n' ∉ text := by
  obtain ⟨statistics, longest, filtered, total⟩ := noFeed_titles report
  have isItem : ∀ {text}, '\n' ∉ text → '\n' ∉ itemText text := by
    intro text noFeed
    unfold itemText
    simp [noFeed]
  simp only [sectionTexts, List.forall_mem_append, List.forall_mem_cons, List.forall_mem_map, statistics, longest,
    filtered, total, not_false_eq_true, true_and, and_assoc, List.not_mem_nil, false_implies, implies_true,
    and_true]
  exact ⟨by decide, fun paragraph member => noFeed_paragraphText (stays.paragraphs paragraph member),
    fun sentence member => isItem (stays.longest sentence member),
    fun paragraph member => isItem (noFeed_trimStart (keptStays paragraph member)),
    by decide, noFeed_duplicateTexts stays.duplicates, by decide,
    fun entry member => noFeed_wordText (stays.topWords entry member), by decide,
    fun sentence member => noFeed_letterText (stays.letters sentence member)⟩

end Plain

namespace Markdown

/-- The cells of letters have no line feed, if the text has none. -/
theorem noFeed_letterCells {text : Text} (noFeed : '\n' ∉ text) (counts : LetterCount) :
    ∀ cell ∈ letterCells text counts, '\n' ∉ cell := by
  simp [letterCells, noFeed, noFeed_ofNat]

/-- The cells of a report have no line feed. -/
theorem noFeed_cells (stays : report.StaysOnLines) :
    (∀ paragraph ∈ report.paragraphs, ∀ cell ∈ paragraphCells paragraph, '\n' ∉ cell) ∧
      (∀ entry ∈ report.topWords, ∀ cell ∈ wordCells report entry, '\n' ∉ cell) ∧
      (∀ sentence ∈ report.letters, ∀ cell ∈ sentenceCells sentence, '\n' ∉ cell) ∧
      ∀ cell ∈ totalCells report, '\n' ∉ cell := by
  refine ⟨fun paragraph member => ?_, fun entry member => ?_,
    fun sentence member => noFeed_letterCells (stays.letters sentence member) _,
    noFeed_letterCells (by decide) _⟩
  · simp [paragraphCells, noFeed_ofNat, stays.paragraphs paragraph member]
  · have mark : '\n' ∉ duplicateText report entry := by
      unfold duplicateText
      split <;> decide
    simp [wordCells, noFeed_ofNat, stays.topWords entry member, mark]

/-- A table has no line feed, if its cells have none. -/
theorem noFeed_tableTexts {titles : List Text} {rows : List (List Text)}
    (noFeedTitles : ∀ title ∈ titles, '\n' ∉ title) (noFeed : ∀ row ∈ rows, ∀ cell ∈ row, '\n' ∉ cell) :
    ∀ text ∈ tableTexts titles rows, '\n' ∉ text := by
  have rules : '\n' ∉ rulesText titles := by
    simp [rulesText]
  refine List.forall_mem_cons.2 ⟨noFeed_rowText noFeedTitles, List.forall_mem_cons.2 ⟨rules, ?_⟩⟩
  exact List.forall_mem_map.2 fun row member => noFeed_rowText (noFeed row member)

/-- No text of the sections has a line feed. -/
theorem noFeed_sectionTexts (stays : report.StaysOnLines)
    (keptStays : ∀ paragraph ∈ kept, '\n' ∉ paragraph.text) :
    ∀ text ∈ sectionTexts report kept, '\n' ∉ text := by
  obtain ⟨paragraphs, words, sentences, total⟩ := noFeed_cells stays
  have longest : ∀ text ∈ longestTexts report.longestWordLength, '\n' ∉ text := by
    unfold longestTexts
    split
    · decide
    · simp [noFeed_counted]
  have filtered : '\n' ∉ filteredText report := by
    unfold filteredText
    simp [noFeed_counted]
  simp only [sectionTexts, List.forall_mem_append, List.forall_mem_cons, List.forall_mem_map, filtered,
    not_false_eq_true, true_and, and_assoc, List.not_mem_nil, false_implies, implies_true, and_true]
  exact ⟨by decide, noFeed_tableTexts (by decide) (List.forall_mem_map.2 paragraphs), by decide, longest,
    fun sentence member => by simp [sentenceText, stays.longest sentence member],
    fun paragraph member => by simp [keptText, noFeed_trim (keptStays paragraph member)],
    by decide, noFeed_tableTexts (by decide) (List.forall_mem_map.2 words), by decide,
    noFeed_tableTexts (by decide) (List.forall_mem_append.2 ⟨List.forall_mem_map.2 sentences, by simpa using total⟩)⟩

/-- Every row of the tables has its three cells, and so have the titles. -/
theorem hasCells_of_mem_allCells (report : Report) :
    ∀ texts ∈ allCells report, HasCells (rowText texts) texts := by
  simp only [allCells, List.forall_mem_append, List.forall_mem_cons, List.forall_mem_map, List.not_mem_nil,
    false_implies, implies_true, and_true]
  exact ⟨⟨⟨hasCells_rowText _ _ _, fun _ _ => hasCells_rowText _ _ _⟩, hasCells_rowText _ _ _,
    fun _ _ => hasCells_rowText _ _ _⟩, hasCells_rowText _ _ _, fun _ _ => hasCells_rowText _ _ _,
    hasCells_rowText _ _ _⟩

end Markdown

section Written

open Analysis (filter_lines_filteredText noFeed_of_mem_withoutShortSentences staysOnLines_analyze)

/-- Output with some texts of its own in front of texts without line feeds stands on the lines of those in
front, and one line for every other. -/
theorem splitAtFeeds_flatten_of_text_eq {lines : List Line} {front texts : List Text}
    (spelled : lines.map Line.text = front ++ texts) (noFeed : ∀ text ∈ texts, '\n' ∉ text) :
    splitAtFeeds (Line.allPieces lines).flatten = front.flatMap splitAtFeeds ++ texts ++ [[]] := by
  rw [Line.splitAtFeeds_flatten_allPieces, spelled, List.flatMap_append,
    Text.flatMap_splitAtFeeds_of_noFeed noFeed]

variable {grammar : Grammar} {document : Document}

/-- No sentence is listed for the longest word where there is none. -/
theorem longestWordSentences_eq_nil {minWords : Nat}
    (noLength : (analyze grammar document minWords).longestWordLength = none) :
    (analyze grammar document minWords).longestWordSentences = [] := by
  have nothing : Analysis.longestWordLength? document = none := noLength
  rw [analyze, Analysis.longestWordSentences, nothing, List.map_nil]

/-- A report has one line for every item of its sections, as text and in Markdown, and on it the text of this
item; and every row of its tables has four bare pipes with the trimmed texts of the cells between them. This goes
for every document that was read under a grammar of plain letters without white space in its ellipsis. -/
theorem reports_have_one_line_per_item [ClassTables] {configuration : Configuration} {grammar : Grammar}
    (accepted : Grammar.ofConfiguration configuration = .ok grammar)
    (plain : configuration.HasPlainLetters) (ellipsis : ∀ c ∈ grammar.ellipsis, Text.isBlank c = false)
    (schedule : Schedule) (text : Text) :
    ∃ reading, (standardChain grammar schedule).readDocument text = .ok reading ∧
      ∀ (minWords : Nat) (source : Text) (before : Nat),
        let report := analyze grammar reading.document minWords
        let kept := (withoutShortSentences reading.document minWords).paragraphs
        (∃ pieces, (Session.text before).report source report = .ok (pieces, .text (before + 1)) ∧
          splitAtFeeds pieces.flatten = (if before = 0 then [] else [[]]) ++
            splitAtFeeds (Plain.firstText report source) ++ Plain.sectionTexts report kept ++ [[]]) ∧
        (∃ pieces, (Session.markdown before).report source report =
            .ok (pieces, .markdown (before + report.statistics.sentences)) ∧
          splitAtFeeds pieces.flatten = splitAtFeeds (Markdown.firstText source) ++ [] ::
            splitAtFeeds (Markdown.statisticsText report) ++ Markdown.sectionTexts report kept ++ [[]]) ∧
        (∀ cells ∈ Markdown.allCells report, Markdown.HasCells (Markdown.rowText cells) cells) ∧
        ∀ titles ∈ [Markdown.paragraphTitles, Markdown.wordTitles, Markdown.letterTitles],
          Markdown.barePipes false (Markdown.rulesText titles) = 4 := by
  obtain ⟨letters, wordLetters, classes⟩ := Grammar.exists_classes accepted plain
  obtain ⟨reading, read, wellFormed⟩ : ∃ reading,
      (standardChain grammar schedule).readDocument text = .ok reading ∧
        reading.document.WellFormed grammar := by
    obtain ⟨paragraphs, gaps, read, placed⟩ := Reading.exists_readDocument classes schedule text
    exact ⟨_, read, Reading.wellFormed_of_placed classes placed⟩
  have solid := Reading.isSolidSentence_of_readDocument classes ellipsis read
  refine ⟨reading, read, fun minWords source before => ?_⟩
  have stays := staysOnLines_analyze wellFormed solid minWords
  have keptStays := noFeed_of_mem_withoutShortSentences wellFormed solid minWords
  have lines := filter_lines_filteredText wellFormed solid minWords
  refine ⟨⟨_, rfl, ?_⟩, ⟨_, rfl, ?_⟩, Markdown.hasCells_of_mem_allCells _, by decide⟩
  · have separated : (Session.separator before).map Line.text = if before = 0 then [] else [[]] := by
      unfold Session.separator
      split <;> rfl
    have spelled : (Session.separator before ++
        Plain.reportLines source (analyze grammar reading.document minWords)).map Line.text =
          ((if before = 0 then [] else [[]]) ++
            [Plain.firstText (analyze grammar reading.document minWords) source]) ++
          Plain.sectionTexts (analyze grammar reading.document minWords)
            (withoutShortSentences reading.document minWords).paragraphs := by
      rw [List.map_append, separated, Plain.text_reportLines source longestWordSentences_eq_nil lines,
        List.append_assoc]
      rfl
    have blank : (if before = 0 then [] else [[]] : List Text).flatMap splitAtFeeds =
        if before = 0 then [] else [[]] := by
      split <;> rfl
    rw [splitAtFeeds_flatten_of_text_eq spelled (Plain.noFeed_sectionTexts stays keptStays),
      List.flatMap_append, blank, List.flatMap_singleton]
  · have spelled := Markdown.text_reportLines source longestWordSentences_eq_nil lines
    rw [splitAtFeeds_flatten_of_text_eq spelled (Markdown.noFeed_sectionTexts stays keptStays)]
    simp [List.flatMap_cons, splitAtFeeds, Text.splitWhere]

/-- An English text of two paragraphs, of which the second is left without its sentence. -/
theorem reports_have_one_line_per_item_english :
    ∃ grammar reading pieces rows, Grammar.ofConfiguration .english = .ok grammar ∧
      (standardChain grammar .sequential).readDocument "\tThe cat saw (the) dog. Go!\n\n\tThe end..." =
        .ok reading ∧
      (Session.text 0).report "a.txt" (analyze grammar reading.document 3) = .ok (pieces, .text 1) ∧
      splitAtFeeds pieces.flatten =
        splitAtFeeds (Plain.firstText (analyze grammar reading.document 3) "a.txt") ++
          Plain.sectionTexts (analyze grammar reading.document 3)
            (withoutShortSentences reading.document 3).paragraphs ++ [[]] ∧
      (Session.markdown 0).report "a.txt" (analyze grammar reading.document 3) = .ok (rows, .markdown 3) ∧
      splitAtFeeds rows.flatten = splitAtFeeds (Markdown.firstText "a.txt") ++ [] ::
        splitAtFeeds (Markdown.statisticsText (analyze grammar reading.document 3)) ++
          Markdown.sectionTexts (analyze grammar reading.document 3)
            (withoutShortSentences reading.document 3).paragraphs ++ [[]] := by
  obtain ⟨grammar, accepted⟩ := Language.BuiltIn.english.exists_ofConfiguration
  have ellipsis := (Language.BuiltIn.setsMarksApart accepted).solid.ellipsis
  obtain ⟨reading, read, each⟩ := reports_have_one_line_per_item accepted
    Language.BuiltIn.english.hasPlainLetters ellipsis .sequential
    "\tThe cat saw (the) dog. Go!\n\n\tThe end..."
  have counted : ((standardChain grammar .sequential).readDocument
      "\tThe cat saw (the) dog. Go!\n\n\tThe end...").toOption.map
        (fun reading => (analyze grammar reading.document 3).statistics.sentences) = some 3 :=
    Grammar.eq_of_computed accepted (fun grammar => ((standardChain grammar .sequential).readDocument
      "\tThe cat saw (the) dog. Go!\n\n\tThe end...").toOption.map
        fun reading => (analyze grammar reading.document 3).statistics.sentences) (by decide +kernel)
  rw [read] at counted
  have three : (analyze grammar reading.document 3).statistics.sentences = 3 := Option.some.inj counted
  obtain ⟨⟨pieces, reported, lines⟩, ⟨rows, tabled, tableLines⟩, -⟩ := each 3 "a.txt" 0
  rw [three] at tabled
  exact ⟨grammar, reading, pieces, rows, accepted, read, reported, lines, tabled, tableLines⟩

end Written

end Output

end ProseTree
