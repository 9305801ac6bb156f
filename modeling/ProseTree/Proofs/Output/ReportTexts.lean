import ProseTree.Output.Session
import ProseTree.Proofs.Output.TableRows

/-!
# The texts of reports

A report says how it is written: every item of its sections has a text of its own, which tells what the report
holds about the item. As text the items stand in indented lines, in Markdown in the rows of tables, in lists and
in quotations. The lines of a report are these texts, section by section.
-/

namespace ProseTree.Output

open ProseTree.Analysis (LetterCount ParagraphSummary Report SentenceLetters Statistics WordCount)
open ProseTree.Tree (Paragraph)

/-- A number and a noun, which ends in an `s` unless the number is one. -/
def counted (number : Nat) (noun : Text) : Text :=
  Text.ofNat number ++ ' ' :: if number = 1 then noun else noun ++ ['s']

/-- Counted nouns are written with this ending. -/
theorem plural_eq_counted : plural = counted := by
  funext number noun
  rw [plural, counted, List.append_assoc, List.append_assoc]
  by_cases single : number = 1
  · rw [if_pos single, if_pos single, List.append_nil]
    rfl
  · rw [if_neg single, if_neg single]
    rfl

namespace Plain

section Texts

variable (report : Report)

/-- The name of the input and the language. -/
def firstText (source : Text) : Text :=
  "Report for " ++ source ++ " (" ++ report.language ++ ")"

/-- How many paragraphs, sentences and words there are. -/
def statisticsText (statistics : Statistics) : Text :=
  counted statistics.paragraphs "paragraph" ++ ", " ++
    counted statistics.sentences "sentence" ++ ", " ++ counted statistics.words "word"

/-- A paragraph with its place and its number of sentences. -/
def paragraphText (paragraph : ParagraphSummary) : Text :=
  "  #" ++ Text.ofNat (paragraph.position + 1) ++ " (" ++
    counted paragraph.sentences "sentence" ++ "): " ++ Text.trimStart paragraph.text

/-- How long the longest word is. -/
def longestText : Option Nat → Text
  | none => "No words found"
  | some length => "Sentences with the longest word (" ++ Text.ofNat length ++ " characters):"

/-- A sentence, or a paragraph that is left. -/
def itemText (text : Text) : Text :=
  "  " ++ text

/-- How much is left without short sentences. -/
def filteredText : Text :=
  "Without sentences under " ++ counted report.minWords "word" ++ ": " ++
    counted report.filteredStatistics.sentences "sentence" ++ " in " ++
    counted report.filteredStatistics.paragraphs "paragraph"

/-- A word and how often it occurs. -/
def wordText (entry : WordCount) : Text :=
  "  " ++ entry.word ++ ": " ++ Text.ofNat entry.count

/-- The words that occur more than once, or that there are none. -/
def duplicateTexts : List WordCount → List Text
  | [] => ["  (none)"]
  | first :: others => (first :: others).map wordText

/-- The vowels and consonants of a sentence. -/
def letterText (sentence : SentenceLetters) : Text :=
  "  " ++ Text.ofNat sentence.counts.vowels ++ "/" ++ Text.ofNat sentence.counts.consonants ++ " " ++
    sentence.text

/-- The vowels and consonants of the document. -/
def letterTotalText (counts : LetterCount) : Text :=
  "  total: " ++ counted counts.vowels "vowel" ++ ", " ++
    counted counts.consonants "consonant"

/-- The sections of a report, of which each has one text for every item behind its title. -/
def sectionTexts (kept : List Paragraph) : List Text :=
  [statisticsText report.statistics] ++
    [[], "Paragraphs by sentence count:"] ++ report.paragraphs.map paragraphText ++
    [[], longestText report.longestWordLength] ++ report.longestWordSentences.map itemText ++
    [[], filteredText report] ++ kept.map (fun paragraph => itemText (Text.trimStart paragraph.text)) ++
    [[], "Duplicate words:"] ++ duplicateTexts report.duplicateWords ++
    [[], "Most frequent words:"] ++ report.topWords.map wordText ++
    [[], "Vowels and consonants:"] ++ report.letters.map letterText ++ [letterTotalText report.letterSummary]

end Texts

end Plain

namespace Markdown

section Texts

variable (report : Report)

/-- The name of the input. -/
def firstText (source : Text) : Text :=
  "# Analysis of " ++ source

/-- The language, and how many paragraphs, sentences and words there are. -/
def statisticsText : Text :=
  "Language `" ++ report.language ++ "`: " ++
    counted report.statistics.paragraphs "paragraph" ++ ", " ++
    counted report.statistics.sentences "sentence" ++ ", " ++
    counted report.statistics.words "word" ++ "."

/-- The titles of the table of paragraphs. -/
def paragraphTitles : List Text :=
  ["#", "Sentences", "Text"]

/-- The cells of a paragraph, with its place and its number of sentences. -/
def paragraphCells (paragraph : ParagraphSummary) : List Text :=
  [Text.ofNat (paragraph.position + 1), Text.ofNat paragraph.sentences, paragraph.text]

/-- How long the longest word is, and in front of sentences an empty line. -/
def longestTexts : Option Nat → List Text
  | none => ["*No words found*"]
  | some length => [counted length "character" ++ " long, found in:", []]

/-- A sentence with the longest word. -/
def sentenceText (sentence : Text) : Text :=
  "- " ++ sentence

/-- How many words a sentence needs to be left. -/
def filteredText : Text :=
  "## Sentences with at least " ++ counted report.minWords "word"

/-- A paragraph that is left. -/
def keptText (paragraph : Paragraph) : Text :=
  "> " ++ Text.trim paragraph.text

/-- The titles of the table of words. -/
def wordTitles : List Text :=
  ["Word", "Count", "Duplicate"]

/-- Whether a word is among the duplicates. -/
def duplicateText (entry : WordCount) : Text :=
  if entry.word ∈ report.duplicateWords.map WordCount.word then "yes" else "no"

/-- The cells of a word, with how often it occurs, and whether it is a duplicate. -/
def wordCells (entry : WordCount) : List Text :=
  [entry.word, Text.ofNat entry.count, duplicateText report entry]

/-- The titles of the table of letters. -/
def letterTitles : List Text :=
  ["Sentence", "Vowels", "Consonants"]

/-- The cells of a text, with its vowels and consonants. -/
def letterCells (text : Text) (counts : LetterCount) : List Text :=
  [text, Text.ofNat counts.vowels, Text.ofNat counts.consonants]

/-- The cells of a sentence. -/
def sentenceCells (sentence : SentenceLetters) : List Text :=
  letterCells sentence.text sentence.counts

/-- The cells of the document. -/
def totalCells : List Text :=
  letterCells "**Total**" report.letterSummary

/-- The sections of a report, of which each has one text for every item behind its title. -/
def sectionTexts (kept : List Paragraph) : List Text :=
  [[], "## Paragraphs by sentence count", []] ++
      tableTexts paragraphTitles (report.paragraphs.map paragraphCells) ++
    [[], "## Longest word", []] ++ longestTexts report.longestWordLength ++
      report.longestWordSentences.map sentenceText ++
    [[], filteredText report, []] ++ kept.map keptText ++
    [[], "## Word frequency", []] ++ tableTexts wordTitles (report.topWords.map (wordCells report)) ++
    [[], "## Vowels and consonants", []] ++
      tableTexts letterTitles (report.letters.map sentenceCells ++ [totalCells report]) ++
    [[]]

/-- The cells of all rows of the three tables, with their titles. -/
def allCells : List (List Text) :=
  paragraphTitles :: report.paragraphs.map paragraphCells ++
    wordTitles :: report.topWords.map (wordCells report) ++
    letterTitles :: (report.letters.map sentenceCells ++ [totalCells report])

end Texts

end Markdown

namespace Plain

section Lines

variable {report : Report} {kept : List Paragraph}

/-- The line of the statistics is written as their text. -/
theorem text_statisticsLine (statistics : Statistics) :
    (statisticsLine statistics).text = statisticsText statistics := by
  unfold statisticsLine statisticsText
  simp only [Line.text_cons, Line.text_nil, Part.text, plural_eq_counted, List.append_assoc, List.append_nil]

/-- The line of a paragraph is written as its text. -/
theorem text_paragraphLine (paragraph : ParagraphSummary) :
    (paragraphLine paragraph).text = paragraphText paragraph := by
  unfold paragraphLine paragraphText
  simp only [Line.text_cons, Line.text_nil, Part.text, plural_eq_counted, List.append_assoc, List.append_nil]

/-- The line of the second paragraph of a text. -/
example : (paragraphLine ⟨1, 1, "    Yes!"⟩).text = "  #2 (1 sentence): Yes!".toList := by
  decide

/-- The line below a title is written as the text of an item. -/
theorem text_itemLine (text : Text) : (itemLine text).text = itemText text := by
  unfold itemLine itemText
  simp only [Line.text_cons, Line.text_nil, Part.text, List.append_nil]

/-- The line of a word is written as its text. -/
theorem text_wordLine (entry : WordCount) : (wordLine entry).text = wordText entry := by
  unfold wordLine wordText
  simp only [Line.text_cons, Line.text_nil, Part.text, List.append_assoc, List.append_nil]

/-- The line of the letters of a sentence is written as their text. -/
theorem text_letterLine (sentence : SentenceLetters) : (letterLine sentence).text = letterText sentence := by
  unfold letterLine letterText
  simp only [Line.text_cons, Line.text_nil, Part.text, List.append_assoc, List.append_nil]

/-- The line of all letters is written as their text. -/
theorem text_letterTotalLine (counts : LetterCount) :
    (letterTotalLine counts).text = letterTotalText counts := by
  unfold letterTotalLine letterTotalText
  simp only [Line.text_cons, Line.text_nil, Part.text, plural_eq_counted, List.append_assoc, List.append_nil]

/-- The lines about the longest word are written as its length and the sentences. -/
theorem text_longestLines (noLength : report.longestWordLength = none → report.longestWordSentences = []) :
    (longestLines report).map Line.text =
      longestText report.longestWordLength :: report.longestWordSentences.map itemText := by
  unfold longestLines longestText
  cases found : report.longestWordLength with
  | none =>
    rw [noLength found]
    rfl
  | some length =>
    simp only [List.map_cons, List.map_map, Function.comp_def, text_itemLine, Line.text_cons, Line.text_nil,
      Part.text, List.append_assoc, List.append_nil]

/-- The lines of the filtered document are written as its size and the paragraphs that are left. -/
theorem text_filteredLines
    (lines : (Text.lines report.filteredText).filter (!·.isEmpty) = kept.map Paragraph.text) :
    (filteredLines report).map Line.text = filteredText report ::
      kept.map fun paragraph => itemText (Text.trimStart paragraph.text) := by
  unfold filteredLines filteredText
  rw [lines]
  simp only [List.map_cons, List.map_map, Function.comp_def, text_itemLine, Line.text_cons, Line.text_nil,
    Part.text, plural_eq_counted, List.append_assoc, List.append_nil]

/-- The lines of the duplicates are written as a title and their texts. -/
theorem text_duplicateLines :
    (duplicateLines report).map Line.text = "Duplicate words:".toList :: duplicateTexts report.duplicateWords := by
  unfold duplicateLines
  cases report.duplicateWords with
  | nil => rfl
  | cons first others =>
    simp only [List.isEmpty_cons, Bool.false_eq_true, if_false, duplicateTexts, List.map_cons, List.map_map,
      Function.comp_def, text_wordLine, Line.text_cons, Line.text_nil, Part.text, List.append_nil]

/-- A report is written as its first line and its sections. -/
theorem text_reportLines (source : Text) (noLength : report.longestWordLength = none →
      report.longestWordSentences = [])
    (lines : (Text.lines report.filteredText).filter (!·.isEmpty) = kept.map Paragraph.text) :
    (reportLines source report).map Line.text = firstText report source :: sectionTexts report kept := by
  unfold reportLines sectionTexts firstText
  simp only [List.map_append, List.map_cons, List.map_nil, List.map_map, Function.comp_def,
    text_statisticsLine, text_paragraphLine, text_longestLines noLength, text_filteredLines lines,
    text_duplicateLines, text_wordLine, text_letterLine, text_letterTotalLine,
    Line.text_cons, Line.text_nil, Part.text, List.append_assoc, List.append_nil, List.cons_append,
    List.nil_append]

end Lines

end Plain

namespace Markdown

section Lines

variable {report : Report} {kept : List Paragraph}

/-- A row is written with its cells, if these are written in it. -/
theorem text_row {first second third firstCell secondCell thirdCell : Text} (isFirst : firstCell = cellText first)
    (isSecond : secondCell = cellText second) (isThird : thirdCell = cellText third) :
    (row firstCell secondCell thirdCell).text = rowText [first, second, third] := by
  subst isFirst isSecond isThird
  simp [row, rowText, Line.text, Part.text]

/-- The row of a paragraph is written with its cells. -/
theorem text_paragraphRow (paragraph : ParagraphSummary) :
    (paragraphRow paragraph).text = rowText (paragraphCells paragraph) :=
  text_row (cellText_ofNat _).symm (cellText_ofNat _).symm rfl

/-- A pipe in a paragraph is escaped. -/
example : (paragraphRow ⟨1, 1, "    Yes|no!"⟩).text = "| 2 | 1 | Yes\\|no! |".toList := by
  decide

/-- The row of a word is written with its cells. -/
theorem text_wordRow (entry : WordCount) : (wordRow report entry).text = rowText (wordCells report entry) := by
  refine text_row rfl (cellText_ofNat _).symm ?_
  have same : report.duplicateWords.any (·.word == entry.word) = true ↔
      entry.word ∈ report.duplicateWords.map WordCount.word := by
    simp [List.any_eq_true]
  unfold duplicateText
  by_cases duplicate : entry.word ∈ report.duplicateWords.map WordCount.word
  · rw [if_pos (same.2 duplicate), if_pos duplicate]
    rfl
  · rw [if_neg fun marked => duplicate (same.1 marked), if_neg duplicate]
    rfl

/-- The row of the letters of a sentence is written with its cells. -/
theorem text_letterRow (sentence : SentenceLetters) :
    (letterRow sentence).text = rowText (sentenceCells sentence) :=
  text_row rfl (cellText_ofNat _).symm (cellText_ofNat _).symm

/-- The row of all letters is written with its cells. -/
theorem text_letterTotalRow : (letterTotalRow report.letterSummary).text = rowText (totalCells report) := by
  have spelled : (letterTotalRow report.letterSummary).text = (row "**Total**"
      (Text.ofNat report.letterSummary.vowels) (Text.ofNat report.letterSummary.consonants)).text := by
    simp [letterTotalRow, row, Line.text, Part.text]
  rw [spelled]
  exact text_row rfl (cellText_ofNat _).symm (cellText_ofNat _).symm

/-- The lines about the longest word are written as its length and the sentences. -/
theorem text_longestLines (noLength : report.longestWordLength = none → report.longestWordSentences = []) :
    (longestLines report).map Line.text =
      longestTexts report.longestWordLength ++ report.longestWordSentences.map sentenceText := by
  have isSentence : ∀ sentence, Line.text [.fixed "- ", .value sentence] = sentenceText sentence := by
    intro sentence
    unfold sentenceText
    simp only [Line.text_cons, Line.text_nil, Part.text, List.append_nil]
  unfold longestLines longestTexts
  cases found : report.longestWordLength with
  | none =>
    rw [noLength found]
    rfl
  | some length =>
    simp only [List.map_cons, List.map_map, Function.comp_def, isSentence, Line.text_cons, Line.text_nil,
      Part.text, plural_eq_counted, List.append_nil, List.cons_append, List.nil_append]

/-- The lines of the filtered document are written as the paragraphs that are left. -/
theorem text_filteredLines
    (lines : (Text.lines report.filteredText).filter (!·.isEmpty) = kept.map Paragraph.text) :
    (filteredLines report).map Line.text = kept.map keptText := by
  unfold filteredLines keptText
  rw [lines]
  simp only [List.map_map, Function.comp_def, Line.text_cons, Line.text_nil, Part.text, List.append_nil]

/-- A report is written as its first line, the line of its statistics and its sections. -/
theorem text_reportLines (source : Text) (noLength : report.longestWordLength = none →
      report.longestWordSentences = [])
    (lines : (Text.lines report.filteredText).filter (!·.isEmpty) = kept.map Paragraph.text) :
    (reportLines source report).map Line.text =
      [firstText source, [], statisticsText report] ++ sectionTexts report kept := by
  unfold reportLines titleLines titled table sectionTexts tableTexts firstText statisticsText filteredText
  simp only [List.map_append, List.map_cons, List.map_nil, List.map_map, Function.comp_def,
    text_longestLines noLength, text_filteredLines lines, text_paragraphRow, text_wordRow, text_letterRow,
    text_letterTotalRow, Line.text_cons, Line.text_nil, Part.text, plural_eq_counted, List.append_assoc,
    List.append_nil, List.cons_append, List.nil_append]
  rfl

end Lines

end Markdown

end ProseTree.Output
