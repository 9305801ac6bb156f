import ProseTree.Analysis.Report
import ProseTree.Output.Line
import ProseTree.Output.Plural

/-!
# Markdown

A read input as a list of its sentences, numbered on from the input before, and a report as sections
with tables. In a table cell every pipe is written after a backslash.
-/

namespace ProseTree.Output.Markdown

open ProseTree.Analysis (LetterCount ParagraphSummary Report SentenceLetters WordCount)
open ProseTree.Tree (Document Paragraph)

/-- A table cell: trimmed, with a backslash before each pipe. -/
def cell (text : Text) : Text :=
  (Text.trim text).flatMap fun c => if c == '|' then ['\\', '|'] else [c]

/-- A table row with three cells that are already escaped. -/
def row (first second third : Text) : Line :=
  [.fixed "| ", .value first, .fixed " | ", .value second, .fixed " | ", .value third, .fixed " |"]

/-- The sentences of a paragraph, numbered from `start` on. -/
def numbered (start : Nat) (paragraph : Paragraph) : List Line :=
  paragraph.sentences.zipIdx.map fun (sentence, index) =>
    [.value (Text.ofNat (start + index)), .fixed ". ", .value sentence.text]

/-- The numbered sentences of paragraphs, with an empty line between paragraphs. -/
def numberedParagraphs (start : Nat) : List Paragraph → List Line
  | [] => []
  | [paragraph] => numbered start paragraph
  | paragraph :: others =>
    numbered start paragraph ++ [] :: numberedParagraphs (start + paragraph.sentences.length) others

/-- The lines of a read input after so many sentences. -/
def documentLines (sentencesBefore : Nat) (source : Text) (document : Document) : List Line :=
  [.fixed "## ", .value source] :: [] ::
    (numberedParagraphs (sentencesBefore + 1) document.paragraphs ++ [[]])

/-- The row of one paragraph. -/
def paragraphRow (paragraph : ParagraphSummary) : Line :=
  row (Text.ofNat (paragraph.position + 1)) (Text.ofNat paragraph.sentences) (cell paragraph.text)

/-- The lines about the longest word. -/
def longestLines (report : Report) : List Line :=
  match report.longestWordLength with
  | none => [[.fixed "*No words found*"]]
  | some length =>
    [.value (plural length "character"), .fixed " long, found in:"] :: [] ::
      report.longestWordSentences.map fun sentence => [.fixed "- ", .value sentence]

/-- The quoted lines of the document without its short sentences. -/
def filteredLines (report : Report) : List Line :=
  ((Text.lines report.filteredText).filter (!·.isEmpty)).map fun line =>
    [.fixed "> ", .value (Text.trim line)]

/-- The row of one word. -/
def wordRow (report : Report) (entry : WordCount) : Line :=
  row (cell entry.word) (Text.ofNat entry.count)
    (if report.duplicateWords.any (·.word == entry.word) then "yes" else "no")

/-- The row of the letters of one sentence. -/
def letterRow (sentence : SentenceLetters) : Line :=
  row (cell sentence.text) (Text.ofNat sentence.counts.vowels)
    (Text.ofNat sentence.counts.consonants)

/-- The row of the letters of the document. -/
def letterTotalRow (counts : LetterCount) : Line :=
  [.fixed "| **Total** | ", .value (Text.ofNat counts.vowels), .fixed " | ",
    .value (Text.ofNat counts.consonants), .fixed " |"]

/-- The lines at the start of a report. -/
def titleLines (source : Text) (report : Report) : List Line :=
  [[.fixed "# Analysis of ", .value source],
    [],
    [.fixed "Language `", .value report.language, .fixed "`: ",
      .value (plural report.statistics.paragraphs "paragraph"), .fixed ", ",
      .value (plural report.statistics.sentences "sentence"), .fixed ", ",
      .value (plural report.statistics.words "word"), .fixed "."]]

/-- A section: an empty line, its title, an empty line and its content. -/
def titled (title : Line) (content : List Line) : List Line :=
  [] :: title :: [] :: content

/-- The two lines at the start of a table with the given titles and rules, and its rows. -/
def table (titles rules : Text) (rows : List Line) : List Line :=
  [.fixed titles] :: [.fixed rules] :: rows

/-- The lines of a report. -/
def reportLines (source : Text) (report : Report) : List Line :=
  titleLines source report ++
    titled [.fixed "## Paragraphs by sentence count"]
      (table "| # | Sentences | Text |" "|---|-----------|------|"
        (report.paragraphs.map paragraphRow)) ++
    titled [.fixed "## Longest word"] (longestLines report) ++
    titled [.fixed "## Sentences with at least ", .value (plural report.minWords "word")]
      (filteredLines report) ++
    titled [.fixed "## Word frequency"]
      (table "| Word | Count | Duplicate |" "|------|-------|-----------|"
        (report.topWords.map (wordRow report))) ++
    titled [.fixed "## Vowels and consonants"]
      (table "| Sentence | Vowels | Consonants |" "|----------|--------|------------|"
        (report.letters.map letterRow ++ [letterTotalRow report.letterSummary])) ++
    [[]]

/-- The lines after all inputs. -/
def closingLines (sentences : Nat) : List Line :=
  [[.fixed "---"], [.fixed "*Total sentences: ", .value (Text.ofNat sentences), .fixed "*"]]

end ProseTree.Output.Markdown
