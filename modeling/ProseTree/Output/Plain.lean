import ProseTree.Analysis.Report
import ProseTree.Output.Line
import ProseTree.Output.Plural

/-!
# Plain text

A read input as its normalized text, and a report as plain lines in titled sections.
-/

namespace ProseTree.Output.Plain

open ProseTree.Analysis (LetterCount ParagraphSummary Report SentenceLetters WordCount)

/-- The line of the three statistics. -/
def statisticsLine (statistics : Analysis.Statistics) : Line :=
  [.value (plural statistics.paragraphs "paragraph"), .fixed ", ",
    .value (plural statistics.sentences "sentence"), .fixed ", ",
    .value (plural statistics.words "word")]

/-- The line of one paragraph. -/
def paragraphLine (paragraph : ParagraphSummary) : Line :=
  [.fixed "  #", .value (Text.ofNat (paragraph.position + 1)), .fixed " (",
    .value (plural paragraph.sentences "sentence"), .fixed "): ",
    .value (Text.trimStart paragraph.text)]

/-- The line of a text below a title. -/
def itemLine (text : Text) : Line :=
  [.fixed "  ", .value text]

/-- The lines about the longest word. -/
def longestLines (report : Report) : List Line :=
  match report.longestWordLength with
  | none => [[.fixed "No words found"]]
  | some length =>
    [.fixed "Sentences with the longest word (", .value (Text.ofNat length),
        .fixed " characters):"] ::
      report.longestWordSentences.map itemLine

/-- The lines of the document without its short sentences. -/
def filteredLines (report : Report) : List Line :=
  [.fixed "Without sentences under ", .value (plural report.minWords "word"), .fixed ": ",
      .value (plural report.filteredStatistics.sentences "sentence"), .fixed " in ",
      .value (plural report.filteredStatistics.paragraphs "paragraph")] ::
    ((Text.lines report.filteredText).filter (!·.isEmpty)).map (itemLine <| Text.trimStart ·)

/-- The line of one word. -/
def wordLine (entry : WordCount) : Line :=
  [.fixed "  ", .value entry.word, .fixed ": ", .value (Text.ofNat entry.count)]

/-- The lines of the words that occur more than once. -/
def duplicateLines (report : Report) : List Line :=
  [.fixed "Duplicate words:"] ::
    if report.duplicateWords.isEmpty then [[.fixed "  (none)"]]
    else report.duplicateWords.map wordLine

/-- The line of the letters of one sentence. -/
def letterLine (sentence : SentenceLetters) : Line :=
  [.fixed "  ", .value (Text.ofNat sentence.counts.vowels), .fixed "/",
    .value (Text.ofNat sentence.counts.consonants), .fixed " ", .value sentence.text]

/-- The line of the letters of the document. -/
def letterTotalLine (counts : LetterCount) : Line :=
  [.fixed "  total: ", .value (plural counts.vowels "vowel"), .fixed ", ",
    .value (plural counts.consonants "consonant")]

/-- The lines of a report. -/
def reportLines (source : Text) (report : Report) : List Line :=
  [[.fixed "Report for ", .value source, .fixed " (", .value report.language, .fixed ")"],
      statisticsLine report.statistics, [], [.fixed "Paragraphs by sentence count:"]] ++
    report.paragraphs.map paragraphLine ++
    [] :: longestLines report ++
    [] :: filteredLines report ++
    [] :: duplicateLines report ++
    [] :: [.fixed "Most frequent words:"] :: report.topWords.map wordLine ++
    [] :: [.fixed "Vowels and consonants:"] :: report.letters.map letterLine ++
    [letterTotalLine report.letterSummary]

end ProseTree.Output.Plain
