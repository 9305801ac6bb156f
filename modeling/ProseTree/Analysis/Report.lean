import ProseTree.Analysis.Letters
import ProseTree.Analysis.Structure
import ProseTree.Analysis.Words

/-!
# Reports

A report holds the results of every analysis of one document.
-/

namespace ProseTree.Analysis

open ProseTree.Language (Grammar)
open ProseTree.Tree (Document)

/-- How many paragraphs, sentences and words a document has. -/
structure Statistics where
  paragraphs : Nat
  sentences : Nat
  words : Nat
  deriving DecidableEq, Repr

/-- The statistics of a document. -/
def Statistics.ofDocument (document : Document) : Statistics :=
  ⟨document.paragraphCount, document.sentenceCount, document.wordCount⟩

/-- A paragraph in a report: its position, its number of sentences and its text. -/
structure ParagraphSummary where
  position : Nat
  sentences : Nat
  text : Text
  deriving DecidableEq, Repr

/-- The results of every analysis of one document. -/
structure Report where
  language : Text
  statistics : Statistics
  paragraphs : List ParagraphSummary
  longestWordLength : Option Nat
  longestWordSentences : List Text
  minWords : Nat
  filteredStatistics : Statistics
  filteredText : Text
  duplicateWords : List WordCount
  topWords : List WordCount
  letters : List SentenceLetters
  letterSummary : LetterCount

/-- How many of the most frequent words a report lists. -/
def topWordLimit : Nat :=
  10

/-- The report on a document, with sentences of fewer than `minWords` words removed in the filtered
view. -/
def analyze (grammar : Grammar) (document : Document) (minWords : Nat) : Report where
  language := grammar.code
  statistics := .ofDocument document
  paragraphs := (rankedParagraphs document).map fun (paragraph, position) =>
    ⟨position, paragraph.sentenceCount, paragraph.text⟩
  longestWordLength := longestWordLength? document
  longestWordSentences := (longestWordSentences document).map (·.text)
  minWords := minWords
  filteredStatistics := .ofDocument (withoutShortSentences document minWords)
  filteredText := (withoutShortSentences document minWords).text
  duplicateWords := duplicateWords document
  topWords := frequentWords document topWordLimit
  letters := sentenceLetters grammar document
  letterSummary := documentLetters grammar document

end ProseTree.Analysis
