import ProseTree.Text.Case
import ProseTree.Tree.Document

/-!
# Word frequencies

How often each word occurs in a document, words being compared in lower case. The counts are listed
in the order of the words; the most frequent words are listed by falling count, words of equal
count in their own order.
-/

namespace ProseTree.Analysis

open ProseTree.Tree (Document)

/-- A word in lower case and how often it occurs. -/
structure WordCount where
  word : Text
  count : Nat
  deriving DecidableEq, Repr

/-- The counts after one more occurrence of a word; the words stay in ascending order. -/
def addOccurrence (word : Text) : List WordCount → List WordCount
  | [] => [⟨word, 1⟩]
  | entry :: entries =>
    if word = entry.word then ⟨word, entry.count + 1⟩ :: entries
    else if word.precedes entry.word then ⟨word, 1⟩ :: entry :: entries
    else entry :: addOccurrence word entries

/-- The counts of a list of words, in ascending order of the words. -/
def countWords (words : List Text) : List WordCount :=
  words.foldl (fun counts word => addOccurrence (Text.toLower word) counts) []

/-- The counts of the words of a document, in ascending order of the words. -/
def wordCounts (document : Document) : List WordCount :=
  countWords document.words

/-- The counts of the words that occur more than once. -/
def duplicateWords (document : Document) : List WordCount :=
  (wordCounts document).filter (1 < ·.count)

/-- Whether an entry is listed before another among the most frequent words. -/
def WordCount.ranksBefore (left right : WordCount) : Bool :=
  right.count < left.count || (left.count == right.count && left.word.precedes right.word)

/-- The most frequent words of a document, no more than `limit` of them. -/
def frequentWords (document : Document) (limit : Nat) : List WordCount :=
  ((wordCounts document).mergeSort WordCount.ranksBefore).take limit

end ProseTree.Analysis
