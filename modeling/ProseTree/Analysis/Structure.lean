import ProseTree.Tree.Document

/-!
# Paragraph and sentence structure

Paragraphs by the number of their sentences, sentences that hold a word of the greatest length, and
the document without its short sentences.
-/

namespace ProseTree.Analysis

open ProseTree.Tree (Document Node Paragraph Sentence)

/-- The paragraphs of a document with their positions, by ascending number of sentences; paragraphs
of equal number keep their order. -/
def rankedParagraphs (document : Document) : List (Paragraph × Nat) :=
  document.paragraphs.zipIdx.mergeSort fun left right =>
    left.1.sentenceCount ≤ right.1.sentenceCount

/-- The positions of the paragraphs, by ascending number of sentences. -/
def paragraphOrder (document : Document) : List Nat :=
  (rankedParagraphs document).map (·.2)

/-- The paragraphs, by ascending number of sentences. -/
def paragraphsBySentenceCount (document : Document) : List Paragraph :=
  (rankedParagraphs document).map (·.1)

/-- The length of the longest word of a document. -/
def longestWordLength? (document : Document) : Option Nat :=
  (document.words.map List.length).max?

/-- The sentences that hold a word of the greatest length, in order. -/
def longestWordSentences (document : Document) : List Sentence :=
  match longestWordLength? document with
  | none => []
  | some longest =>
    document.sentences.filter fun sentence => sentence.words.any (·.length == longest)

/-- Whether a node is a sentence with at least so many words. -/
def isLongSentence (minWords : Nat) (node : Node) : Bool :=
  node.kind = .sentence && minWords ≤ node.count .word

/-- The document without the sentences of fewer words, and without paragraphs that lose all of
theirs. -/
def withoutShortSentences (document : Document) (minWords : Nat) : Document where
  children :=
    (document.paragraphs.map fun paragraph => paragraph.children.filter (isLongSentence minWords)).filterMap
      fun kept => if kept.isEmpty then none else some (.paragraph kept)

end ProseTree.Analysis
