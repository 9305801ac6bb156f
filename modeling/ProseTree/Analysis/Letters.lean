import ProseTree.Language.Grammar
import ProseTree.Tree.Document

/-!
# Vowels and consonants

Counts of the vowels and consonants of a text, of the sentences of a document and of the whole
document. Documents are counted by their rendered text, in which an expression is its value.
-/

namespace ProseTree.Analysis

open ProseTree.Language (Grammar)
open ProseTree.Tree (Document)

/-- Numbers of vowels and of consonants. -/
structure LetterCount where
  vowels : Nat := 0
  consonants : Nat := 0
  deriving DecidableEq, Repr

namespace LetterCount

/-- All letters counted. -/
def total (counts : LetterCount) : Nat :=
  counts.vowels + counts.consonants

/-- The counts of two texts together. -/
def add (left right : LetterCount) : LetterCount :=
  ⟨left.vowels + right.vowels, left.consonants + right.consonants⟩

instance : Add LetterCount := ⟨add⟩

/-- The count of one character; a listed vowel is a vowel even if it is no letter. -/
def ofChar (grammar : Grammar) (c : Char) : LetterCount :=
  if grammar.isVowel c then ⟨1, 0⟩
  else if grammar.isConsonant c then ⟨0, 1⟩
  else ⟨0, 0⟩

/-- The counts of a text. -/
def ofText (grammar : Grammar) : Text → LetterCount
  | [] => {}
  | c :: rest => ofChar grammar c + ofText grammar rest

end LetterCount

/-- The counts of one sentence, with its place in the document and its text. -/
structure SentenceLetters where
  index : Nat
  text : Text
  counts : LetterCount
  deriving DecidableEq, Repr

/-- The counts of every sentence of a document, in order. -/
def sentenceLetters (grammar : Grammar) (document : Document) : List SentenceLetters :=
  document.sentences.zipIdx.map fun (sentence, index) =>
    ⟨index, sentence.text, .ofText grammar sentence.text⟩

/-- The counts of a whole document. -/
def documentLetters (grammar : Grammar) (document : Document) : LetterCount :=
  .ofText grammar document.text

end ProseTree.Analysis
