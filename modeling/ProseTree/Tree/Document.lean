import ProseTree.Tree.Rendering

/-!
# Documents

Documents, paragraphs and sentences as lists of children, for those who look at one level of a tree.
The paragraphs of a document are its paragraph children, and its sentences are the sentence
children of these; the counts go through the whole tree below.
-/

namespace ProseTree.Tree

/-- The children of a sentence. -/
structure Sentence where
  children : List Node

/-- The children of a paragraph. -/
structure Paragraph where
  children : List Node

/-- The children of a document. -/
structure Document where
  children : List Node

namespace Sentence

/-- The sentence as a node. -/
def toNode (sentence : Sentence) : Node :=
  .sentence sentence.children

/-- The rendered text of a sentence. -/
def text (sentence : Sentence) : Text :=
  sentence.toNode.text

/-- The texts of the words of a sentence. -/
def words (sentence : Sentence) : List Text :=
  Node.wordsAll sentence.children

/-- How many words a sentence has. -/
def wordCount (sentence : Sentence) : Nat :=
  Node.countAll .word sentence.children

/-- The lexeme children of a sentence. -/
def lexemes (sentence : Sentence) : List Node :=
  sentence.children.filter (·.kind = .lexeme)

/-- The symbol that a sentence ends with. -/
def terminator? (sentence : Sentence) : Option Symbol :=
  match sentence.children.getLast? with
  | some (.symbol symbol) => some symbol
  | _ => none

end Sentence

namespace Paragraph

/-- The paragraph as a node. -/
def toNode (paragraph : Paragraph) : Node :=
  .paragraph paragraph.children

/-- The rendered text of a paragraph. -/
def text (paragraph : Paragraph) : Text :=
  paragraph.toNode.text

/-- The sentence that a node is. -/
def sentence? : Node → Option Sentence
  | .sentence children => some ⟨children⟩
  | _ => none

/-- The sentence children of a paragraph. -/
def sentences (paragraph : Paragraph) : List Sentence :=
  paragraph.children.filterMap sentence?

/-- How many sentences there are below a paragraph. -/
def sentenceCount (paragraph : Paragraph) : Nat :=
  Node.countAll .sentence paragraph.children

/-- How many words there are below a paragraph. -/
def wordCount (paragraph : Paragraph) : Nat :=
  Node.countAll .word paragraph.children

end Paragraph

namespace Document

/-- The document as a node. -/
def toNode (document : Document) : Node :=
  .document document.children

/-- The rendered text of a document. -/
def text (document : Document) : Text :=
  document.toNode.text

/-- The paragraph that a node is. -/
def paragraph? : Node → Option Paragraph
  | .paragraph children => some ⟨children⟩
  | _ => none

/-- The paragraph children of a document. -/
def paragraphs (document : Document) : List Paragraph :=
  document.children.filterMap paragraph?

/-- The sentences of the paragraphs of a document. -/
def sentences (document : Document) : List Sentence :=
  document.paragraphs.flatMap (·.sentences)

/-- The texts of the words below a document. -/
def words (document : Document) : List Text :=
  Node.wordsAll document.children

/-- How many paragraphs there are below a document. -/
def paragraphCount (document : Document) : Nat :=
  Node.countAll .paragraph document.children

/-- How many sentences there are below a document. -/
def sentenceCount (document : Document) : Nat :=
  Node.countAll .sentence document.children

/-- How many words there are below a document. -/
def wordCount (document : Document) : Nat :=
  Node.countAll .word document.children

end Document

end ProseTree.Tree
