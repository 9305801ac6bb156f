import ProseTree.Reading.Inner
import ProseTree.Reading.Outer
import ProseTree.Tree.Document

/-!
# The standard chain

The seven stages in their standard order, and the reading of a text into a document.
-/

namespace ProseTree

/-- A document and the gaps that were left while it was read. -/
structure Reading where
  document : Tree.Document
  gaps : List Reading.Gap

namespace Reading

open ProseTree.Language (Grammar)

/-- The names of the seven stages, outermost first. -/
def stageNames : List Text :=
  [documentName, paragraphName, sentenceName, lexemeName, wordName, expressionName, symbolName]

/-- The stage of a name, for a grammar and a schedule of its paragraphs. -/
def stageOfName? (grammar : Grammar) (schedule : Schedule) (name : Text) : Option Stage :=
  [documentStage schedule, paragraphStage grammar, sentenceStage grammar, lexemeStage,
    wordStage grammar, expressionStage grammar, symbolStage grammar].find? (·.name == name)

/-- The standard chain of a grammar. -/
def standardChain (grammar : Grammar) (schedule : Schedule) : Chain :=
  [documentStage schedule, paragraphStage grammar, sentenceStage grammar, lexemeStage,
    wordStage grammar, expressionStage grammar, symbolStage grammar]

/-- The document that a chain reads from a text. -/
def Chain.readDocument (chain : Chain) (text : Text) : Except ParseError Reading :=
  match chain.read text with
  | .error cause => .error cause
  | .ok outcome =>
    match outcome.node with
    | some (.document children) => .ok ⟨⟨children⟩, outcome.gaps⟩
    | _ => .error (.noDocument ((chain.head?.map Stage.name).getD "empty"))

end Reading

end ProseTree
