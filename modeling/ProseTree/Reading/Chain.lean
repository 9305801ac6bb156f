import ProseTree.Reading.Gap
import ProseTree.Tree.Checked

/-!
# Chains of stages

A reading is made by a chain of stages, outermost first. A stage either recognises a text and
returns a node, for whose parts it may use the rest of the chain, or it hands the text on to the
rest of the chain. What comes back is at most one node, and the gaps in input order. A chain
without stages recognises nothing.
-/

namespace ProseTree.Reading

open ProseTree.Tree (ModelError Node)

/-- A cause for which a reading is broken off. -/
inductive ParseError where
  | model (cause : ModelError)
  | noDocument (stage : Text)
  deriving DecidableEq, Repr

/-- The wording of a cause. -/
def ParseError.message : ParseError → Text
  | .model cause => "model error: " ++ cause.message
  | .noDocument stage => "the " ++ stage ++ " stage did not produce a document"

/-- What a chain makes of a text: a node if the text was recognised, and the gaps in order. -/
structure Outcome where
  node : Option Node
  gaps : List Gap

namespace Outcome

/-- The outcome of a text that nothing recognises. -/
def unrecognized : Outcome :=
  ⟨none, []⟩

/-- The outcome of a text that is one node without gaps. -/
def clean (node : Node) : Outcome :=
  ⟨some node, []⟩

end Outcome

/-- The rest of a chain as a stage sees it. -/
structure Next where
  stageName : Option Text
  read : Text → Except ParseError Outcome

/-- One stage of a chain. -/
structure Stage where
  name : Text
  read : Text → Next → Except ParseError Outcome

/-- A chain of stages, outermost first. -/
abbrev Chain := List Stage

namespace Chain

/-- What a chain makes of a text. -/
def read : Chain → Text → Except ParseError Outcome
  | [], _ => .ok .unrecognized
  | stage :: rest, text => stage.read text ⟨rest.head?.map Stage.name, read rest⟩

/-- The part of a chain that a stage in front of it sees. -/
def toNext (chain : Chain) : Next :=
  ⟨chain.head?.map Stage.name, chain.read⟩

/-- What the part of a chain from the first stage of the given name makes of a text; without such a
stage nothing is recognised. -/
def readFrom (chain : Chain) (stageName text : Text) : Except ParseError Outcome :=
  read (chain.dropWhile (·.name != stageName)) text

/-- A chain hands the text to its first stage, with the other stages behind it. -/
theorem read_cons (stage : Stage) (rest : Chain) (text : Text) :
    read (stage :: rest) text = stage.read text (toNext rest) := rfl

end Chain

/-- The nodes and gaps of some texts, each of which gives some of both, in the order of the
texts. -/
def collect {α : Type} (readOne : Text → Except ParseError (List α × List Gap)) :
    List Text → Except ParseError (List α × List Gap)
  | [] => .ok ([], [])
  | text :: texts =>
    match readOne text with
    | .error cause => .error cause
    | .ok (nodes, gaps) =>
      (collect readOne texts).map fun (moreNodes, moreGaps) => (nodes ++ moreNodes, gaps ++ moreGaps)

end ProseTree.Reading
