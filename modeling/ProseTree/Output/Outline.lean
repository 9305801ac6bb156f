import ProseTree.Output.Line
import ProseTree.Output.Plural
import ProseTree.Reading.Standard
import ProseTree.Text.Quoted

/-!
# Outlines

A read input as the outline of its tree: one line for every node, in the order in which nodes start,
indented by two spaces per level, and then one line for every gap. All texts are quoted.
-/

namespace ProseTree.Output.Outline

open ProseTree.Reading (Gap)
open ProseTree.Tree (Node)

/-- A quoted text as parts of a line. -/
def quoted (text : Text) : Line :=
  (Text.Quoted.pieces text).map .value

/-- What the outline says about a node itself. -/
def describe (node : Node) : Line :=
  match node with
  | .document children =>
    [.fixed "document (", .value (plural children.length "paragraph"), .fixed ")"]
  | .paragraph children =>
    [.fixed "paragraph (", .value (plural children.length "sentence"), .fixed ")"]
  | .sentence _ => .fixed "sentence " :: quoted node.text
  | .lexeme source _ => .fixed "lexeme " :: quoted source
  | .word text => .fixed "word " :: quoted text
  | .symbol mark => .fixed "symbol " :: quoted mark.text
  | .expression source value =>
    .fixed "expression " :: (quoted source ++ [.fixed " = ", .value (Decimal.ofDouble value)])

/-- The line of a node at a level. -/
def nodeLine (level : Nat) (node : Node) : Line :=
  .value (List.replicate (2 * level) ' ') :: describe node

mutual

/-- The lines of a tree whose root stands at a level. -/
def treeLines (level : Nat) : Node → List Line
  | .document children => nodeLine level (.document children) :: forestLines (level + 1) children
  | .paragraph children => nodeLine level (.paragraph children) :: forestLines (level + 1) children
  | .sentence children => nodeLine level (.sentence children) :: forestLines (level + 1) children
  | .lexeme source children =>
    nodeLine level (.lexeme source children) :: forestLines (level + 1) children
  | .word text => [nodeLine level (.word text)]
  | .symbol mark => [nodeLine level (.symbol mark)]
  | .expression source value => [nodeLine level (.expression source value)]

/-- The lines of several trees whose roots stand at a level. -/
def forestLines (level : Nat) : List Node → List Line
  | [] => []
  | node :: nodes => treeLines level node ++ forestLines level nodes

end

/-- The line of a gap. -/
def gapLine (gap : Gap) : Line :=
  .fixed "! " :: gap.pieces.map .value

/-- The lines of a read input. -/
def documentLines (source : Text) (reading : Reading) : List Line :=
  [.fixed "# ", .value source] :: (treeLines 0 reading.document.toNode ++ reading.gaps.map gapLine)

/-- The text of a quoted part is the quoted form. -/
theorem text_quoted (text : Text) : (quoted text).text = Text.Quoted.encode text := by
  rw [← Text.Quoted.flatten_pieces, quoted, Line.text, List.flatMap_map]
  exact List.flatMap_id

end ProseTree.Output.Outline
