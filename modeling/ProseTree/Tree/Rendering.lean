import ProseTree.Decimal.Shortest
import ProseTree.Tree.Node

/-!
# The text of a tree

Rendering writes a tree as normalized text: every paragraph is indented by four spaces, a blank line
stands between paragraphs, one space between sentences and between the tokens of a sentence. A
symbol that is a child of a sentence stands directly behind what precedes it. An expression is
written as its value.
-/

namespace ProseTree.Tree.Node

/-- What is written before every paragraph. -/
def indent : Text :=
  "    "

/-- What is written between the children of a document. -/
def blankLine : Text :=
  "\n\n"

/-- The texts of the children of a sentence, each with its kind: a space before every one but the
first, and none before a symbol. -/
def spaced : List (Kind × Text) → Text
  | [] => []
  | (_, first) :: others =>
    first ++ others.flatMap fun (kind, text) => if kind = .symbol then text else ' ' :: text

mutual

/-- The rendered text of a tree. -/
def text : Node → Text
  | document children => Text.join blankLine (texts children)
  | paragraph children => indent ++ Text.join " " (texts children)
  | sentence children => spaced ((children.map kind).zip (texts children))
  | lexeme _ children => (texts children).flatten
  | word letters => letters
  | symbol mark => mark.text
  | expression _ value => Decimal.ofDouble value

/-- The rendered texts of several trees. -/
def texts : List Node → List Text
  | [] => []
  | node :: nodes => text node :: texts nodes

end

end ProseTree.Tree.Node
