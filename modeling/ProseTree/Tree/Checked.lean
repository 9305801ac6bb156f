import ProseTree.Language.Word
import ProseTree.Tree.Node

/-!
# Checked leaves and edits

Words and symbols that are checked against a grammar, and the addition and removal of children. The
failures are values: a text that is no word, a text that is no symbol, and an edit of a leaf.
-/

namespace ProseTree.Tree

open ProseTree.Language (Grammar)

/-- A change of a node's children. -/
inductive Edit where
  | add
  | remove
  deriving DecidableEq, Repr

/-- The name of an edit. -/
def Edit.name : Edit → Text
  | .add => "add"
  | .remove => "remove"

/-- A cause for which a node is not built or not changed. -/
inductive ModelError where
  | unsupportedOperation (edit : Edit) (kind : Kind)
  | invalidWord (text : Text)
  | invalidSymbol (text : Text)
  deriving DecidableEq, Repr

/-- The wording of a cause. -/
def ModelError.message : ModelError → Text
  | .unsupportedOperation edit kind =>
    "cannot " ++ edit.name ++ " children on a " ++ kind.name ++ " leaf"
  | .invalidWord text => "not a valid word: " ++ Text.Quoted.encode text
  | .invalidSymbol text =>
    "symbol must be a single character or the ellipsis, got " ++ Text.Quoted.encode text

/-- The symbol that a text spells: the ellipsis of the grammar, or any single character. -/
def Symbol.ofText (grammar : Grammar) (text : Text) : Except ModelError Symbol :=
  if text = grammar.ellipsis then .ok (.ellipsis text)
  else
    match text with
    | [c] => .ok (.char c)
    | _ => .error (.invalidSymbol text)

namespace Node

/-- The word leaf of a text that is a word of the grammar. -/
def wordOfText (grammar : Grammar) (text : Text) : Except ModelError Node :=
  if grammar.isWord text then .ok (.word text) else .error (.invalidWord text)

/-- The symbol leaf of a text that spells a symbol. -/
def symbolOfText (grammar : Grammar) (text : Text) : Except ModelError Node :=
  (Symbol.ofText grammar text).map .symbol

/-- The node with one more child at the end. -/
def add (node child : Node) : Except ModelError Node :=
  if node.kind.isComposite then .ok (node.withChildren (node.children ++ [child]))
  else .error (.unsupportedOperation .add node.kind)

/-- The first child that is the same as the given node, and the children without it. -/
def takeFirst (child : Node) : List Node → Option Node × List Node
  | [] => (none, [])
  | node :: nodes =>
    if node == child then (some node, nodes)
    else
      let (taken, rest) := takeFirst child nodes
      (taken, node :: rest)

/-- The node without its first child that is the same as the given one, and that child. -/
def remove (node child : Node) : Except ModelError (Option Node × Node) :=
  if node.kind.isComposite then
    let (taken, rest) := takeFirst child node.children
    .ok (taken, node.withChildren rest)
  else .error (.unsupportedOperation .remove node.kind)

end Node

end ProseTree.Tree
