import ProseTree.Text.Basic

/-!
# Text trees

A text tree has four kinds of composite nodes and three kinds of leaves. A read text has its
paragraphs below the document, sentences below paragraphs, lexemes and a final symbol below
sentences, and words, symbols and evaluated expressions below lexemes; a tree built by hand may
nest nodes in any way. Expression values are compared as numbers, so a node that holds a value
which is not a number differs from itself.
-/

namespace ProseTree.Tree

/-- The kind of a node. -/
inductive Kind where
  | document
  | paragraph
  | sentence
  | lexeme
  | word
  | symbol
  | expression
  deriving DecidableEq, Repr

/-- The name of a kind. -/
def Kind.name : Kind → Text
  | .document => "document"
  | .paragraph => "paragraph"
  | .sentence => "sentence"
  | .lexeme => "lexeme"
  | .word => "word"
  | .symbol => "symbol"
  | .expression => "expression"

/-- Every kind, outermost first. -/
def Kind.all : List Kind :=
  [.document, .paragraph, .sentence, .lexeme, .word, .symbol, .expression]

/-- Whether nodes of the kind have children. -/
def Kind.isComposite : Kind → Bool
  | .document | .paragraph | .sentence | .lexeme => true
  | .word | .symbol | .expression => false

/-- A symbol is one character, or an ellipsis kept whole. -/
inductive Symbol where
  | char (c : Char)
  | ellipsis (text : Text)
  deriving DecidableEq, Repr

/-- The text of a symbol. -/
def Symbol.text : Symbol → Text
  | .char c => [c]
  | .ellipsis text => text

/-- The character of a symbol that is not an ellipsis. -/
def Symbol.char? : Symbol → Option Char
  | .char c => some c
  | .ellipsis _ => none

/-- A node of a text tree. A lexeme and an expression remember the text they were read from. -/
inductive Node where
  | document (children : List Node)
  | paragraph (children : List Node)
  | sentence (children : List Node)
  | lexeme (source : Text) (children : List Node)
  | word (text : Text)
  | symbol (symbol : Symbol)
  | expression (source : Text) (value : Float)

namespace Node

/-- The kind of a node. -/
def kind : Node → Kind
  | document _ => .document
  | paragraph _ => .paragraph
  | sentence _ => .sentence
  | lexeme _ _ => .lexeme
  | word _ => .word
  | symbol _ => .symbol
  | expression _ _ => .expression

/-- The children of a node in order; a leaf has none. -/
def children : Node → List Node
  | document children | paragraph children | sentence children | lexeme _ children => children
  | word _ | symbol _ | expression _ _ => []

/-- The node with other children; a leaf stays as it is. -/
def withChildren (node : Node) (children : List Node) : Node :=
  match node with
  | document _ => document children
  | paragraph _ => paragraph children
  | sentence _ => sentence children
  | lexeme source _ => lexeme source children
  | word text => word text
  | symbol mark => symbol mark
  | expression source value => expression source value

mutual

/-- Whether two nodes have the same kind, texts, values and children. -/
def same : Node → Node → Bool
  | document left, document right => sameAll left right
  | paragraph left, paragraph right => sameAll left right
  | sentence left, sentence right => sameAll left right
  | lexeme leftSource left, lexeme rightSource right =>
    leftSource == rightSource && sameAll left right
  | word left, word right => left == right
  | symbol left, symbol right => left == right
  | expression leftSource left, expression rightSource right =>
    leftSource == rightSource && left == right
  | _, _ => false

/-- Whether two lists of nodes are the same in every place. -/
def sameAll : List Node → List Node → Bool
  | [], [] => true
  | left :: lefts, right :: rights => same left right && sameAll lefts rights
  | _, _ => false

end

instance : BEq Node := ⟨same⟩

mutual

/-- How many nodes of a kind the tree has, its root included. -/
def count (kind : Kind) : Node → Nat
  | document children => (if kind = .document then 1 else 0) + countAll kind children
  | paragraph children => (if kind = .paragraph then 1 else 0) + countAll kind children
  | sentence children => (if kind = .sentence then 1 else 0) + countAll kind children
  | lexeme _ children => (if kind = .lexeme then 1 else 0) + countAll kind children
  | word _ => if kind = .word then 1 else 0
  | symbol _ => if kind = .symbol then 1 else 0
  | expression _ _ => if kind = .expression then 1 else 0

/-- How many nodes of a kind the trees have together. -/
def countAll (kind : Kind) : List Node → Nat
  | [] => 0
  | node :: nodes => count kind node + countAll kind nodes

end

mutual

/-- The texts of the word leaves, in order. -/
def words : Node → List Text
  | document children | paragraph children | sentence children | lexeme _ children =>
    wordsAll children
  | word text => [text]
  | symbol _ | expression _ _ => []

/-- The texts of the word leaves of several trees, in order. -/
def wordsAll : List Node → List Text
  | [] => []
  | node :: nodes => words node ++ wordsAll nodes

end

end Node

end ProseTree.Tree
