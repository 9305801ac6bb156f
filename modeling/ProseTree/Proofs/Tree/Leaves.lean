import ProseTree.Tree.Node

/-!
# The leaves and the lexemes of a tree

The texts that the leaves of a tree were read from: words and symbols as they are, expressions by their
source and not by their value. The leaves that are rendered as they were written, and apart from them the
values that are rendered in place of expressions. The lexemes of a tree, and the texts that these were read
from.
-/

namespace ProseTree.Tree.Node

mutual

/-- The texts that the leaves of a tree were read from, in order. -/
def leafText : Node → Text
  | document children | paragraph children | sentence children | lexeme _ children =>
    leafTexts children
  | word letters => letters
  | symbol mark => mark.text
  | expression source _ => source

/-- The texts that the leaves of several trees were read from, in order. -/
def leafTexts : List Node → Text
  | [] => []
  | node :: nodes => leafText node ++ leafTexts nodes

end

/-- The leaves of several trees are those of each. -/
theorem leafTexts_eq_flatMap (nodes : List Node) : leafTexts nodes = nodes.flatMap leafText := by
  induction nodes with
  | nil => rfl
  | cons node nodes inductionHypothesis => rw [leafTexts, inductionHypothesis, List.flatMap_cons]

@[simp]
theorem leafTexts_append (left right : List Node) :
    leafTexts (left ++ right) = leafTexts left ++ leafTexts right := by
  simp [leafTexts_eq_flatMap]

/-- The leaves of symbols are the texts of the symbols. -/
theorem leafTexts_map_symbol (symbols : List Symbol) :
    leafTexts (symbols.map .symbol) = symbols.flatMap Symbol.text := by
  rw [leafTexts_eq_flatMap, List.flatMap_map]
  rfl

mutual

/-- The texts of the word and symbol leaves of a tree, in order. -/
def writtenTexts : Node → List Text
  | document children | paragraph children | sentence children | lexeme _ children =>
    writtenTextsAll children
  | word letters => [letters]
  | symbol mark => [mark.text]
  | expression _ _ => []

/-- The texts of the word and symbol leaves of several trees, in order. -/
def writtenTextsAll : List Node → List Text
  | [] => []
  | node :: nodes => writtenTexts node ++ writtenTextsAll nodes

end

mutual

/-- The values of the expression leaves of a tree, in order. -/
def values : Node → List Float
  | document children | paragraph children | sentence children | lexeme _ children =>
    valuesAll children
  | word _ | symbol _ => []
  | expression _ value => [value]

/-- The values of the expression leaves of several trees, in order. -/
def valuesAll : List Node → List Float
  | [] => []
  | node :: nodes => values node ++ valuesAll nodes

end

mutual

/-- The lexemes of a tree in order. Nothing is looked for inside a lexeme. -/
def lexemes : Node → List Node
  | document children | paragraph children | sentence children => lexemesAll children
  | lexeme source children => [lexeme source children]
  | word _ | symbol _ | expression _ _ => []

/-- The lexemes of several trees in order. -/
def lexemesAll : List Node → List Node
  | [] => []
  | node :: nodes => lexemes node ++ lexemesAll nodes

end

/-- The lexemes of several trees are those of each. -/
theorem lexemesAll_eq_flatMap (nodes : List Node) : lexemesAll nodes = nodes.flatMap lexemes := by
  induction nodes with
  | nil => rfl
  | cons node nodes inductionHypothesis => rw [lexemesAll, inductionHypothesis, List.flatMap_cons]

@[simp]
theorem lexemesAll_append (left right : List Node) :
    lexemesAll (left ++ right) = lexemesAll left ++ lexemesAll right := by
  simp [lexemesAll_eq_flatMap]

/-- The lexemes of each tree are among the lexemes of all. -/
theorem mem_lexemesAll {node lexeme : Node} {nodes : List Node} (member : node ∈ nodes)
    (inside : lexeme ∈ node.lexemes) : lexeme ∈ lexemesAll nodes := by
  rw [lexemesAll_eq_flatMap]
  exact List.mem_flatMap.2 ⟨node, member, inside⟩

/-- Lexemes are their own lexemes. -/
theorem lexemesAll_eq_self {nodes : List Node} (each : ∀ node ∈ nodes, node.kind = .lexeme) :
    lexemesAll nodes = nodes := by
  induction nodes with
  | nil => rfl
  | cons node nodes inductionHypothesis =>
    obtain ⟨first, others⟩ := List.forall_mem_cons.1 each
    rw [lexemesAll, inductionHypothesis others]
    cases node with
    | lexeme source children => rfl
    | _ => cases first

end ProseTree.Tree.Node
