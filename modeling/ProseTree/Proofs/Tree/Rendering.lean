import ProseTree.Proofs.Text.Cutting
import ProseTree.Tree.Document

/-!
# Rendered texts

The rendered text of a node in terms of the rendered texts of its children. The mark at the end of a
sentence stands directly behind its last lexeme, the lexemes have single spaces between them.
-/

namespace ProseTree.Tree.Node

/-- Several trees are rendered one by one. -/
theorem texts_eq_map (nodes : List Node) : texts nodes = nodes.map text := by
  induction nodes with
  | nil => rfl
  | cons node nodes inductionHypothesis => rw [texts, inductionHypothesis, List.map_cons]

/-- A lexeme is rendered as its children without anything between them. -/
theorem text_lexeme (source : Text) (children : List Node) :
    text (.lexeme source children) = children.flatMap text := by
  rw [text, texts_eq_map, List.flatMap_def]

/-- A space stands before a part that is no symbol. -/
theorem spaced_cons_cons {kind next : Kind} (noSymbol : next ≠ .symbol) (first second : Text)
    (others : List (Kind × Text)) :
    spaced ((kind, first) :: (next, second) :: others) =
      first ++ (" " ++ spaced ((next, second) :: others)) := by
  simp [spaced, noSymbol]

/-- Parts that are no symbols are joined by spaces, and a symbol behind them is glued to them. -/
theorem spaced_append {others : List Node} (noSymbol : ∀ node ∈ others, node.kind ≠ .symbol)
    (kind : Kind) (first mark : Text) :
    spaced ((kind, first) :: (others.map (fun node => (node.kind, node.text)) ++
        [(Kind.symbol, mark)])) = Text.join " " (first :: others.map text) ++ mark := by
  induction others generalizing kind first with
  | nil => simp [spaced, Text.join]
  | cons second others inductionHypothesis =>
    obtain ⟨notSymbol, following⟩ := List.forall_mem_cons.1 noSymbol
    have joined := Text.join_cons (List.cons_ne_nil second.text (others.map text)) " " first
    rw [List.map_cons, List.map_cons, List.cons_append, spaced_cons_cons notSymbol,
      inductionHypothesis following, joined, List.append_assoc, List.append_assoc]

/-- A sentence is rendered as its lexemes with spaces between them and its mark behind the last one. -/
theorem text_sentence {lexemes : List Node} (nonempty : lexemes ≠ [])
    (noSymbol : ∀ node ∈ lexemes, node.kind ≠ .symbol) (mark : Symbol) :
    text (.sentence (lexemes ++ [.symbol mark])) =
      Text.join " " (lexemes.map text) ++ mark.text := by
  rw [text, texts_eq_map, List.zip_map', List.map_append]
  cases lexemes with
  | nil => exact absurd rfl nonempty
  | cons first others =>
    obtain ⟨_, following⟩ := List.forall_mem_cons.1 noSymbol
    exact spaced_append following first.kind first.text mark.text

end ProseTree.Tree.Node
