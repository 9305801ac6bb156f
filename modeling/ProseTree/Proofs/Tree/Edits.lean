import ProseTree.Proofs.Tree.Sameness
import ProseTree.Proofs.Tree.WellFormed
import ProseTree.Tree.Checked

/-!
# Adding and removing children

A removal takes the first child that is the same as the given node and leaves the others in their order. It need
not be the very node that was added last, but one that counts the same, so what an addition adds to the counts
the removal takes away again. A leaf refuses both edits; there is no changed node then.
-/

namespace ProseTree.Tree.Node

variable {node child taken : Node} {nodes rest : List Node}

section Parts

@[simp]
theorem kind_withChildren (node : Node) (nodes : List Node) : (node.withChildren nodes).kind = node.kind := by
  cases node <;> rfl

/-- A composite node has the children that it is given. -/
theorem children_withChildren (composite : node.kind.isComposite = true) (nodes : List Node) :
    (node.withChildren nodes).children = nodes := by
  cases node with
  | word _ | symbol _ | expression _ _ => cases composite
  | document _ | paragraph _ | sentence _ | lexeme _ _ => rfl

@[simp]
theorem withChildren_children (node : Node) : node.withChildren node.children = node := by
  cases node <;> rfl

@[simp]
theorem withChildren_withChildren (node : Node) (nodes others : List Node) :
    (node.withChildren nodes).withChildren others = node.withChildren others := by
  cases node <;> rfl

/-- A composite node counts itself and the children that it is given. -/
theorem count_withChildren (composite : node.kind.isComposite = true) (kind : Kind) (nodes : List Node) :
    (node.withChildren nodes).count kind = (if kind = node.kind then 1 else 0) + countAll kind nodes := by
  rw [count_eq, children_withChildren composite, kind_withChildren]

end Parts

section First

/-- The nodes are one that is the same as the given node, behind others that are not, and the rest. -/
inductive FirstSame (child : Node) : List Node → Node → List Node → Prop
  | intro {before after : List Node} {taken : Node} (others : ∀ other ∈ before, (other == child) = false)
      (isSame : (taken == child) = true) : FirstSame child (before ++ taken :: after) taken (before ++ after)

/-- The first node that is the same is taken. -/
theorem FirstSame.takeFirst_eq (first : FirstSame child nodes taken rest) :
    takeFirst child nodes = (some taken, rest) := by
  obtain ⟨others, isSame⟩ := first
  rename_i before after
  induction before with
  | nil => simp [takeFirst, isSame]
  | cons other before inductionHypothesis =>
    obtain ⟨different, others⟩ := List.forall_mem_cons.1 others
    simp [takeFirst, different, inductionHypothesis others]

/-- Nothing is taken where no node is the same. -/
theorem takeFirst_eq_none (others : ∀ other ∈ nodes, (other == child) = false) :
    takeFirst child nodes = (none, nodes) := by
  induction nodes with
  | nil => rfl
  | cons other nodes inductionHypothesis =>
    obtain ⟨different, others⟩ := List.forall_mem_cons.1 others
    simp [takeFirst, different, inductionHypothesis others]

/-- Among nodes of which one is the same there is a first one. -/
theorem exists_firstSame {node : Node} (member : node ∈ nodes) (isSame : (node == child) = true) :
    ∃ taken rest, FirstSame child nodes taken rest := by
  have found : (nodes.find? (· == child)).isSome = true := List.find?_isSome.2 ⟨node, member, isSame⟩
  obtain ⟨taken, isFirst⟩ := Option.isSome_iff_exists.1 found
  obtain ⟨takenSame, before, after, rfl, others⟩ := List.find?_eq_some_iff_append.1 isFirst
  exact ⟨taken, before ++ after, .intro (fun other inside => by simpa using others other inside) takenSame⟩

/-- One node is taken. -/
theorem FirstSame.length_eq (first : FirstSame child nodes taken rest) : nodes.length = rest.length + 1 := by
  obtain ⟨others, isSame⟩ := first
  simp only [List.length_append, List.length_cons]
  omega

/-- The node that is taken counts as the given one does. -/
theorem FirstSame.countAll_eq (first : FirstSame child nodes taken rest) (kind : Kind) :
    countAll kind nodes = countAll kind rest + child.count kind := by
  obtain ⟨others, isSame⟩ := first
  have counted : taken.count kind = child.count kind := count_eq_of_same isSame
  rw [countAll_append, countAll_append, countAll, counted]
  omega

end First

section Composite

variable (composite : node.kind.isComposite = true)

include composite

/-- A composite node loses the first child that is the same as the given node. -/
theorem remove_of_firstSame (first : FirstSame child node.children taken rest) :
    node.remove child = .ok (some taken, node.withChildren rest) := by
  rw [remove, if_pos composite, first.takeFirst_eq]

/-- A composite node without such a child loses none. -/
theorem remove_of_others (others : ∀ other ∈ node.children, (other == child) = false) :
    node.remove child = .ok (none, node) := by
  rw [remove, if_pos composite, takeFirst_eq_none others]
  dsimp only
  rw [withChildren_children]

/-- One more child adds its counts. -/
theorem count_withChildren_concat (kind : Kind) (child : Node) :
    (node.withChildren (node.children ++ [child])).count kind = node.count kind + child.count kind := by
  rw [count_withChildren composite, countAll_append, count_eq kind node, countAll, countAll]
  omega

/-- What is left of an addition when the first of the children that are the same is taken has as many children
as there were before, and the same counts. -/
theorem FirstSame.restores (first : FirstSame child (node.children ++ [child]) taken rest) :
    rest.length = node.children.length ∧ ∀ kind, (node.withChildren rest).count kind = node.count kind := by
  constructor
  · have lengths := first.length_eq
    rw [List.length_append] at lengths
    exact (Nat.succ_inj.1 lengths).symm
  · intro kind
    have total := first.countAll_eq kind
    rw [countAll_append, countAll, countAll] at total
    rw [count_withChildren composite, count_eq kind node]
    omega

end Composite

/-- A composite node can be given any child: it stands behind the others and its counts are added. Unless a value
in it is not a number, its removal then takes the first of all children that is the same, leaves the others in
their order, and restores the number of children and every count. Without such a child nothing is removed. A leaf
fails both edits with their names and its kind. -/
theorem add_remove (node : Node) :
    (node.kind.isComposite = true →
      (∀ child : Node, ∃ added, node.add child = .ok added ∧ added = node.withChildren added.children ∧
        added.children = node.children ++ [child] ∧
        (∀ kind, added.count kind = node.count kind + child.count kind) ∧
        (child.HasOnlyNumbers → ∃ taken left, added.remove child = .ok (some taken, left) ∧
          left = node.withChildren left.children ∧ FirstSame child added.children taken left.children ∧
          left.children.length = node.children.length ∧ ∀ kind, left.count kind = node.count kind)) ∧
      ∀ child, (∀ other ∈ node.children, (other == child) = false) →
        node.remove child = .ok (none, node)) ∧
    (node.kind.isComposite = false → ∀ child,
      node.add child = .error (.unsupportedOperation .add node.kind) ∧
        node.remove child = .error (.unsupportedOperation .remove node.kind)) := by
  refine ⟨fun composite => ⟨fun child => ?_, fun _ => remove_of_others composite⟩, fun leaf child => ?_⟩
  · have grown := children_withChildren composite (node.children ++ [child])
    refine ⟨node.withChildren (node.children ++ [child]), by rw [add, if_pos composite], by rw [grown], grown,
      fun kind => count_withChildren_concat composite kind child, fun numbers => ?_⟩
    have last : child ∈ node.children ++ [child] := List.mem_append_right _ List.mem_cons_self
    obtain ⟨taken, rest, first⟩ := exists_firstSame last (same_self numbers)
    obtain ⟨length, counts⟩ := first.restores composite
    have stillComposite : (node.withChildren (node.children ++ [child])).kind.isComposite = true := by
      rwa [kind_withChildren]
    have removed := remove_of_firstSame stillComposite (by rwa [grown])
    rw [withChildren_withChildren] at removed
    have shrunk := children_withChildren composite rest
    exact ⟨taken, node.withChildren rest, removed, by rw [shrunk], by rwa [grown, shrunk], by rwa [shrunk],
      counts⟩
  · rw [add, remove, leaf]
    exact ⟨rfl, rfl⟩

/-- A lexeme with an expression that a sentence holds already is added behind its mark. Of the two equal children
the first one is removed, and the sentence has as many children and expressions as before. -/
theorem add_remove_twice :
    (Node.sentence [.lexeme "1+2" [.expression "1+2" 3], .symbol (.char ',')]).kind.isComposite = true ∧
      (Node.lexeme "1+2" [.expression "1+2" 3]).HasOnlyNumbers ∧
      ∃ added left,
        (Node.sentence [.lexeme "1+2" [.expression "1+2" 3], .symbol (.char ',')]).add
          (.lexeme "1+2" [.expression "1+2" 3]) = .ok added ∧
        added.count .expression = 2 ∧
        added.remove (.lexeme "1+2" [.expression "1+2" 3]) =
          .ok (some (.lexeme "1+2" [.expression "1+2" 3]), left) ∧
        left = .sentence [.symbol (.char ','), .lexeme "1+2" [.expression "1+2" 3]] ∧
        left.children.length = 2 ∧ left.count .expression = 1 := by
  have composite :
      (Node.sentence [.lexeme "1+2" [.expression "1+2" 3], .symbol (.char ',')]).kind.isComposite = true :=
    rfl
  have numbers : (Node.lexeme "1+2" [.expression "1+2" 3]).HasOnlyNumbers := by
    intro value inside
    obtain rfl : value = 3 := by simpa [values, valuesAll] using inside
    decide
  obtain ⟨edits, -⟩ := (add_remove _).1 composite
  obtain ⟨added, adds, -, -, counts, removes⟩ := edits (.lexeme "1+2" [.expression "1+2" 3])
  obtain ⟨taken, left, removed, -, -, length, restored⟩ := removes numbers
  have grown : added = .sentence [.lexeme "1+2" [.expression "1+2" 3], .symbol (.char ','),
      .lexeme "1+2" [.expression "1+2" 3]] := (Except.ok.inj adds).symm
  have both : (some taken, left) = (some (Node.lexeme "1+2" [.expression "1+2" 3]),
      Node.sentence [.symbol (.char ','), .lexeme "1+2" [.expression "1+2" 3]]) := by
    rw [grown] at removed
    exact (Except.ok.inj removed).symm
  obtain ⟨rfl, rfl⟩ : taken = _ ∧ left = _ := by simpa using both
  exact ⟨composite, numbers, added, _, adds, counts .expression, removed, rfl, length, restored .expression⟩

end ProseTree.Tree.Node
