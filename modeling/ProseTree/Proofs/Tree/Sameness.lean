import ProseTree.Proofs.Tree.Leaves
import ProseTree.Proofs.Tree.Listing

/-!
# Nodes that are the same

Two nodes that are the same have the same kind and children that are the same, and so as many nodes of every
kind. A node is the same as itself as long as no expression in it has a value that is not a number: such a value
differs from itself, and every other double does not, infinities and both zeros included.
-/

namespace ProseTree

open Float.Model (UnpackedFloat)

/-- A number is equal to itself. -/
theorem Decimal.beq_self {value : Float} (number : value.isNaN = false) : (value == value) = true := by
  change UnpackedFloat.beq value.toModel.unpack value.toModel.unpack = true
  change UnpackedFloat.isNaN value.toModel.unpack = false at number
  generalize value.toModel.unpack = parts at *
  cases parts with
  | notANumber => cases number
  | infinity sign => cases sign <;> rfl
  | zero sign => rfl
  | finite sign mantissa exponent positive =>
    have same : (compare exponent exponent).then (compare mantissa mantissa) = .eq := by
      rw [Int.compare_eq_eq.2 rfl, Nat.compare_eq_eq.2 rfl]
      rfl
    cases sign with
    | positive =>
      change (some ((compare exponent exponent).then (compare mantissa mantissa)) == some .eq) = true
      rw [same]
      rfl
    | negative =>
      change (some ((compare exponent exponent).then (compare mantissa mantissa)).swap == some .eq) = true
      rw [same]
      rfl

namespace Tree.Node

section Counts

variable {kind : Kind}

/-- A node counts itself and what stands below it. -/
theorem count_eq (kind : Kind) (node : Node) :
    node.count kind = (if kind = node.kind then 1 else 0) + countAll kind node.children := by
  cases node <;> rfl

/-- The same nodes have the same kind, and their children are the same. -/
theorem sameAll_children {left right : Node} (isSame : left.same right = true) :
    left.kind = right.kind ∧ sameAll left.children right.children = true := by
  cases left <;> cases right <;> simp_all [same, children, sameAll, Node.kind]

/-- Lists of the same nodes have as many nodes of each kind, if this is so for the nodes of the first list. -/
theorem countAll_eq_of_sameAll {lefts rights : List Node}
    (each : ∀ left ∈ lefts, ∀ right, left.same right = true → left.count kind = right.count kind)
    (isSame : sameAll lefts rights = true) : countAll kind lefts = countAll kind rights := by
  induction lefts generalizing rights with
  | nil =>
    cases rights with
    | nil => rfl
    | cons right rights => cases isSame
  | cons left lefts inductionHypothesis =>
    cases rights with
    | nil => cases isSame
    | cons right rights =>
      obtain ⟨first, others⟩ := List.forall_mem_cons.1 each
      rw [sameAll, Bool.and_eq_true] at isSame
      rw [countAll, countAll, first right isSame.1, inductionHypothesis others isSame.2]

/-- The same nodes have as many nodes of each kind. -/
theorem count_eq_of_same {left right : Node} (isSame : left.same right = true) :
    left.count kind = right.count kind := by
  induction left using forall_of_children generalizing right with
  | step left inductionHypothesis =>
    obtain ⟨sameKind, below⟩ := sameAll_children isSame
    rw [count_eq, count_eq, sameKind,
      countAll_eq_of_sameAll (fun child member _ => inductionHypothesis child member) below]

end Counts

section Numbers

/-- No expression of a tree has a value that is not a number. -/
def HasOnlyNumbers (node : Node) : Prop :=
  ∀ value ∈ node.values, value.isNaN = false

/-- The values of each tree are among the values of all. -/
theorem mem_valuesAll {node : Node} {value : Float} {nodes : List Node} (member : node ∈ nodes)
    (inside : value ∈ node.values) : value ∈ valuesAll nodes := by
  induction nodes with
  | nil => cases member
  | cons first nodes inductionHypothesis =>
    rw [valuesAll, List.mem_append]
    obtain rfl | behind := List.mem_cons.1 member
    · exact .inl inside
    · exact .inr (inductionHypothesis behind)

/-- What stands below a tree of numbers has only numbers. -/
theorem HasOnlyNumbers.of_mem_children {node child : Node} (numbers : node.HasOnlyNumbers)
    (member : child ∈ node.children) : child.HasOnlyNumbers := by
  intro value inside
  cases node with
  | word _ | symbol _ | expression _ _ => cases member
  | document _ | paragraph _ | sentence _ | lexeme _ _ => exact numbers value (mem_valuesAll member inside)

/-- A list is the same as itself, if each of its nodes is. -/
theorem sameAll_self {nodes : List Node} (each : ∀ node ∈ nodes, node.same node = true) :
    sameAll nodes nodes = true := by
  induction nodes with
  | nil => rfl
  | cons node nodes inductionHypothesis =>
    obtain ⟨first, others⟩ := List.forall_mem_cons.1 each
    rw [sameAll, first, inductionHypothesis others]
    rfl

/-- A tree of numbers is the same as itself. -/
theorem same_self {node : Node} (numbers : node.HasOnlyNumbers) : node.same node = true := by
  induction node using forall_of_children with
  | step node inductionHypothesis =>
    have below : sameAll node.children node.children = true :=
      sameAll_self fun child member => inductionHypothesis child member (numbers.of_mem_children member)
    cases node with
    | document _ | paragraph _ | sentence _ => exact below
    | lexeme source _ =>
      rw [same, beq_self_eq_true]
      exact below
    | word text => rw [same, beq_self_eq_true]
    | symbol mark => rw [same, beq_self_eq_true]
    | expression source value =>
      rw [same, beq_self_eq_true, Decimal.beq_self (numbers value (List.mem_singleton_self value))]
      rfl

end Numbers

end Tree.Node

end ProseTree
