import ProseTree.Tree.Rendering

/-!
# Listed trees

The nodes of a tree in the order in which they start, each with its level, and the sketch of a tree: how its
nodes are nested, and of each node by itself its label. The levels of a list say how the nodes are nested, so
the list of levels and labels determines the sketch, wherever the list stands.
-/

namespace ProseTree.Tree

/-- A node by itself: its kind, the text that it was read from or stands for, and the value of an expression
as it is rendered. -/
inductive Label where
  | document
  | paragraph
  | sentence
  | lexeme (source : Text)
  | word (text : Text)
  | symbol (text : Text)
  | expression (source rendered : Text)
  deriving DecidableEq, Repr

/-- Labels that are nested as the nodes of a tree. -/
inductive Sketch where
  | node (label : Label) (children : List Sketch)

namespace Node

/-- The label of a node. -/
def label : Node → Label
  | document _ => .document
  | paragraph _ => .paragraph
  | sentence _ => .sentence
  | lexeme source _ => .lexeme source
  | word text => .word text
  | symbol mark => .symbol mark.text
  | expression source value => .expression source (Decimal.ofDouble value)

mutual

/-- The sketch of a tree. -/
def sketch : Node → Sketch
  | document children => .node .document (sketchAll children)
  | paragraph children => .node .paragraph (sketchAll children)
  | sentence children => .node .sentence (sketchAll children)
  | lexeme source children => .node (.lexeme source) (sketchAll children)
  | word text => .node (.word text) []
  | symbol mark => .node (.symbol mark.text) []
  | expression source value => .node (.expression source (Decimal.ofDouble value)) []

/-- The sketches of several trees. -/
def sketchAll : List Node → List Sketch
  | [] => []
  | node :: nodes => sketch node :: sketchAll nodes

end

/-- The sketch of a tree is its label over the sketches of its children. -/
theorem sketch_eq (node : Node) : node.sketch = .node node.label (sketchAll node.children) := by
  cases node <;> rfl

mutual

/-- The nodes of a tree whose root stands at a level, in the order in which they start. -/
def listing (level : Nat) : Node → List (Nat × Node)
  | document children => (level, document children) :: listingAll (level + 1) children
  | paragraph children => (level, paragraph children) :: listingAll (level + 1) children
  | sentence children => (level, sentence children) :: listingAll (level + 1) children
  | lexeme source children => (level, lexeme source children) :: listingAll (level + 1) children
  | word text => [(level, word text)]
  | symbol mark => [(level, symbol mark)]
  | expression source value => [(level, expression source value)]

/-- The nodes of several trees whose roots stand at a level. -/
def listingAll (level : Nat) : List Node → List (Nat × Node)
  | [] => []
  | node :: nodes => listing level node ++ listingAll level nodes

end

/-- A tree is listed as its root, with the trees below it one level further in. -/
theorem listing_eq (level : Nat) (node : Node) :
    node.listing level = (level, node) :: listingAll (level + 1) node.children := by
  cases node <;> rfl

mutual

/-- What holds of a node as soon as it holds of its children, holds of every node. -/
theorem forall_of_children {holds : Node → Prop}
    (step : ∀ node : Node, (∀ child ∈ node.children, holds child) → holds node) : ∀ node, holds node
  | document children => step (document children) (forall_mem_of_children step children)
  | paragraph children => step (paragraph children) (forall_mem_of_children step children)
  | sentence children => step (sentence children) (forall_mem_of_children step children)
  | lexeme source children => step (lexeme source children) (forall_mem_of_children step children)
  | word text => step (word text) (by simp [children])
  | symbol mark => step (symbol mark) (by simp [children])
  | expression source value => step (expression source value) (by simp [children])

/-- What holds of a node as soon as it holds of its children, holds of every node of a list. -/
theorem forall_mem_of_children {holds : Node → Prop}
    (step : ∀ node : Node, (∀ child ∈ node.children, holds child) → holds node) :
    ∀ nodes : List Node, ∀ node ∈ nodes, holds node
  | [] => by simp
  | node :: nodes =>
    List.forall_mem_cons.2 ⟨forall_of_children step node, forall_mem_of_children step nodes⟩

end

section Counts

variable (kind : Kind)

/-- The nodes of several trees of a kind, when those of every tree are counted. -/
theorem countP_listingAll {nodes : List Node} (each : ∀ node ∈ nodes, ∀ level,
      (node.listing level).countP (fun entry => decide (entry.2.kind = kind)) = node.count kind)
    (level : Nat) :
    (listingAll level nodes).countP (fun entry => decide (entry.2.kind = kind)) = countAll kind nodes := by
  induction nodes with
  | nil => rfl
  | cons node nodes inductionHypothesis =>
    obtain ⟨first, others⟩ := List.forall_mem_cons.1 each
    rw [listingAll, List.countP_append, first, inductionHypothesis others, countAll]

/-- The nodes of a kind are listed as often as they are counted. -/
theorem countP_listing (node : Node) (level : Nat) :
    (node.listing level).countP (fun entry => decide (entry.2.kind = kind)) = node.count kind := by
  induction node using forall_of_children generalizing level with
  | step node inductionHypothesis =>
    rw [listing_eq, List.countP_cons, countP_listingAll kind inductionHypothesis, Nat.add_comm]
    cases node <;> simp [Node.count, children, countAll, Node.kind, eq_comm]

end Counts

section Words

/-- The text of a word leaf. -/
def word? : Node → Option Text
  | word text => some text
  | _ => none

/-- The word leaves of several trees are their words, if this is so for every tree. -/
theorem filterMap_listingAll {nodes : List Node} (each : ∀ node ∈ nodes, ∀ level,
      (node.listing level).filterMap (·.2.word?) = node.words) (level : Nat) :
    (listingAll level nodes).filterMap (·.2.word?) = wordsAll nodes := by
  induction nodes with
  | nil => rfl
  | cons node nodes inductionHypothesis =>
    obtain ⟨first, others⟩ := List.forall_mem_cons.1 each
    rw [listingAll, List.filterMap_append, first, inductionHypothesis others, wordsAll]

/-- The word leaves of a tree, at whatever level they are listed, are its words. -/
theorem filterMap_listing (node : Node) (level : Nat) :
    (node.listing level).filterMap (·.2.word?) = node.words := by
  induction node using forall_of_children generalizing level with
  | step node inductionHypothesis =>
    have below := filterMap_listingAll inductionHypothesis (level + 1)
    rw [listing_eq, List.filterMap_cons, below]
    cases node <;> rfl

end Words

section Reading

/-- A tree as a list of levels and labels. -/
def entries (level : Nat) (node : Node) : List (Nat × Label) :=
  (node.listing level).map fun entry => (entry.1, entry.2.label)

/-- Several trees as a list of levels and labels. -/
def entriesAll (level : Nat) (nodes : List Node) : List (Nat × Label) :=
  (listingAll level nodes).map fun entry => (entry.1, entry.2.label)

theorem entries_eq (level : Nat) (node : Node) :
    node.entries level = (level, node.label) :: entriesAll (level + 1) node.children := by
  rw [entries, listing_eq]
  rfl

theorem entriesAll_cons (level : Nat) (node : Node) (nodes : List Node) :
    entriesAll level (node :: nodes) = node.entries level ++ entriesAll level nodes := by
  rw [entriesAll, listingAll, List.map_append]
  rfl

/-- What stands behind trees at a level starts further out than they do. -/
def EndsAt (level : Nat) (rest : List (Nat × Label)) : Prop :=
  ∀ entry ∈ rest.head?, entry.1 < level

/-- The entries of one tree end where those of the trees behind it start. -/
theorem endsAt_entriesAll_append {level : Nat} (nodes : List Node) {rest : List (Nat × Label)}
    (ended : EndsAt level rest) : EndsAt (level + 1) (entriesAll level nodes ++ rest) := by
  cases nodes with
  | nil => exact fun entry member => Nat.lt_succ_of_lt (ended entry member)
  | cons node nodes =>
    rw [entriesAll_cons, entries_eq]
    rintro entry ⟨⟩
    exact Nat.lt_succ_self level

variable {rest more : List (Nat × Label)}

/-- Lists of trees are read back from their entries, if this is so for each tree of the first list. -/
theorem sketchAll_eq_of_entriesAll {level : Nat} {left right : List Node}
    (each : ∀ node ∈ left, ∀ other rest more, EndsAt (level + 1) rest → EndsAt (level + 1) more →
      node.entries level ++ rest = entries level other ++ more →
        node.sketch = other.sketch ∧ rest = more)
    (leftEnds : EndsAt level rest) (rightEnds : EndsAt level more)
    (same : entriesAll level left ++ rest = entriesAll level right ++ more) :
    sketchAll left = sketchAll right ∧ rest = more := by
  have noTree : ∀ {node nodes rest more}, EndsAt level rest →
      rest ≠ entriesAll level (node :: nodes) ++ more := by
    rintro node nodes _ more ended rfl
    rw [entriesAll_cons, entries_eq] at ended
    exact Nat.lt_irrefl level (ended _ rfl)
  induction left generalizing right with
  | nil =>
    cases right with
    | nil => exact ⟨rfl, same⟩
    | cons other right => exact absurd same (noTree leftEnds)
  | cons node left inductionHypothesis =>
    cases right with
    | nil => exact absurd same.symm (noTree rightEnds)
    | cons other right =>
      obtain ⟨first, others⟩ := List.forall_mem_cons.1 each
      rw [entriesAll_cons, entriesAll_cons, List.append_assoc, List.append_assoc] at same
      obtain ⟨sameTree, behind⟩ := first other _ _ (endsAt_entriesAll_append left leftEnds)
        (endsAt_entriesAll_append right rightEnds) same
      obtain ⟨sameTrees, sameRest⟩ := inductionHypothesis others behind
      exact ⟨by rw [sketchAll, sketchAll, sameTree, sameTrees], sameRest⟩

/-- A tree is read back from its entries, whatever stands behind them further out. -/
theorem sketch_eq_of_entries {level : Nat} {left right : Node} (leftEnds : EndsAt (level + 1) rest)
    (rightEnds : EndsAt (level + 1) more)
    (same : left.entries level ++ rest = right.entries level ++ more) :
    left.sketch = right.sketch ∧ rest = more := by
  induction left using forall_of_children generalizing level right rest more with
  | step left inductionHypothesis =>
    rw [entries_eq, entries_eq, List.cons_append, List.cons_append, List.cons.injEq] at same
    obtain ⟨sameRoot, below⟩ := same
    obtain ⟨sameTrees, sameRest⟩ := sketchAll_eq_of_entriesAll
      (fun child member other rest more restEnds moreEnds equal =>
        inductionHypothesis child member restEnds moreEnds equal) leftEnds rightEnds below
    exact ⟨by rw [sketch_eq, sketch_eq, (Prod.mk.inj sameRoot).2, sameTrees], sameRest⟩

end Reading

end Node

end ProseTree.Tree
