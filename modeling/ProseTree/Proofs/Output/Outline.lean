import ProseTree.Output.Session
import ProseTree.Proofs.Decimal.Characters
import ProseTree.Proofs.Output.Wording
import ProseTree.Proofs.Text.Quoted
import ProseTree.Proofs.Text.Tokens
import ProseTree.Proofs.Tree.Listing

/-!
# Outlines are read back

An outline has one line for every node, in the order in which nodes start, and one for every gap. The indent
of a line is the level of its node, and the rest of the line is its label: the kind up to the first space, and
behind it quoted texts, which show where they end. So the lines determine the sketch of the tree, whatever
characters stand in its texts. The name of the input may have line feeds in it, and so may the names of stages
that are not those of this library; the root is found all the same, as the last line without an indent.
-/

namespace ProseTree.Output.Outline

open ProseTree.Reading (Gap)
open ProseTree.Text (splitAtFeeds)
open ProseTree.Tree (Document Kind Label Node)

section Wording

/-- What the line of a node says behind its kind. -/
def detail : Node → Text
  | .document children => '(' :: plural children.length "paragraph" ++ [')']
  | .paragraph children => '(' :: plural children.length "sentence" ++ [')']
  | .sentence children => Text.Quoted.encode (Node.sentence children).text
  | .lexeme source _ => Text.Quoted.encode source
  | .word text => Text.Quoted.encode text
  | .symbol mark => Text.Quoted.encode mark.text
  | .expression source value => Text.Quoted.encode source ++ " = " ++ Decimal.ofDouble value

/-- The line of a node at a level: two spaces for each level, the kind, and the detail. -/
def entryText (entry : Nat × Node) : Text :=
  List.replicate (2 * entry.1) ' ' ++ (entry.2.kind.name ++ ' ' :: detail entry.2)

/-- The line of a gap. -/
def gapText (gap : Gap) : Text :=
  "! " ++ gap.message

/-- A word and the space behind it, in front of a text. -/
theorem toList_append_space (word : String) (rest : Text) :
    (word ++ " ").toList ++ rest = word.toList ++ ' ' :: rest := by
  rw [String.toList_append, List.append_assoc]
  rfl

/-- What is said about a node itself is its kind and its detail. -/
theorem text_describe (node : Node) : (describe node).text = node.kind.name ++ ' ' :: detail node := by
  cases node with
  | document children => rfl
  | paragraph children => rfl
  | sentence children =>
    rw [describe, Line.text_cons, text_quoted]
    exact toList_append_space "sentence" _
  | lexeme source children =>
    rw [describe, Line.text_cons, text_quoted]
    exact toList_append_space "lexeme" _
  | word text =>
    rw [describe, Line.text_cons, text_quoted]
    exact toList_append_space "word" _
  | symbol mark =>
    rw [describe, Line.text_cons, text_quoted]
    exact toList_append_space "symbol" _
  | expression source value =>
    have behind : Line.text (quoted source ++ [.fixed " = ", .value (Decimal.ofDouble value)]) =
        detail (.expression source value) := by
      rw [Line.text_append, text_quoted, detail, List.append_assoc, Line.text_cons, Line.text_cons]
      simp only [Part.text, Line.text, List.flatMap_nil, List.append_nil]
    rw [describe, Line.text_cons, behind]
    exact toList_append_space "expression" _

/-- The line of a gap is its wording behind a mark. -/
theorem text_gapLine (gap : Gap) : (gapLine gap).text = gapText gap := by
  rw [gapText, ← Gap.flatten_pieces, gapLine, Line.text_cons, Line.text, List.flatMap_map]
  exact congrArg ("! ".toList ++ ·) List.flatMap_id

/-- The lines of a tree are that of its root and those of the trees below it. -/
theorem treeLines_eq (level : Nat) (node : Node) :
    treeLines level node = nodeLine level node :: forestLines (level + 1) node.children := by
  cases node <;> rfl

/-- Several trees have the lines of their nodes, as these are listed, if each of them has. -/
theorem text_forestLines {nodes : List Node} (each : ∀ node ∈ nodes, ∀ level,
      (treeLines level node).map Line.text = (node.listing level).map entryText) (level : Nat) :
    (forestLines level nodes).map Line.text = (Node.listingAll level nodes).map entryText := by
  induction nodes with
  | nil => rfl
  | cons node nodes inductionHypothesis =>
    obtain ⟨first, others⟩ := List.forall_mem_cons.1 each
    rw [forestLines, Node.listingAll, List.map_append, List.map_append, first, inductionHypothesis others]

/-- A tree has the lines of its nodes, as these are listed. -/
theorem text_treeLines (node : Node) (level : Nat) :
    (treeLines level node).map Line.text = (node.listing level).map entryText := by
  induction node using Node.forall_of_children generalizing level with
  | step node inductionHypothesis =>
    rw [treeLines_eq, Node.listing_eq, List.map_cons, List.map_cons, text_forestLines inductionHypothesis,
      nodeLine, Line.text_cons, text_describe]
    rfl

/-- An outline is written as its heading, the lines of the nodes and the lines of the gaps. -/
theorem text_documentLines (source : Text) (reading : Reading) :
    (documentLines source reading).map Line.text = ("# " ++ source) ::
      ((reading.document.toNode.listing 0).map entryText ++ reading.gaps.map gapText) := by
  have heading : Line.text [.fixed "# ", .value source] = "# " ++ source := by
    rw [Line.text_cons, Line.text_cons]
    exact congrArg ("# ".toList ++ ·) (List.append_nil source)
  rw [documentLines, List.map_cons, heading, List.map_append, text_treeLines, List.map_map]
  exact congrArg _ (congrArg _ (List.map_congr_left fun gap _ => text_gapLine gap))

end Wording

section Lines

/-- The name of a kind has no white space in it. -/
theorem noBlank_name : ∀ kind : Kind, ∀ c ∈ kind.name, Text.isBlank c = false := by
  intro kind
  cases kind <;> exact Text.forall_eq_false_of_any (by decide)

/-- Kinds of one name are the same. -/
theorem eq_of_name_eq {left right : Kind} (same : left.name = right.name) : left = right := by
  cases left <;> cases right <;> first | rfl | exact absurd same (by decide)

/-- No detail of a node has a line feed in it. -/
theorem noFeed_detail (node : Node) : '\n' ∉ detail node := by
  have noFeedValue : ∀ value, '\n' ∉ Decimal.ofDouble value := fun value member =>
    absurd (Decimal.noBlank_ofDouble value '\n' member) (by decide)
  cases node with
  | document children =>
    have noFeed : '\n' ∉ plural children.length "paragraph" := noFeed_plural _ (by decide)
    simpa [detail] using noFeed
  | paragraph children =>
    have noFeed : '\n' ∉ plural children.length "sentence" := noFeed_plural _ (by decide)
    simpa [detail] using noFeed
  | sentence children => exact Text.Quoted.noFeed_encode _
  | lexeme source children => exact Text.Quoted.noFeed_encode source
  | word text => exact Text.Quoted.noFeed_encode text
  | symbol mark => exact Text.Quoted.noFeed_encode mark.text
  | expression source value =>
    simp [detail, Text.Quoted.noFeed_encode source, noFeedValue value]

/-- Every node is written on one line. -/
theorem noFeed_entryText (entry : Nat × Node) : '\n' ∉ entryText entry := by
  have noFeedName : '\n' ∉ entry.2.kind.name := fun member =>
    absurd (noBlank_name entry.2.kind '\n' member) (by decide)
  simp [entryText, noFeedName, noFeed_detail]

/-- A gap is written on one line, as far as the name of its stage is. -/
theorem mem_feed_gapText (gap : Gap) : '\n' ∈ gapText gap ↔ '\n' ∈ gap.stage := by
  have noFeedReason : '\n' ∉ gap.reason.message := by
    cases gap.reason with
    | unrecognized => decide
    | unexpectedKind kind => cases kind <;> decide
    | droppedCharacter => decide
  simp [gapText, Gap.message, noFeedReason, Text.Quoted.noFeed_encode]

end Lines

section Labels

/-- Behind its indent, no line of a node starts with a space. -/
theorem ne_space_of_mem_head? {kind : Kind} {rest : Text} :
    ∀ c ∈ (kind.name ++ rest).head?, (c == ' ') = false := by
  cases kind <;> (rintro c ⟨⟩; rfl)

/-- Nodes of one kind and one detail have the same label. -/
theorem label_eq_of_detail {left right : Node} (sameKind : left.kind = right.kind)
    (sameDetail : detail left = detail right) : left.label = right.label := by
  have read : ∀ {one other : Text}, Text.Quoted.encode one = Text.Quoted.encode other → one = other :=
    fun same => (Text.Quoted.encode_append_inj (congrArg (· ++ []) same)).1
  cases left <;> cases right <;> cases sameKind
  case document.document => rfl
  case paragraph.paragraph => rfl
  case sentence.sentence => rfl
  case lexeme.lexeme => exact congrArg Label.lexeme (read sameDetail)
  case word.word => exact congrArg Label.word (read sameDetail)
  case symbol.symbol => exact congrArg Label.symbol (read sameDetail)
  case expression.expression =>
    rw [detail, detail, List.append_assoc, List.append_assoc] at sameDetail
    obtain ⟨sameSource, sameValue⟩ := Text.Quoted.encode_append_inj sameDetail
    rw [Node.label, Node.label, sameSource, List.append_cancel_left sameValue]

/-- The level and the label of a node are read back from its line. -/
theorem eq_of_entryText {left right : Nat × Node} (same : entryText left = entryText right) :
    left.1 = right.1 ∧ left.2.label = right.2.label := by
  have indented : ∀ level, ∀ c ∈ List.replicate level ' ', (c == ' ') = true := fun level c member =>
    beq_of_eq (List.eq_of_mem_replicate member)
  have ended : ∀ rest, Text.IsEnded (' ' :: rest) := by
    rintro rest c ⟨⟩
    rfl
  obtain ⟨sameIndent, behind⟩ := Text.append_inj_of_ended (indented _) ne_space_of_mem_head?
    (indented _) ne_space_of_mem_head? same
  obtain ⟨sameName, sameRest⟩ := Text.eq_of_append_eq_append (noBlank_name _) (ended _)
    (noBlank_name _) (ended _) behind
  have sameLength := congrArg List.length sameIndent
  rw [List.length_replicate, List.length_replicate] at sameLength
  exact ⟨by omega, label_eq_of_detail (eq_of_name_eq sameName) (List.cons.inj sameRest).2⟩

/-- The levels and labels of listed nodes are read back from their lines. -/
theorem entries_eq_of_map_entryText {left right : List (Nat × Node)}
    (same : left.map entryText = right.map entryText) :
    left.map (fun entry => (entry.1, entry.2.label)) =
      right.map (fun entry => (entry.1, entry.2.label)) := by
  induction left generalizing right with
  | nil => rw [List.map_eq_nil_iff.1 same.symm]
  | cons entry left inductionHypothesis =>
    cases right with
    | nil => cases same
    | cons other right =>
      obtain ⟨first, others⟩ := List.cons.inj same
      obtain ⟨sameLevel, sameLabel⟩ := eq_of_entryText first
      rw [List.map_cons, List.map_cons, inductionHypothesis others, sameLevel, sameLabel]

end Labels

section Root

/-- All nodes of trees stand at the level of their roots or further in. -/
theorem le_of_mem_listingAll {nodes : List Node} (each : ∀ node ∈ nodes, ∀ level,
      ∀ entry ∈ node.listing level, level ≤ entry.1) (level : Nat) :
    ∀ entry ∈ Node.listingAll level nodes, level ≤ entry.1 := by
  induction nodes with
  | nil => simp [Node.listingAll]
  | cons node nodes inductionHypothesis =>
    obtain ⟨first, others⟩ := List.forall_mem_cons.1 each
    rw [Node.listingAll, List.forall_mem_append]
    exact ⟨first level, inductionHypothesis others⟩

/-- All nodes of a tree stand at the level of its root or further in. -/
theorem le_of_mem_listing (node : Node) (level : Nat) : ∀ entry ∈ node.listing level, level ≤ entry.1 := by
  induction node using Node.forall_of_children generalizing level with
  | step node inductionHypothesis =>
    rw [Node.listing_eq, List.forall_mem_cons]
    exact ⟨Nat.le_refl level, fun entry member =>
      Nat.le_of_succ_le (le_of_mem_listingAll inductionHypothesis (level + 1) entry member)⟩

/-- Whether a line has an indent. -/
def isIndented (line : Text) : Bool :=
  line.head? == some ' '

/-- A line has an indent exactly when its node stands below another. -/
theorem isIndented_entryText (entry : Nat × Node) : isIndented (entryText entry) = decide (0 < entry.1) := by
  obtain ⟨level, node⟩ := entry
  cases level with
  | zero => cases node <;> rfl
  | succ level => rfl

/-- The last line without an indent, and the lines behind it, are known from the whole. -/
theorem last_inj_of_not_isIndented {before after left right : List Text} {one other : Text}
    (oneOut : isIndented one = false) (leftIn : ∀ line ∈ left, isIndented line = true)
    (otherOut : isIndented other = false) (rightIn : ∀ line ∈ right, isIndented line = true)
    (same : before ++ one :: left = after ++ other :: right) : one :: left = other :: right := by
  have reversed := congrArg List.reverse same
  rw [List.reverse_append, List.reverse_append, List.reverse_cons, List.reverse_cons, List.append_assoc,
    List.append_assoc] at reversed
  obtain ⟨sameLines, sameOut⟩ := Text.append_inj_of_ended
    (fun line member => leftIn line (List.mem_reverse.1 member)) (by rintro _ ⟨⟩; exact oneOut)
    (fun line member => rightIn line (List.mem_reverse.1 member)) (by rintro _ ⟨⟩; exact otherOut) reversed
  rw [List.reverse_inj.1 sameLines, (List.cons.inj sameOut).1]

/-- The lines of the nodes are the last of them without an indent and those behind it. -/
theorem map_entryText_inj {before after : List Text} {left right : Node}
    (same : before ++ (left.listing 0).map entryText = after ++ (right.listing 0).map entryText) :
    (left.listing 0).map entryText = (right.listing 0).map entryText := by
  have below : ∀ node : Node, ∀ line ∈ (Node.listingAll 1 node.children).map entryText,
      isIndented line = true := by
    intro node line member
    obtain ⟨entry, listed, rfl⟩ := List.mem_map.1 member
    rw [isIndented_entryText, decide_eq_true_eq]
    exact le_of_mem_listingAll (fun child _ => le_of_mem_listing child) 1 entry listed
  rw [Node.listing_eq, Node.listing_eq] at same ⊢
  exact last_inj_of_not_isIndented (isIndented_entryText _) (below left) (isIndented_entryText _)
    (below right) same

end Root

section Written

/-- An outline is written on its heading, the lines of the nodes and the lines of the gaps. -/
theorem flatten_document (source : Text) (reading : Reading) :
    (Session.tree.document source reading).1.flatten = (("# " ++ source) ::
      ((reading.document.toNode.listing 0).map entryText ++ reading.gaps.map gapText)).flatMap Text.line := by
  rw [← text_documentLines, List.flatMap_map]
  exact Line.flatten_allPieces _

/-- Without gaps, an outline stands on the lines of its heading and those of the nodes. -/
theorem splitAtFeeds_document (source : Text) (document : Document) :
    splitAtFeeds (Session.tree.document source ⟨document, []⟩).1.flatten =
      splitAtFeeds ("# " ++ source) ++ (document.toNode.listing 0).map entryText ++ [[]] := by
  have noFeed : ∀ line ∈ (document.toNode.listing 0).map entryText, '\n' ∉ line := by
    intro line member
    obtain ⟨entry, -, rfl⟩ := List.mem_map.1 member
    exact noFeed_entryText entry
  have written : (Session.tree.document source ⟨document, []⟩).1.flatten =
      (Line.allPieces (documentLines source ⟨document, []⟩)).flatten := rfl
  rw [written, Line.splitAtFeeds_flatten_allPieces, text_documentLines, List.flatMap_cons, List.map_nil,
    List.append_nil, Text.flatMap_splitAtFeeds_of_noFeed noFeed]

/-- An outline is its heading, one line for every node in the order in which nodes start, with two spaces for
each level in front of it, and one line for every gap; a gap takes more than one line only where the name of
its stage does. Documents that are written in the same way, without gaps, have the same sketch. -/
theorem outline_reads_back :
    (∀ (source : Text) (reading : Reading),
      (Session.tree.document source reading).1.flatten = (("# " ++ source) ::
        ((reading.document.toNode.listing 0).map entryText ++
          reading.gaps.map gapText)).flatMap Text.line ∧
      (∀ kind, (reading.document.toNode.listing 0).countP (fun entry => decide (entry.2.kind = kind)) =
        reading.document.toNode.count kind) ∧
      (∀ entry ∈ reading.document.toNode.listing 0, '\n' ∉ entryText entry) ∧
      ∀ gap ∈ reading.gaps, '\n' ∈ gapText gap ↔ '\n' ∈ gap.stage) ∧
    ∀ (source other : Text) (left right : Document),
      (Session.tree.document source ⟨left, []⟩).1.flatten =
        (Session.tree.document other ⟨right, []⟩).1.flatten →
      left.toNode.sketch = right.toNode.sketch := by
  constructor
  · intro source reading
    exact ⟨flatten_document source reading, fun kind => Node.countP_listing kind _ 0,
      fun entry _ => noFeed_entryText entry, fun gap _ => mem_feed_gapText gap⟩
  · intro source other left right same
    have sameLines := congrArg splitAtFeeds same
    rw [splitAtFeeds_document, splitAtFeeds_document] at sameLines
    have sameEntries : left.toNode.entries 0 = right.toNode.entries 0 :=
      entries_eq_of_map_entryText (map_entryText_inj (List.append_cancel_right sameLines))
    have ended : Node.EndsAt 1 [] := by rintro _ ⟨⟩
    exact (Node.sketch_eq_of_entries ended ended (congrArg (· ++ []) sameEntries)).1

/-- A single full stop is written in the same way whether it is a character or an ellipsis, and has the same
sketch. -/
theorem outline_reads_back_full_stop :
    let left : Document := ⟨[.paragraph [.sentence [.symbol (.char '.')]]]⟩
    let right : Document := ⟨[.paragraph [.sentence [.symbol (.ellipsis ".")]]]⟩
    (Session.tree.document "a.txt" ⟨left, []⟩).1.flatten =
        (Session.tree.document "a.txt" ⟨right, []⟩).1.flatten ∧
      left.toNode.sketch = right.toNode.sketch :=
  ⟨rfl, outline_reads_back.2 "a.txt" "a.txt" _ _ rfl⟩

end Written

end ProseTree.Output.Outline
