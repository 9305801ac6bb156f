import Mathlib.Algebra.GroupWithZero.Nat
import ProseTree.Proofs.Tree.Rendering
import ProseTree.Proofs.Tree.WellFormed

/-!
# The levels of a well-formed document

In a well-formed document nothing stands beside the paragraphs, and nothing beside the sentences of a
paragraph. So what goes through the whole tree can be found sentence by sentence: the words, the number of
sentences, and the rendered text with what is written between sentences and paragraphs.
-/

namespace ProseTree.Tree

open ProseTree.Language (Grammar)

variable {grammar : Grammar}

namespace Node

/-- The words of several trees are those of each. -/
theorem wordsAll_eq_flatMap (nodes : List Node) : wordsAll nodes = nodes.flatMap words := by
  induction nodes with
  | nil => rfl
  | cons node nodes inductionHypothesis => rw [wordsAll, inductionHypothesis, List.flatMap_cons]

/-- The nodes of a kind in several trees are those of each. -/
theorem countAll_eq_sum (kind : Kind) (nodes : List Node) :
    countAll kind nodes = (nodes.map (count kind)).sum := by
  induction nodes with
  | nil => rfl
  | cons node nodes inductionHypothesis => rw [countAll, inductionHypothesis, List.map_cons, List.sum_cons]

end Node

/-- A paragraph of nothing but sentences. -/
theorem IsParagraph.exists_sentences {node : Node} (isParagraph : IsParagraph grammar node) :
    ∃ paragraph, Document.paragraph? node = some paragraph ∧ node = paragraph.toNode ∧
      paragraph.sentences.map Sentence.toNode = paragraph.children := by
  cases isParagraph with
  | @intro sentences nonempty each =>
    refine ⟨⟨sentences⟩, rfl, rfl, ?_⟩
    unfold Paragraph.sentences
    clear nonempty
    induction sentences with
    | nil => rfl
    | cons sentence sentences inductionHypothesis =>
      obtain ⟨first, others⟩ := List.forall_mem_cons.1 each
      cases first with
      | intro lexemes belongs ends =>
        exact congrArg (List.cons _) (inductionHypothesis others)

namespace Document.WellFormed

variable {document : Document} (wellFormed : document.WellFormed grammar)

include wellFormed

/-- The paragraphs of a document are its children. -/
theorem map_toNode_paragraphs : document.paragraphs.map Paragraph.toNode = document.children := by
  obtain ⟨children⟩ := document
  unfold WellFormed at wellFormed
  unfold paragraphs
  induction children with
  | nil => rfl
  | cons node children inductionHypothesis =>
    obtain ⟨first, others⟩ := List.forall_mem_cons.1 wellFormed
    obtain ⟨paragraph, found, isNode, -⟩ := first.exists_sentences
    simp only [List.filterMap_cons, found, List.map_cons, ← isNode, inductionHypothesis others]

/-- The sentences of a paragraph are its children. -/
theorem map_toNode_sentences {paragraph : Paragraph} (member : paragraph ∈ document.paragraphs) :
    paragraph.sentences.map Sentence.toNode = paragraph.children := by
  obtain ⟨node, isChild, isNode⟩ := List.mem_filterMap.1 member
  obtain ⟨same, found, -, sentences⟩ := (wellFormed node isChild).exists_sentences
  rw [isNode, Option.some.injEq] at found
  rwa [found]

/-- The words of a document are the words of its sentences. -/
theorem words_eq : document.words = document.sentences.flatMap Sentence.words := by
  have inParagraph : ∀ paragraph ∈ document.paragraphs,
      paragraph.toNode.words = paragraph.sentences.flatMap Sentence.words := by
    intro paragraph member
    rw [Paragraph.toNode, Node.words, ← wellFormed.map_toNode_sentences member, Node.wordsAll_eq_flatMap,
      List.flatMap_map]
    rfl
  rw [words, ← wellFormed.map_toNode_paragraphs, Node.wordsAll_eq_flatMap, List.flatMap_map, sentences,
    List.flatMap_assoc, List.flatMap_def, List.flatMap_def, List.map_congr_left inParagraph]

/-- The sentences that are counted in a paragraph are its sentences. -/
theorem sentenceCount_paragraph {paragraph : Paragraph} (member : paragraph ∈ document.paragraphs) :
    paragraph.sentenceCount = paragraph.sentences.length := by
  obtain ⟨node, isChild, isNode⟩ := List.mem_filterMap.1 member
  obtain ⟨seen, isSeen, counted⟩ := (wellFormed node isChild).exists_paragraph
  rw [isNode, Option.some.injEq] at isSeen
  rw [isSeen, ← counted]
  cases wellFormed node isChild with
  | intro nonempty each =>
    cases isNode
    rw [← isSeen]
    simp [Node.count, Paragraph.sentenceCount]

/-- The sentences of a document are counted paragraph by paragraph. -/
theorem sentenceCount_eq_sum :
    document.sentenceCount = (document.paragraphs.map Paragraph.sentenceCount).sum := by
  have inParagraph : Node.count .sentence ∘ Paragraph.toNode = Paragraph.sentenceCount := by
    funext paragraph
    simp [Paragraph.toNode, Node.count, Paragraph.sentenceCount]
  rw [sentenceCount, ← wellFormed.map_toNode_paragraphs, Node.countAll_eq_sum, List.map_map, inParagraph]

/-- A paragraph is rendered as its indent and its sentences. -/
theorem text_paragraph {paragraph : Paragraph} (member : paragraph ∈ document.paragraphs) :
    paragraph.text = Node.indent ++ Text.join " " (paragraph.sentences.map Sentence.text) := by
  rw [Paragraph.text, Paragraph.toNode, Node.text, ← wellFormed.map_toNode_sentences member,
    Node.texts_eq_map, List.map_map]
  rfl

/-- A document is rendered as its paragraphs. -/
theorem text_eq : document.text = Text.join Node.blankLine (document.paragraphs.map Paragraph.text) := by
  rw [text, toNode, Node.text, ← wellFormed.map_toNode_paragraphs, Node.texts_eq_map, List.map_map]
  rfl

end Document.WellFormed

end ProseTree.Tree
