import ProseTree.Proofs.Reading.Kinds

/-!
# Sentences are counted where they are listed

No stage behind the sentence stage puts a sentence anywhere into what it makes. So below a sentence that was
read there is no other sentence, and the sentences that are counted through the whole tree are those that are
listed paragraph by paragraph. Nothing of this rests on the letters and words of the grammar.
-/

namespace ProseTree.Reading

open ProseTree.Language (Grammar)
open ProseTree.Tree (Document Node Paragraph Sentence Symbol)

variable {grammar : Grammar}

section Stages

end Stages

section Counts

/-- What holds of the children of every sentence that is made holds of those of the sentences of a paragraph
that is made. -/
theorem forall_sentences_of_read_paragraphChain {holds : List Node → Prop}
    (each : ∀ text outcome children, (sentenceChain grammar).read text = .ok outcome →
      outcome.node = some (.sentence children) → holds children)
    {text : Text} {outcome : Outcome} {children : List Node}
    (read : (paragraphChain grammar).read text = .ok outcome)
    (found : outcome.node = some (.paragraph children)) :
    ∀ sentence ∈ Paragraph.sentences ⟨children⟩, holds sentence.children := by
  obtain ⟨-, body, placed⟩ := exists_body_of_read_paragraphChain read found
  have made : ∀ child ∈ children, ∀ sentence ∈ Paragraph.sentence? child, holds sentence.children := by
    refine placed.forall_nodes fun candidate _ outcome known child member => ?_
    obtain ⟨parts, gaps, rfl, rfl⟩ := exists_of_mem_placeSentence member
    rintro sentence ⟨⟩
    exact each candidate _ parts known rfl
  intro sentence member
  obtain ⟨child, isChild, isSentence⟩ := List.mem_filterMap.1 member
  exact made child isChild sentence isSentence

/-- What holds of the children of every sentence that is made holds of those of the sentences of a document
that was read. -/
theorem forall_sentences_of_readDocument {holds : List Node → Prop}
    (each : ∀ text outcome children, (sentenceChain grammar).read text = .ok outcome →
      outcome.node = some (.sentence children) → holds children)
    {schedule : Schedule} {text : Text} {reading : Reading}
    (read : (standardChain grammar schedule).readDocument text = .ok reading) :
    ∀ sentence ∈ reading.document.sentences, holds sentence.children := by
  have made : ∀ node ∈ reading.document.children, ∀ paragraph ∈ Document.paragraph? node,
      ∀ sentence ∈ paragraph.sentences, holds sentence.children := by
    refine (placed_of_readDocument read).forall_nodes fun candidate _ outcome known node member => ?_
    obtain ⟨children, gaps, rfl, rfl⟩ := exists_of_mem_placeParagraph member
    rintro paragraph ⟨⟩
    exact forall_sentences_of_read_paragraphChain each known rfl
  intro sentence member
  obtain ⟨paragraph, inDocument, inParagraph⟩ := List.mem_flatMap.1 member
  obtain ⟨node, isChild, isParagraph⟩ := List.mem_filterMap.1 inDocument
  exact made node isChild paragraph isParagraph sentence inParagraph

end Counts

end ProseTree.Reading
