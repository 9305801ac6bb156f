import ProseTree.Proofs.Analysis.Structure
import ProseTree.Proofs.Language.BuiltIn
import ProseTree.Proofs.Reading.Kinds

/-!
# Removing short sentences

Removal keeps, paragraph by paragraph, the sentences that are long enough, and leaves out every paragraph
of which none is kept. All laws follow from this one equation, for documents that nest their nodes in any
way: a paragraph that one removal leaves out would be left out by any further one, so the larger of two
bounds decides. Only where nothing stands beside the sentences does the bound zero change nothing, and this
is so in every document that was read.
-/

namespace ProseTree.Analysis

open ProseTree.Language (BuiltIn Grammar)
open ProseTree.Reading (IsOfSentences Schedule isOfSentences_of_readDocument standardChain)
open ProseTree.Tree (Document Node Paragraph Sentence)

/-- The sentences of a paragraph with at least so many words. -/
def longSentences (minWords : Nat) (paragraph : Paragraph) : List Sentence :=
  paragraph.sentences.filter (minWords ≤ ·.wordCount)

/-- The node of a paragraph of these sentences and nothing else. -/
def paragraphOf (sentences : List Sentence) : Node :=
  .paragraph (sentences.map Sentence.toNode)

section Lists

variable {α : Type}

/-- Lists that are empty already can be left out before the others are filtered. -/
theorem filter_map_filter_nonempty (keep : α → Bool) (lists : List (List α)) :
    ((lists.filter (!·.isEmpty)).map (List.filter keep)).filter (!·.isEmpty) =
      (lists.map (List.filter keep)).filter (!·.isEmpty) := by
  induction lists with
  | nil => rfl
  | cons list lists inductionHypothesis =>
    cases list with
    | nil => exact inductionHypothesis
    | cons first others =>
      rw [List.filter_cons_of_pos rfl, List.map_cons, List.map_cons]
      generalize (first :: others).filter keep = kept
      rw [List.filter_cons, List.filter_cons, inductionHypothesis]

end Lists

section Levels

/-- The sentences of a paragraph of sentences are these. -/
theorem sentences_map_toNode (sentences : List Sentence) :
    Paragraph.sentences ⟨sentences.map Sentence.toNode⟩ = sentences := by
  rw [Paragraph.sentences, List.filterMap_map]
  exact List.filterMap_some

/-- The paragraphs of a document of paragraphs of sentences are these. -/
theorem map_sentences_paragraphs (lists : List (List Sentence)) :
    (Document.paragraphs ⟨lists.map paragraphOf⟩).map Paragraph.sentences = lists := by
  induction lists with
  | nil => rfl
  | cons sentences lists inductionHypothesis =>
    change Paragraph.sentences ⟨sentences.map Sentence.toNode⟩ :: _ = _
    rw [sentences_map_toNode]
    exact congrArg (sentences :: ·) inductionHypothesis

end Levels

variable (document : Document) (minWords : Nat)

/-- The nodes that are kept in a paragraph are its long sentences. -/
theorem filter_isLongSentence (paragraph : Paragraph) :
    paragraph.children.filter (isLongSentence minWords) =
      (longSentences minWords paragraph).map Sentence.toNode := by
  obtain ⟨children⟩ := paragraph
  unfold longSentences Paragraph.sentences
  induction children with
  | nil => rfl
  | cons node children inductionHypothesis =>
    rw [List.filter_cons, inductionHypothesis]
    cases node with
    | sentence parts =>
      have words : isLongSentence minWords (.sentence parts) =
          decide (minWords ≤ Sentence.wordCount ⟨parts⟩) := by
        rw [isLongSentence, Node.count, if_neg (by decide), Nat.zero_add]
        rfl
      rw [words, List.filterMap_cons, Paragraph.sentence?, List.filter_cons]
      split <;> rfl
    | document _ | paragraph _ | lexeme _ _ | word _ | symbol _ | expression _ _ => rfl

/-- What removal leaves of a document: its paragraphs in order, each with its long sentences in order,
without those that have none. -/
theorem children_withoutShortSentences :
    (withoutShortSentences document minWords).children =
      ((document.paragraphs.map (longSentences minWords)).filter (!·.isEmpty)).map paragraphOf := by
  unfold withoutShortSentences
  simp only [filter_isLongSentence]
  induction document.paragraphs with
  | nil => rfl
  | cons paragraph paragraphs inductionHypothesis =>
    rw [List.map_cons, List.map_cons, List.filterMap_cons, inductionHypothesis, List.filter_cons]
    cases longSentences minWords paragraph <;> rfl

/-- The sentences of what is left, paragraph by paragraph. -/
theorem paragraphs_withoutShortSentences :
    (withoutShortSentences document minWords).paragraphs.map Paragraph.sentences =
      (document.paragraphs.map (longSentences minWords)).filter (!·.isEmpty) := by
  conv_lhs => rw [Document.paragraphs, children_withoutShortSentences]
  exact map_sentences_paragraphs _

/-- The sentences of what is left are the long sentences of the document. -/
theorem sentences_withoutShortSentences :
    (withoutShortSentences document minWords).sentences =
      document.sentences.filter (minWords ≤ ·.wordCount) := by
  rw [Document.sentences, List.flatMap_def, paragraphs_withoutShortSentences,
    List.flatten_filter_not_isEmpty, Document.sentences, List.filter_flatMap, List.flatMap_def]
  rfl

/-- What removal leaves of a well-formed document is well-formed. -/
theorem wellFormed_withoutShortSentences {grammar : Grammar} {document : Document}
    (wellFormed : document.WellFormed grammar) (minWords : Nat) :
    (withoutShortSentences document minWords).WellFormed grammar := by
  intro node member
  rw [children_withoutShortSentences] at member
  obtain ⟨sentences, isKept, rfl⟩ := List.mem_map.1 member
  obtain ⟨isLong, nonempty⟩ := List.mem_filter.1 isKept
  obtain ⟨paragraph, inDocument, rfl⟩ := List.mem_map.1 isLong
  refine .intro (by simpa [List.isEmpty_iff] using nonempty) (List.forall_mem_map.2 fun sentence inside => ?_)
  have inParagraph : sentence.toNode ∈ paragraph.children := by
    rw [← wellFormed.map_toNode_sentences inDocument]
    exact List.mem_map_of_mem (List.mem_filter.1 inside).1
  obtain ⟨child, isChild, isParagraph⟩ := List.mem_filterMap.1 inDocument
  cases wellFormed child isChild with
  | intro _ each =>
    cases isParagraph
    exact each _ inParagraph

/-- Of two removals the one with the larger bound decides. -/
theorem withoutShortSentences_withoutShortSentences (more : Nat) :
    withoutShortSentences (withoutShortSentences document minWords) more =
      withoutShortSentences document (max minWords more) := by
  have longer : ∀ paragraph : Paragraph, (longSentences minWords paragraph).filter (more ≤ ·.wordCount) =
      longSentences (max minWords more) paragraph := by
    intro paragraph
    simp only [longSentences, List.filter_filter, ← Bool.decide_and, Nat.max_le, and_comm]
  have lists : (withoutShortSentences document minWords).paragraphs.map (longSentences more) =
      ((document.paragraphs.map (longSentences minWords)).filter (!·.isEmpty)).map
        (List.filter (more ≤ ·.wordCount)) := by
    rw [← paragraphs_withoutShortSentences, List.map_map]
    rfl
  have children : (withoutShortSentences (withoutShortSentences document minWords) more).children =
      (withoutShortSentences document (max minWords more)).children := by
    rw [children_withoutShortSentences, lists, filter_map_filter_nonempty, List.map_map,
      children_withoutShortSentences]
    simp only [Function.comp_def, longer]
  exact congrArg Document.mk children

/-- Nothing is removed from paragraphs of sentences when no words are asked for. -/
theorem withoutShortSentences_zero {document : Document}
    (ofSentences : ∀ node ∈ document.children, IsOfSentences node) :
    withoutShortSentences document 0 = document := by
  obtain ⟨children⟩ := document
  have kept : (withoutShortSentences ⟨children⟩ 0).children = children := by
    rw [children_withoutShortSentences, Document.paragraphs]
    dsimp only at ofSentences ⊢
    induction children with
    | nil => rfl
    | cons node children inductionHypothesis =>
      obtain ⟨⟨sentences, nonempty, rfl⟩, others⟩ := List.forall_mem_cons.1 ofSentences
      have allLong : longSentences 0 ⟨sentences.map Sentence.toNode⟩ = sentences := by
        simp [longSentences, sentences_map_toNode]
      rw [List.filterMap_cons_some (by rfl), List.map_cons, allLong,
        List.filter_cons_of_pos (by simpa using nonempty), List.map_cons, inductionHypothesis others]
      rfl
  exact congrArg Document.mk kept

/-- Removal is a filter of sentences. It leaves the paragraphs of a document in order, each with exactly its
long sentences in order, and no paragraph without any; the larger of two bounds decides; no removal adds a
sentence to those that are counted through the whole tree. This holds of every document. A document that was
read under any grammar is left as it is, node by node, when no words are asked for. -/
theorem withoutShortSentences_filters (document : Document) (minWords more : Nat) :
    (withoutShortSentences document minWords).children =
        ((document.paragraphs.map (longSentences minWords)).filter (!·.isEmpty)).map paragraphOf ∧
      (withoutShortSentences document minWords).sentences =
        document.sentences.filter (minWords ≤ ·.wordCount) ∧
      withoutShortSentences (withoutShortSentences document minWords) more =
        withoutShortSentences document (max minWords more) ∧
      (withoutShortSentences document minWords).sentenceCount ≤ document.sentenceCount ∧
      ∀ (grammar : Grammar) (schedule : Schedule) (text : Text) (reading : Reading),
        (standardChain grammar schedule).readDocument text = .ok reading →
          withoutShortSentences reading.document 0 = reading.document := by
  refine ⟨children_withoutShortSentences document minWords,
    sentences_withoutShortSentences document minWords,
    withoutShortSentences_withoutShortSentences document minWords more,
    countAll_withoutShortSentences_le document minWords .sentence, ?_⟩
  intro grammar schedule text reading read
  exact withoutShortSentences_zero (isOfSentences_of_readDocument read)

/-- Of an English document with a short sentence in each of its two paragraphs, one sentence is left. -/
theorem withoutShortSentences_filters_english :
    ∃ grammar reading, Grammar.ofConfiguration .english = .ok grammar ∧
      (standardChain grammar .sequential).readDocument "\tThe cat saw the dog. Go!\n\n\tThe end." =
        .ok reading ∧
      withoutShortSentences reading.document 0 = reading.document ∧
      withoutShortSentences (withoutShortSentences reading.document 2) 3 =
        withoutShortSentences reading.document 3 ∧
      (withoutShortSentences reading.document 3).sentences =
        reading.document.sentences.filter (3 ≤ ·.wordCount) ∧
      ((withoutShortSentences reading.document 3).sentences.length,
        reading.document.sentences.length) = (1, 3) := by
  obtain ⟨grammar, accepted⟩ := BuiltIn.english.exists_ofConfiguration
  obtain ⟨letters, wordLetters, classes⟩ :=
    Grammar.exists_classes accepted BuiltIn.english.hasPlainLetters
  obtain ⟨paragraphs, gaps, read, -⟩ := Reading.exists_readDocument classes .sequential
    "\tThe cat saw the dog. Go!\n\n\tThe end."
  obtain ⟨-, -, twice, -, unchanged⟩ := withoutShortSentences_filters ⟨paragraphs⟩ 2 3
  obtain ⟨-, sentences, -⟩ := withoutShortSentences_filters ⟨paragraphs⟩ 3 0
  have lengths : ((standardChain grammar .sequential).readDocument
      "\tThe cat saw the dog. Go!\n\n\tThe end.").toOption.map (fun reading =>
        ((withoutShortSentences reading.document 3).sentences.length,
          reading.document.sentences.length)) = some (1, 3) :=
    Grammar.eq_of_computed accepted (fun grammar => ((standardChain grammar .sequential).readDocument
      "\tThe cat saw the dog. Go!\n\n\tThe end.").toOption.map fun reading =>
        ((withoutShortSentences reading.document 3).sentences.length,
          reading.document.sentences.length)) (by decide +kernel)
  rw [read] at lengths
  exact ⟨grammar, _, accepted, read, unchanged _ _ _ _ read, twice, sentences, Option.some.inj lengths⟩

end ProseTree.Analysis
