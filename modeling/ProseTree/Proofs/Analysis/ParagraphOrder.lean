import ProseTree.Proofs.Analysis.Structure

/-!
# The order of the paragraphs

The ranking is sorted by the number of sentences and keeps the order of paragraphs that have the same
number. No other order of the positions does, so the positions in their ranking are determined by the
counts alone, and each of them is the position of a paragraph.
-/

namespace ProseTree.Analysis

open ProseTree.Tree (Document Paragraph)

variable {document : Document}

/-- There are paragraphs at both positions; the first one has no more sentences than the second one, and
stands in front of it if it has as many. -/
def ComesBefore (document : Document) (left right : Nat) : Prop :=
  ∃ first second, document.paragraphs[left]? = some first ∧ document.paragraphs[right]? = some second ∧
    first.sentenceCount ≤ second.sentenceCount ∧
    (first.sentenceCount = second.sentenceCount → left < right)

/-- No two positions come before each other. -/
theorem ComesBefore.asymm {left right : Nat} (before : ComesBefore document left right) :
    ¬ ComesBefore document right left := by
  obtain ⟨first, second, atLeft, atRight, fewer, inFront⟩ := before
  rintro ⟨third, fourth, atRight', atLeft', fewer', inFront'⟩
  cases atRight.symm.trans atRight'
  cases atLeft.symm.trans atLeft'
  have same := Nat.le_antisymm fewer fewer'
  have less := inFront same
  have more := inFront' same.symm
  omega

/-- The paragraphs of a document are its paragraph children. -/
theorem length_paragraphs (document : Document) :
    document.paragraphs.length = document.children.countP (·.kind = .paragraph) := by
  rw [Document.paragraphs, List.length_filterMap_eq_countP]
  refine List.countP_congr fun node _ => ?_
  cases node <;> simp [Document.paragraph?, Tree.Node.kind]

section Ranking

/-- To have no more sentences is transitive. -/
theorem sentenceCount_le_trans (first second third : Paragraph × Nat)
    (lower : decide (first.1.sentenceCount ≤ second.1.sentenceCount) = true)
    (upper : decide (second.1.sentenceCount ≤ third.1.sentenceCount) = true) :
    decide (first.1.sentenceCount ≤ third.1.sentenceCount) = true :=
  decide_eq_true (Nat.le_trans (of_decide_eq_true lower) (of_decide_eq_true upper))

/-- Of two paragraphs one has no more sentences than the other. -/
theorem sentenceCount_le_total (first second : Paragraph × Nat) :
    (decide (first.1.sentenceCount ≤ second.1.sentenceCount) ||
      decide (second.1.sentenceCount ≤ first.1.sentenceCount)) = true := by
  simpa using Nat.le_total _ _

/-- The ranking is sorted by the number of sentences. -/
theorem sorted_rankedParagraphs (document : Document) :
    (rankedParagraphs document).Pairwise fun left right =>
      left.1.sentenceCount ≤ right.1.sentenceCount := by
  have sorted := List.pairwise_mergeSort sentenceCount_le_trans sentenceCount_le_total
    document.paragraphs.zipIdx
  exact sorted.imp of_decide_eq_true

/-- The paragraphs with the same number of sentences are ranked as they stand in the document. -/
theorem filter_rankedParagraphs (document : Document) (count : Nat) :
    (rankedParagraphs document).filter (fun entry => entry.1.sentenceCount = count) =
      document.paragraphs.zipIdx.filter fun entry => entry.1.sentenceCount = count := by
  -- A part of the list that is sorted already stays a part of the sorted list.
  have alike : (document.paragraphs.zipIdx.filter fun entry => entry.1.sentenceCount = count).Pairwise
      fun left right => decide (left.1.sentenceCount ≤ right.1.sentenceCount) = true := by
    refine List.pairwise_of_forall_mem_list fun left inLeft right inRight => ?_
    have leftCount := of_decide_eq_true (List.mem_filter.1 inLeft).2
    have rightCount := of_decide_eq_true (List.mem_filter.1 inRight).2
    exact decide_eq_true (Nat.le_of_eq (leftCount.trans rightCount.symm))
  have ranked := (List.sublist_mergeSort sentenceCount_le_trans sentenceCount_le_total alike
    List.filter_sublist).filter fun entry => entry.1.sentenceCount = count
  rw [List.filter_filter] at ranked
  have length := ((rankedParagraphs_perm document).filter
    fun entry => entry.1.sentenceCount = count).length_eq
  simp only [Bool.and_self] at ranked
  exact (ranked.eq_of_length length.symm).symm

/-- Paragraphs that stand in the ranking one behind the other stand so in the document if they have the same
number of sentences. -/
theorem pairwise_rankedParagraphs (document : Document) :
    (rankedParagraphs document).Pairwise fun left right =>
      left.1.sentenceCount ≤ right.1.sentenceCount ∧
        (left.1.sentenceCount = right.1.sentenceCount → left.2 < right.2) := by
  refine (sorted_rankedParagraphs document).and (List.pairwise_iff_forall_sublist.2 ?_)
  intro left right behind same
  have alike := behind.filter fun entry => entry.1.sentenceCount = right.1.sentenceCount
  rw [filter_rankedParagraphs] at alike
  simp only [same, List.filter_cons, decide_true, if_true, List.filter_nil] at alike
  have positions := (alike.trans List.filter_sublist).map Prod.snd
  rw [List.zipIdx_map_snd] at positions
  exact List.pairwise_iff_forall_sublist.1 List.pairwise_lt_range' positions

end Ranking

/-- The positions in their ranking come before each other. -/
theorem pairwise_paragraphOrder (document : Document) :
    (paragraphOrder document).Pairwise (ComesBefore document) := by
  refine List.pairwise_map.2 (List.Pairwise.imp_of_mem ?_ (pairwise_rankedParagraphs document))
  intro left right inLeft inRight ranked
  exact ⟨left.1, right.1, getElem?_of_mem_rankedParagraphs inLeft, getElem?_of_mem_rankedParagraphs inRight,
    ranked⟩

/-- The ranking of the positions is the one order of the positions of all paragraph children in which the
numbers of sentences never fall, and positions of the same number rise. At each of these positions there is a
paragraph, whatever other children the document has, and the sorted paragraphs are those at the positions. -/
theorem paragraphOrder_unique (document : Document) :
    (∀ order, order = paragraphOrder document ↔
        order.Perm (List.range (document.children.countP (·.kind = .paragraph))) ∧
          order.Pairwise (ComesBefore document)) ∧
      (paragraphsBySentenceCount document).map some =
        (paragraphOrder document).map (document.paragraphs[·]?) := by
  have positions := paragraphOrder_perm document
  rw [length_paragraphs] at positions
  refine ⟨fun order => ⟨?_, ?_⟩, ?_⟩
  · rintro rfl
    exact ⟨positions, pairwise_paragraphOrder document⟩
  · rintro ⟨samePositions, ordered⟩
    refine List.Perm.eq_of_pairwise ?_ ordered
      (pairwise_paragraphOrder document) (samePositions.trans positions.symm)
    intro _ _ _ _ before behind
    exact absurd behind before.asymm
  · rw [paragraphsBySentenceCount, paragraphOrder, List.map_map, List.map_map]
    exact List.map_congr_left fun _ member => (getElem?_of_mem_rankedParagraphs member).symm

/-- A sentence beside the paragraphs has no position. -/
example : paragraphOrder ⟨[.paragraph [.sentence [], .sentence []], .sentence [],
    .paragraph [.sentence []]]⟩ = [1, 0] := by
  cbv

end ProseTree.Analysis
