import ProseTree.Analysis.Structure
import ProseTree.Proofs.Tree.Levels

/-!
# Ranked paragraphs, longest words and removed sentences

A ranking lists every paragraph once and with its own position. The longest words of a document stand in its
sentences as long as it is well-formed, and then there are such sentences exactly when there are words.
Removing sentences never adds a node of any kind, whatever the document looks like.
-/

namespace ProseTree.Analysis

open ProseTree.Language (Grammar)
open ProseTree.Tree (Document Kind Node Paragraph)

variable {document : Document}

section Ranking

/-- A ranking lists the paragraphs with their positions. -/
theorem rankedParagraphs_perm (document : Document) :
    (rankedParagraphs document).Perm document.paragraphs.zipIdx :=
  List.mergeSort_perm _ _

/-- Every position is listed once. -/
theorem paragraphOrder_perm (document : Document) :
    (paragraphOrder document).Perm (List.range document.paragraphs.length) := by
  have positions := (rankedParagraphs_perm document).map Prod.snd
  rwa [List.zipIdx_map_snd, ← List.range_eq_range'] at positions

/-- Every paragraph is listed as often as it stands in the document. -/
theorem paragraphsBySentenceCount_perm (document : Document) :
    (paragraphsBySentenceCount document).Perm document.paragraphs := by
  have paragraphs := (rankedParagraphs_perm document).map Prod.fst
  rwa [List.zipIdx_map_fst] at paragraphs

/-- The paragraph that is listed with a position stands there. -/
theorem getElem?_of_mem_rankedParagraphs {paragraph : Paragraph} {position : Nat}
    (member : (paragraph, position) ∈ rankedParagraphs document) :
    document.paragraphs[position]? = some paragraph :=
  List.mem_zipIdx_iff_getElem?.1 ((rankedParagraphs_perm document).mem_iff.1 member)

end Ranking

section Longest

variable {longest : Nat}

/-- There is a greatest length exactly when there are words. -/
theorem longestWordLength?_eq_none_iff :
    longestWordLength? document = none ↔ document.wordCount = 0 := by
  rw [longestWordLength?, List.max?_eq_none_iff, List.map_eq_nil_iff, Document.wordCount_eq,
    List.length_eq_zero_iff]

/-- The greatest length is the length of a word, and no word is longer. -/
theorem longestWordLength?_eq_some_iff :
    longestWordLength? document = some longest ↔
      (∃ word ∈ document.words, word.length = longest) ∧
        ∀ word ∈ document.words, word.length ≤ longest := by
  rw [longestWordLength?, List.max?_eq_some_iff, List.mem_map, List.forall_mem_map]

/-- The sentences that are listed are those that hold a word of the greatest length. -/
theorem longestWordSentences_eq_filter (found : longestWordLength? document = some longest) :
    longestWordSentences document =
      document.sentences.filter fun sentence => sentence.words.any (·.length == longest) := by
  rw [longestWordSentences, found]

/-- Sentences are listed exactly when there are words. -/
theorem longestWordSentences_eq_nil_iff {grammar : Grammar}
    (wellFormed : document.WellFormed grammar) :
    longestWordSentences document = [] ↔ document.wordCount = 0 := by
  rw [← longestWordLength?_eq_none_iff]
  cases found : longestWordLength? document with
  | none => simp [longestWordSentences, found]
  | some longest =>
    obtain ⟨⟨word, member, isLongest⟩, -⟩ := longestWordLength?_eq_some_iff.1 found
    rw [wellFormed.words_eq] at member
    obtain ⟨sentence, inDocument, inSentence⟩ := List.mem_flatMap.1 member
    have listed : sentence ∈ longestWordSentences document := by
      rw [longestWordSentences_eq_filter found, List.mem_filter]
      exact ⟨inDocument, List.any_eq_true.2 ⟨word, inSentence, by simpa using isLongest⟩⟩
    simp [List.ne_nil_of_mem listed]

end Longest

section Removal

/-- Leaving out trees adds no node of any kind. -/
theorem countAll_filter_le (kind : Kind) (keep : Node → Bool) (nodes : List Node) :
    Node.countAll kind (nodes.filter keep) ≤ Node.countAll kind nodes := by
  induction nodes with
  | nil => exact Nat.le_refl 0
  | cons node nodes inductionHypothesis =>
    rw [List.filter_cons]
    split
    · exact Nat.add_le_add_left inductionHypothesis _
    · exact Nat.le_trans inductionHypothesis (Nat.le_add_left _ _)

/-- Removing short sentences adds no node of any kind. -/
theorem countAll_withoutShortSentences_le (document : Document) (minWords : Nat) (kind : Kind) :
    Node.countAll kind (withoutShortSentences document minWords).children ≤
      Node.countAll kind document.children := by
  obtain ⟨children⟩ := document
  unfold withoutShortSentences Document.paragraphs
  induction children with
  | nil => exact Nat.le_refl 0
  | cons node children inductionHypothesis =>
    cases node with
    | paragraph parts =>
      have kept := countAll_filter_le kind (isLongSentence minWords) parts
      simp only [List.filterMap_cons, Document.paragraph?, List.map_cons] at inductionHypothesis ⊢
      split
      · rw [Node.countAll]
        omega
      · rename_i isKept
        split at isKept
        · cases isKept
        · cases isKept
          simp only [Node.countAll, Node.count]
          omega
    | document _ | sentence _ | lexeme _ _ | word _ | symbol _ | expression _ _ =>
      exact Nat.le_trans inductionHypothesis (Nat.le_add_left _ _)

end Removal

end ProseTree.Analysis
