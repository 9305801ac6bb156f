import Mathlib.Data.Char
import Mathlib.Data.List.Lex
import ProseTree.Analysis.Words

/-!
# Word counts

The entries of a document stand in strictly ascending order of their words, and so no word has two entries.
The most frequent words and the words that occur more than once are both taken from these entries, and agree
where a word is in both.
-/

namespace ProseTree

/-- The order of words is the order of texts by their characters. -/
theorem Text.precedes_iff_le {left right : Text} : precedes left right = true ↔ left ≤ right := by
  rw [← not_lt]
  induction left generalizing right with
  | nil => simp [precedes]
  | cons c left inductionHypothesis =>
    cases right with
    | nil => simp [precedes]
    | cons d right =>
      rw [precedes, List.cons_lt_cons_iff, Bool.or_eq_true, Bool.and_eq_true, inductionHypothesis,
        decide_eq_true_iff, beq_iff_eq]
      change c < d ∨ c = d ∧ ¬ right < left ↔ _
      obtain less | rfl | greater := lt_trichotomy c d
      · simp [less, less.ne', less.not_gt]
      · simp
      · simp [greater, greater.ne', greater.not_gt]

namespace Analysis

open ProseTree.Tree (Document)

/-- Entries in strictly ascending order of their words. -/
def IsAscending (entries : List WordCount) : Prop :=
  entries.Pairwise fun left right => left.word < right.word

variable {entries : List WordCount}

/-- One more occurrence adds no other word. -/
theorem word_of_mem_addOccurrence {word : Text} {entry : WordCount}
    (member : entry ∈ addOccurrence word entries) :
    entry.word = word ∨ ∃ other ∈ entries, other.word = entry.word := by
  induction entries with
  | nil =>
    rw [List.mem_singleton.1 member]
    exact .inl rfl
  | cons first entries inductionHypothesis =>
    rw [addOccurrence] at member
    split at member
    · obtain rfl | behind := List.mem_cons.1 member
      · exact .inl rfl
      · exact .inr ⟨entry, List.mem_cons_of_mem first behind, rfl⟩
    · split at member
      · obtain rfl | behind := List.mem_cons.1 member
        · exact .inl rfl
        · exact .inr ⟨entry, behind, rfl⟩
      · obtain rfl | behind := List.mem_cons.1 member
        · exact .inr ⟨entry, List.mem_cons_self, rfl⟩
        · exact (inductionHypothesis behind).imp_right fun ⟨other, inRest, same⟩ =>
            ⟨other, List.mem_cons_of_mem first inRest, same⟩

/-- One more occurrence keeps the entries in order. -/
theorem IsAscending.addOccurrence (ascending : IsAscending entries) (word : Text) :
    IsAscending (addOccurrence word entries) := by
  induction entries with
  | nil => exact List.pairwise_singleton _ _
  | cons first entries inductionHypothesis =>
    obtain ⟨before, others⟩ := List.pairwise_cons.1 ascending
    rw [Analysis.addOccurrence]
    split
    · rename_i same
      exact List.pairwise_cons.2 ⟨by rwa [same], others⟩
    · rename_i different
      split
      · rename_i inFront
        have less : word < first.word := lt_of_le_of_ne (Text.precedes_iff_le.1 inFront) different
        refine List.pairwise_cons.2 ⟨List.forall_mem_cons.2 ⟨less, fun entry member => ?_⟩, ascending⟩
        exact less.trans (before entry member)
      · rename_i behind
        rw [Text.precedes_iff_le, not_le] at behind
        refine List.pairwise_cons.2 ⟨fun entry member => ?_, inductionHypothesis others⟩
        obtain rfl | ⟨other, inRest, same⟩ := word_of_mem_addOccurrence member
        · exact behind
        · rw [← same]
          exact before other inRest

/-- The entries of a document are in order. -/
theorem isAscending_wordCounts (document : Document) : IsAscending (wordCounts document) := by
  have keeps : ∀ (words : List Text) (entries : List WordCount), IsAscending entries →
      IsAscending (words.foldl (fun counts word => addOccurrence (Text.toLower word) counts) entries) := by
    intro words
    induction words with
    | nil => exact fun _ ascending => ascending
    | cons word words inductionHypothesis =>
      exact fun _ ascending => inductionHypothesis _ (ascending.addOccurrence _)
  exact keeps document.words [] List.Pairwise.nil

/-- No word has two entries. -/
theorem IsAscending.eq_of_word_eq (ascending : IsAscending entries) {left right : WordCount}
    (inLeft : left ∈ entries) (inRight : right ∈ entries) (same : left.word = right.word) :
    left = right := by
  induction entries with
  | nil => cases inLeft
  | cons first entries inductionHypothesis =>
    obtain ⟨before, others⟩ := List.pairwise_cons.1 ascending
    obtain rfl | leftBehind := List.mem_cons.1 inLeft
    · obtain rfl | rightBehind := List.mem_cons.1 inRight
      · rfl
      · exact absurd (before right rightBehind) (same ▸ lt_irrefl _)
    · obtain rfl | rightBehind := List.mem_cons.1 inRight
      · exact absurd (before left leftBehind) (same ▸ lt_irrefl _)
      · exact inductionHypothesis others leftBehind rightBehind

variable {document : Document} {limit : Nat} {entry duplicate : WordCount}

/-- The words of the entries of a document are its words in lower case. -/
theorem exists_of_mem_wordCounts (member : entry ∈ wordCounts document) :
    ∃ word ∈ document.words, entry.word = Text.toLower word := by
  have counted : ∀ (words : List Text) (entries : List WordCount),
      entry ∈ words.foldl (fun counts word => addOccurrence (Text.toLower word) counts) entries →
        (∃ word ∈ words, entry.word = Text.toLower word) ∨ ∃ other ∈ entries, other.word = entry.word := by
    intro words
    induction words with
    | nil => exact fun entries member => .inr ⟨entry, member, rfl⟩
    | cons word words inductionHypothesis =>
      intro entries member
      obtain ⟨later, inWords, same⟩ | ⟨other, inEntries, same⟩ := inductionHypothesis _ member
      · exact .inl ⟨later, List.mem_cons_of_mem word inWords, same⟩
      · obtain isWord | ⟨first, inFirst, sameFirst⟩ := word_of_mem_addOccurrence inEntries
        · exact .inl ⟨word, List.mem_cons_self, same.symm.trans isWord⟩
        · exact .inr ⟨first, inFirst, sameFirst.trans same⟩
  obtain found | ⟨_, nothing, _⟩ := counted document.words [] member
  · exact found
  · cases nothing

/-- The most frequent words are words of the document. -/
theorem mem_wordCounts_of_mem_frequentWords (member : entry ∈ frequentWords document limit) :
    entry ∈ wordCounts document :=
  List.mem_mergeSort.1 (List.mem_of_mem_take member)

/-- A duplicate of the same word as a frequent word is this word with its count. -/
theorem eq_of_mem_duplicateWords (frequent : entry ∈ frequentWords document limit)
    (isDuplicate : duplicate ∈ duplicateWords document) (same : duplicate.word = entry.word) :
    duplicate = entry :=
  (isAscending_wordCounts document).eq_of_word_eq (List.mem_filter.1 isDuplicate).1
    (mem_wordCounts_of_mem_frequentWords frequent) same

/-- A frequent word is a duplicate exactly when it occurs more than once. -/
theorem exists_mem_duplicateWords_iff (frequent : entry ∈ frequentWords document limit) :
    (∃ duplicate ∈ duplicateWords document, duplicate.word = entry.word) ↔ 1 < entry.count := by
  constructor
  · rintro ⟨duplicate, isDuplicate, same⟩
    rw [← eq_of_mem_duplicateWords frequent isDuplicate same]
    simpa using (List.mem_filter.1 isDuplicate).2
  · intro often
    have counted := mem_wordCounts_of_mem_frequentWords frequent
    exact ⟨entry, List.mem_filter.2 ⟨counted, by simpa using often⟩, rfl⟩

end Analysis

end ProseTree
