import Mathlib.Algebra.GroupWithZero.Nat
import Mathlib.Data.List.Induction
import ProseTree.Proofs.Analysis.WordCounts
import ProseTree.Proofs.Tree.Listing
import ProseTree.Proofs.Tree.WellFormed

/-!
# How often words occur

Each occurrence of a word adds one to the count of its lower case and to no other count. So the entries of a
document count its word leaves at any depth, and their counts add up to its words. The most frequent words are
the first entries of one strict ranking, however many of them are listed.
-/

namespace ProseTree.Analysis

open ProseTree.Tree (Document Node)

/-- How many word leaves a document has, at any depth, whose text is the given one in lower case. -/
def occurrences (document : Document) (key : Text) : Nat :=
  ((document.toNode.listing 0).filterMap (·.2.word?)).countP (Text.toLower · == key)

/-- The word leaves of a document are its words. -/
theorem occurrences_eq (document : Document) (key : Text) :
    occurrences document key = document.words.countP (Text.toLower · == key) := by
  rw [occurrences, Node.filterMap_listing]
  rfl

/-- The count of a word in some entries: none if no entry has it. -/
def countOf (key : Text) (entries : List WordCount) : Nat :=
  ((entries.filter (·.word == key)).map (·.count)).sum

section Counting

variable {entries : List WordCount} {key word : Text}

theorem countOf_cons (entry : WordCount) (entries : List WordCount) (key : Text) :
    countOf key (entry :: entries) = (if entry.word = key then entry.count else 0) + countOf key entries := by
  by_cases same : entry.word = key <;> simp [countOf, same]

/-- One more occurrence of a word adds one to its count and to no other. -/
theorem countOf_addOccurrence (word key : Text) (entries : List WordCount) :
    countOf key (addOccurrence word entries) = countOf key entries + if word = key then 1 else 0 := by
  induction entries with
  | nil => rw [addOccurrence, countOf_cons, Nat.add_comm]
  | cons first entries inductionHypothesis =>
    rw [addOccurrence]
    split
    · rename_i same
      simp only [countOf_cons, ← same]
      split <;> omega
    · split
      · rw [countOf_cons, Nat.add_comm]
      · rw [countOf_cons, countOf_cons, inductionHypothesis, Nat.add_assoc]

/-- One more occurrence of a word adds one to the sum of the counts. -/
theorem sum_count_addOccurrence (word : Text) (entries : List WordCount) :
    ((addOccurrence word entries).map (·.count)).sum = (entries.map (·.count)).sum + 1 := by
  induction entries with
  | nil => rfl
  | cons first entries inductionHypothesis =>
    rw [addOccurrence]
    split
    · simp only [List.map_cons, List.sum_cons]
      omega
    · split
      · simp only [List.map_cons, List.sum_cons]
        omega
      · simp only [List.map_cons, List.sum_cons, inductionHypothesis, Nat.add_assoc]

/-- One more occurrence leaves no entry without a count. -/
theorem count_pos_addOccurrence (positive : ∀ entry ∈ entries, 0 < entry.count) (word : Text) :
    ∀ entry ∈ addOccurrence word entries, 0 < entry.count := by
  induction entries with
  | nil => simp [addOccurrence]
  | cons first entries inductionHypothesis =>
    obtain ⟨atFirst, atOthers⟩ := List.forall_mem_cons.1 positive
    rw [addOccurrence]
    split
    · exact List.forall_mem_cons.2 ⟨Nat.succ_pos _, atOthers⟩
    · split
      · exact List.forall_mem_cons.2 ⟨Nat.one_pos, positive⟩
      · exact List.forall_mem_cons.2 ⟨atFirst, inductionHypothesis atOthers⟩

theorem countWords_concat (words : List Text) (word : Text) :
    countWords (words ++ [word]) = addOccurrence (Text.toLower word) (countWords words) := by
  rw [countWords, List.foldl_append]
  rfl

/-- The counts of a list of words: each one is the number of its words with that lower case, there is none
for a word that does not occur, and together they are as many as the words. -/
theorem countWords_counts (words : List Text) :
    (∀ key, countOf key (countWords words) = words.countP (Text.toLower · == key)) ∧
      (∀ entry ∈ countWords words, 0 < entry.count) ∧
      ((countWords words).map (·.count)).sum = words.length := by
  induction words using List.reverseRecOn with
  | nil => simp [countWords, countOf]
  | append_singleton words word inductionHypothesis =>
    obtain ⟨counts, positive, sum⟩ := inductionHypothesis
    rw [countWords_concat]
    refine ⟨fun key => ?_, count_pos_addOccurrence positive _, ?_⟩
    · rw [countOf_addOccurrence, counts, List.countP_append, List.countP_singleton]
      simp
    · rw [sum_count_addOccurrence, sum, List.length_append]
      rfl

/-- No other entry adds to the count of an entry. -/
theorem IsAscending.countOf_eq (ascending : IsAscending entries) {entry : WordCount}
    (member : entry ∈ entries) : countOf entry.word entries = entry.count := by
  induction entries with
  | nil => cases member
  | cons first entries inductionHypothesis =>
    obtain ⟨before, others⟩ := List.pairwise_cons.1 ascending
    rw [countOf_cons]
    obtain rfl | behind := List.mem_cons.1 member
    · have none : entries.filter (·.word == entry.word) = [] := by
        refine List.filter_eq_nil_iff.2 fun other inRest => ?_
        simpa using (before other inRest).ne'
      simp [countOf, none]
    · rw [if_neg (before entry behind).ne, inductionHypothesis others behind, Nat.zero_add]

/-- A word with a count has an entry. -/
theorem exists_of_countOf_pos (positive : 0 < countOf key entries) : ∃ entry ∈ entries, entry.word = key := by
  have nonempty : entries.filter (·.word == key) ≠ [] := by
    intro none
    simp [countOf, none] at positive
  obtain ⟨entry, member⟩ := List.exists_mem_of_ne_nil _ nonempty
  obtain ⟨inEntries, same⟩ := List.mem_filter.1 member
  exact ⟨entry, inEntries, by simpa using same⟩

end Counting

/-- The entries of a document are the words that occur in it, each with the number of its occurrences. -/
theorem mem_wordCounts_iff {document : Document} {entry : WordCount} :
    entry ∈ wordCounts document ↔
      0 < entry.count ∧ entry.count = occurrences document entry.word := by
  obtain ⟨counts, positive, -⟩ := countWords_counts document.words
  have ascending := isAscending_wordCounts document
  rw [occurrences_eq, ← counts]
  constructor
  · intro member
    exact ⟨positive entry member, (ascending.countOf_eq member).symm⟩
  · rintro ⟨some, same⟩
    obtain ⟨found, member, sameWord⟩ := exists_of_countOf_pos (same ▸ some)
    have sameCount : entry.count = found.count := by
      rw [same, ← sameWord]
      exact ascending.countOf_eq member
    obtain ⟨word, count⟩ := entry
    cases sameWord
    cases sameCount
    exact member

section Ranking

/-- An entry is more frequent than another, or as frequent and its word comes first. -/
def WordCount.RanksAbove (left right : WordCount) : Prop :=
  right.count < left.count ∨ left.count = right.count ∧ left.word < right.word

/-- Some of the entries, no more than a limit, that rank above all others, in their ranking. -/
structure IsTop (entries : List WordCount) (limit : Nat) (top : List WordCount) : Prop where
  length_eq : top.length = min limit entries.length
  listed : ∀ entry ∈ top, entry ∈ entries
  ranked : top.Pairwise WordCount.RanksAbove
  above : ∀ entry ∈ entries, entry ∉ top → ∀ other ∈ top, other.RanksAbove entry

variable {entries : List WordCount}

theorem WordCount.ranksBefore_iff {left right : WordCount} :
    left.ranksBefore right = true ↔
      right.count < left.count ∨ left.count = right.count ∧ left.word ≤ right.word := by
  rw [ranksBefore, Bool.or_eq_true, Bool.and_eq_true, decide_eq_true_iff, beq_iff_eq,
    Text.precedes_iff_le]

/-- Sorted entries of different words are ranked strictly. -/
theorem ranked_mergeSort (ascending : IsAscending entries) :
    (entries.mergeSort WordCount.ranksBefore).Pairwise WordCount.RanksAbove := by
  have sorted : (entries.mergeSort WordCount.ranksBefore).Pairwise fun left right =>
      left.ranksBefore right = true := by
    refine List.pairwise_mergeSort ?_ ?_ entries
    · intro first second third
      simp only [WordCount.ranksBefore_iff]
      rintro (more | ⟨same, before⟩) (moreNext | ⟨sameNext, beforeNext⟩)
      · exact .inl (moreNext.trans more)
      · exact .inl (sameNext ▸ more)
      · exact .inl (same ▸ moreNext)
      · exact .inr ⟨same.trans sameNext, before.trans beforeNext⟩
    · intro first second
      rw [Bool.or_eq_true, WordCount.ranksBefore_iff, WordCount.ranksBefore_iff]
      obtain more | same | fewer := lt_trichotomy second.count first.count
      · exact .inl (.inl more)
      · exact (le_total first.word second.word).imp (fun before => .inr ⟨same.symm, before⟩)
          fun behind => .inr ⟨same, behind⟩
      · exact .inr (.inl fewer)
  have different : (entries.mergeSort WordCount.ranksBefore).Pairwise fun left right =>
      left.word ≠ right.word :=
    (List.mergeSort_perm entries _).symm.pairwise (ascending.imp fun before => before.ne)
      fun apart => Ne.symm apart
  refine (sorted.and different).imp fun {left right} ⟨before, apart⟩ => ?_
  exact (WordCount.ranksBefore_iff.1 before).imp_right fun ⟨same, le⟩ => ⟨same, lt_of_le_of_ne le apart⟩

/-- The first entries of a strict ranking rank above all others. -/
theorem isTop_take {ranking : List WordCount} (sameEntries : ranking.Perm entries)
    (ranked : ranking.Pairwise WordCount.RanksAbove) (limit : Nat) :
    IsTop entries limit (ranking.take limit) where
  length_eq := by rw [List.length_take, sameEntries.length_eq]
  listed := fun _ member => sameEntries.mem_iff.1 (List.mem_of_mem_take member)
  ranked := ranked.sublist (List.take_sublist _ _)
  above := by
    intro entry member left other inTop
    rw [← List.take_append_drop limit ranking, List.pairwise_append] at ranked
    have inRanking := sameEntries.mem_iff.2 member
    rw [← List.take_append_drop limit ranking, List.mem_append] at inRanking
    exact ranked.2.2 other inTop entry (inRanking.resolve_left left)

end Ranking

/-- The entries of a document are in strictly ascending order of their words and count its word leaves at any
depth by their lower case; their counts add up to the number of its words. The duplicates are the entries
that count more than one. The most frequent words are, for every limit, the entries that come first by falling
count and then by ascending word, and a smaller limit gives the beginning of what a larger one gives. -/
theorem wordCounts_frequencies (document : Document) :
    IsAscending (wordCounts document) ∧
      (∀ entry, entry ∈ wordCounts document ↔
        0 < entry.count ∧ entry.count = occurrences document entry.word) ∧
      ((wordCounts document).map (·.count)).sum = document.wordCount ∧
      duplicateWords document = (wordCounts document).filter (1 < ·.count) ∧
      (∀ limit, IsTop (wordCounts document) limit (frequentWords document limit)) ∧
      ∀ smaller larger, smaller ≤ larger →
        frequentWords document smaller <+: frequentWords document larger := by
  have ascending := isAscending_wordCounts document
  obtain ⟨-, -, sum⟩ := countWords_counts document.words
  refine ⟨ascending, fun _ => mem_wordCounts_iff, ?_, rfl, fun limit => ?_, fun smaller larger less => ?_⟩
  · rw [wordCounts, sum, Document.wordCount_eq]
  · exact isTop_take (List.mergeSort_perm _ _) (ranked_mergeSort ascending) limit
  · exact List.take_prefix_take_left less

end ProseTree.Analysis
