import ProseTree.Language.Division
import ProseTree.Proofs.Text.Unspaced

/-!
# What division keeps

The candidates of a text hold all of it but white space: paragraph candidates and sentence candidates
follow each other in the order of the text, and a sentence is its body, white space and its
terminator.
-/

namespace ProseTree.Language

open ProseTree.Text (unspaced unspaced_append)

/-- A character in front of the first piece is a character of the whole. -/
theorem flatMap_unspaced_extendFirst (c : Char) (pieces : List Text) :
    (extendFirst c pieces).flatMap unspaced = unspaced [c] ++ pieces.flatMap unspaced := by
  cases pieces with
  | nil => simp [extendFirst]
  | cons piece pieces =>
    simp [extendFirst, ← List.append_assoc, ← unspaced_append]

/-- Blank lines are white space. -/
theorem unspaced_afterBlankLines? {text rest : Text} (found : afterBlankLines? text = some rest) :
    unspaced rest = unspaced text := by
  unfold afterBlankLines? at found
  dsimp only at found
  split at found
  · cases found
    have indent : unspaced ((text.takeWhile Text.isBlank).reverse.takeWhile (· != '\n')).reverse = [] := by
      rw [Text.unspaced_eq_nil_iff]
      intro c member
      have inBlank := (List.takeWhile_prefix _).subset (List.mem_reverse.1 member)
      exact List.all_eq_true.1 (List.all_takeWhile (l := text)) c (List.mem_reverse.1 inBlank)
    rw [unspaced_append, indent, List.nil_append]
    exact Text.unspaced_trimStart text
  · cases found

/-- A paragraph break is white space. -/
theorem unspaced_afterParagraphBreak? {text rest : Text}
    (found : afterParagraphBreak? text = some rest) : unspaced rest = unspaced text := by
  unfold afterParagraphBreak? at found
  split at found
  · rw [unspaced_afterBlankLines? found]
    rfl
  · rw [unspaced_afterBlankLines? found]
    rfl
  · cases found

/-- At a paragraph break a piece ends. -/
theorem cutAtParagraphBreaks_cons_of_some {c : Char} {rest after : Text}
    (found : afterParagraphBreak? (c :: rest) = some after) :
    cutAtParagraphBreaks (c :: rest) = [] :: cutAtParagraphBreaks after := by
  rw [cutAtParagraphBreaks]
  split
  · rename_i other same
    cases found.symm.trans same
    rfl
  · rename_i missing
    cases found.symm.trans missing

/-- Where no paragraph break starts, a character belongs to the piece behind it. -/
theorem cutAtParagraphBreaks_cons_of_none {c : Char} {rest : Text}
    (missing : afterParagraphBreak? (c :: rest) = none) :
    cutAtParagraphBreaks (c :: rest) = extendFirst c (cutAtParagraphBreaks rest) := by
  rw [cutAtParagraphBreaks]
  split
  · rename_i after found
    cases missing.symm.trans found
  · rfl

/-- Between paragraph breaks stands all of a text but white space. -/
theorem flatMap_unspaced_cutAtParagraphBreaks (text : Text) :
    (cutAtParagraphBreaks text).flatMap unspaced = unspaced text := by
  fun_induction cutAtParagraphBreaks text with
  | case1 => rfl
  | case2 c rest after found shorter inductionHypothesis =>
    rw [List.flatMap_cons, inductionHypothesis, unspaced_afterParagraphBreak? found]
    rfl
  | case3 c rest missing inductionHypothesis =>
    rw [flatMap_unspaced_extendFirst, inductionHypothesis, ← unspaced_append, List.singleton_append]

/-- A trimmed piece loses white space only. -/
theorem unspaced_trimPiece (piece : Text) : unspaced (trimPiece piece) = unspaced piece := by
  have onlyBlank : ∀ c, (c == '\r' || c == '\n') = true → Text.isBlank c = true := by
    intro c lineEnd
    simp only [Bool.or_eq_true, beq_iff_eq] at lineEnd
    obtain rfl | rfl := lineEnd <;> decide
  rw [trimPiece, Text.unspaced_trimEnd, Text.unspaced_dropWhile onlyBlank]

/-- Texts of nothing but white space add nothing. -/
theorem flatMap_unspaced_filter {keep : Text → Bool} {pieces : List Text}
    (onlyBlank : ∀ piece ∈ pieces, keep piece = false → unspaced piece = []) :
    (pieces.filter keep).flatMap unspaced = pieces.flatMap unspaced := by
  induction pieces with
  | nil => rfl
  | cons piece pieces inductionHypothesis =>
    obtain ⟨first, others⟩ := List.forall_mem_cons.1 onlyBlank
    cases kept : keep piece with
    | true => simp [kept, inductionHypothesis others]
    | false => simp [kept, inductionHypothesis others, first kept]

/-- The paragraph candidates hold all of a text but white space, in order. -/
theorem flatMap_unspaced_paragraphCandidates (text : Text) :
    (paragraphCandidates text).flatMap unspaced = unspaced text := by
  have onlyBlank : ∀ piece ∈ (cutAtParagraphBreaks text).map trimPiece,
      (!(Text.trim piece).isEmpty) = false → unspaced piece = [] := by
    intro piece _ dropped
    have empty : Text.trim piece = [] := by simpa using dropped
    rw [← Text.unspaced_trim, empty, Text.unspaced_nil]
  rw [paragraphCandidates, flatMap_unspaced_filter onlyBlank, List.flatMap_map]
  simp only [unspaced_trimPiece]
  exact flatMap_unspaced_cutAtParagraphBreaks text

namespace Grammar

variable {grammar : Grammar}

/-- A sentence starts like every start of it. -/
theorem startsSentence_append {text : Text} (starts : grammar.startsSentence text = true)
    (more : Text) : grammar.startsSentence (text ++ more) = true := by
  cases text with
  | nil => cases starts
  | cons c rest => exact starts

/-- What ends a sentence is the ellipsis or one terminator character. -/
def IsMark (grammar : Grammar) (mark : Text) : Prop :=
  mark = grammar.ellipsis ∨ ∃ c, mark = [c] ∧ grammar.isTerminator c = true

/-- A sentence end is a mark at the start of the text, with white space behind it. -/
theorem sentenceEnd?_eq_some {text mark rest : Text}
    (found : grammar.sentenceEnd? text = some (mark, rest)) :
    text = mark ++ rest ∧ grammar.IsMark mark ∧ startsBlank rest = true := by
  have single : ∀ {c after}, (if grammar.isTerminator c && startsBlank after then some ([c], after)
      else none) = some (mark, rest) →
      c :: after = mark ++ rest ∧ grammar.IsMark mark ∧ startsBlank rest = true := by
    intro c after one
    split at one
    · rename_i conditions
      cases one
      obtain ⟨terminator, blank⟩ := Bool.and_eq_true_iff.1 conditions
      exact ⟨rfl, .inr ⟨c, rfl, terminator⟩, blank⟩
    · cases one
  unfold sentenceEnd? at found
  dsimp only at found
  split at found
  · rename_i after dropped
    split at found
    · rename_i blank
      cases found
      exact ⟨Text.dropBeginning?_eq_some_iff.1 dropped, .inl rfl, blank⟩
    · cases text with
      | nil => cases found
      | cons c after => exact single found
  · cases text with
    | nil => cases found
    | cons c after => exact single found

/-- At a sentence end a piece ends, and the white space behind it is left out. -/
theorem cutAfterSentences_cons_of_some {c : Char} {rest mark after : Text}
    (found : grammar.sentenceEnd? (c :: rest) = some (mark, after)) :
    grammar.cutAfterSentences (c :: rest) =
      mark :: grammar.cutAfterSentences (after.dropWhile Text.isBlank) := by
  rw [cutAfterSentences]
  split
  · rename_i other rest same
    cases found.symm.trans same
    rfl
  · rename_i missing
    cases found.symm.trans missing

/-- Where no sentence ends, a character belongs to the piece behind it. -/
theorem cutAfterSentences_cons_of_none {c : Char} {rest : Text}
    (missing : grammar.sentenceEnd? (c :: rest) = none) :
    grammar.cutAfterSentences (c :: rest) = extendFirst c (grammar.cutAfterSentences rest) := by
  rw [cutAfterSentences]
  split
  · rename_i mark after found
    cases missing.symm.trans found
  · rfl

/-- Between sentence ends stands all of a paragraph body but white space. -/
theorem flatMap_unspaced_cutAfterSentences (body : Text) :
    (grammar.cutAfterSentences body).flatMap unspaced = unspaced body := by
  fun_induction grammar.cutAfterSentences body with
  | case1 => rfl
  | case2 c rest mark after found shorter inductionHypothesis =>
    rw [List.flatMap_cons, inductionHypothesis, (sentenceEnd?_eq_some found).1, unspaced_append]
    exact congrArg _ (Text.unspaced_trimStart after)
  | case3 c rest missing inductionHypothesis =>
    rw [flatMap_unspaced_extendFirst, inductionHypothesis, ← unspaced_append, List.singleton_append]

/-- The sentence candidates hold all of a paragraph body but white space, in order. -/
theorem flatMap_unspaced_sentenceCandidates (body : Text) :
    (grammar.sentenceCandidates body).flatMap unspaced = unspaced body := by
  have onlyBlank : ∀ piece ∈ (grammar.cutAfterSentences body).map Text.trim,
      (!piece.isEmpty) = false → unspaced piece = [] := by
    intro piece _ dropped
    have empty : piece = [] := by simpa using dropped
    rw [empty, Text.unspaced_nil]
  rw [sentenceCandidates, flatMap_unspaced_filter onlyBlank, List.flatMap_map]
  simp only [Text.unspaced_trim]
  exact flatMap_unspaced_cutAfterSentences body

/-- A sentence is what stands before its mark, and the mark. The mark is one character only where the
sentence does not end with the ellipsis. -/
theorem splitTerminator?_eq_some {sentence body mark : Text}
    (split : grammar.splitTerminator? sentence = some (body, mark)) :
    ∃ before, sentence = before ++ mark ∧ body = Text.trimEnd before ∧ grammar.IsMark mark ∧
      (mark = grammar.ellipsis ∨ ¬ grammar.ellipsis <:+ sentence) := by
  unfold splitTerminator? at split
  split at split
  · rename_i before dropped
    cases split
    exact ⟨before, Text.dropEnding?_eq_some_iff.1 dropped, rfl, .inl rfl, .inl rfl⟩
  · rename_i missing
    split at split
    · rename_i c last
      obtain ⟨before, rfl⟩ := List.getLast?_eq_some_iff.1 last
      split at split
      · rename_i terminator
        cases split
        refine ⟨before, rfl, by rw [List.dropLast_concat], .inr ⟨c, rfl, terminator⟩, .inr ?_⟩
        rintro ⟨rest, whole⟩
        rw [Text.dropEnding?_eq_some_iff.2 whole.symm] at missing
        cases missing
      · cases split
    · cases split

/-- The mark of a sentence is split off again. -/
theorem splitTerminator?_append {before mark : Text} (isMark : grammar.IsMark mark)
    (preferred : mark = grammar.ellipsis ∨ ¬ grammar.ellipsis <:+ before ++ mark) :
    grammar.splitTerminator? (before ++ mark) = some (Text.trimEnd before, mark) := by
  unfold splitTerminator?
  rcases preferred with rfl | noEllipsis
  · rw [Text.dropEnding?_eq_some_iff.2 rfl]
  · rcases isMark with rfl | ⟨c, rfl, terminator⟩
    · exact absurd (List.suffix_append before _) noEllipsis
    · split
      · rename_i rest dropped
        exact absurd ⟨rest, (Text.dropEnding?_eq_some_iff.1 dropped).symm⟩ noEllipsis
      · simp [terminator]

/-- A sentence loses white space only when its terminator is split off. -/
theorem unspaced_splitTerminator? {sentence body mark : Text}
    (split : grammar.splitTerminator? sentence = some (body, mark)) :
    unspaced body ++ unspaced mark = unspaced sentence := by
  obtain ⟨before, rfl, rfl, _, _⟩ := splitTerminator?_eq_some split
  rw [Text.unspaced_trimEnd, unspaced_append]

/-- An indent of white space is white space. -/
theorem unspaced_unindented? {candidate body : Text}
    (blankMarkers : ∀ marker ∈ grammar.indentMarkers, ∀ c ∈ marker, Text.isBlank c = true)
    (found : grammar.unindented? candidate = some body) : unspaced body = unspaced candidate := by
  obtain ⟨rest, first, rfl⟩ := Option.map_eq_some_iff.1 found
  obtain ⟨marker, member, dropped⟩ := List.exists_of_findSome?_eq_some first
  rw [Text.unspaced_trim, Text.dropBeginning?_eq_some_iff.1 dropped, unspaced_append,
    Text.unspaced_eq_nil_iff.2 (blankMarkers marker member), List.nil_append]

/-- Letters, white space and what ends a sentence are apart from each other. -/
structure SetsMarksApart (grammar : Grammar) : Prop where
  letter : ∀ c, grammar.isLetter c = true → Text.isBlank c = false
  terminator : ∀ c, grammar.isTerminator c = true → Text.isBlank c = false
  noLetter : ∀ c, grammar.isTerminator c = true → grammar.isLetter c = false
  ellipsis : ∀ c ∈ grammar.ellipsis, grammar.isTerminator c = true

namespace SetsMarksApart

variable {c : Char}

/-- White space is no letter. -/
theorem isLetter_eq_false (apart : grammar.SetsMarksApart) (blank : Text.isBlank c = true) :
    grammar.isLetter c = false := by
  rw [← Bool.not_eq_true]
  intro letter
  rw [apart.letter c letter] at blank
  cases blank

/-- White space is no terminator. -/
theorem isTerminator_eq_false (apart : grammar.SetsMarksApart) (blank : Text.isBlank c = true) :
    grammar.isTerminator c = false := by
  rw [← Bool.not_eq_true]
  intro terminator
  rw [apart.terminator c terminator] at blank
  cases blank

end SetsMarksApart

/-- What ends a sentence is made of characters that could do so themselves. -/
theorem SetsMarksApart.isTerminator (apart : grammar.SetsMarksApart) {mark : Text}
    (isMark : grammar.IsMark mark) : ∀ c ∈ mark, grammar.isTerminator c = true := by
  rcases isMark with rfl | ⟨c, rfl, terminator⟩
  · exact apart.ellipsis
  · simpa using terminator

end Grammar

end ProseTree.Language
