import ProseTree.Proofs.Language.BuiltIn

/-!
# Dividing a paragraph body once

Where what ends a sentence holds no white space, the pieces of a paragraph body are undivided: no mark in
them has white space behind it. An undivided text is one piece, and ended by a mark it stays one in front of
white space. So pieces are not divided again, neither alone nor joined by spaces.

Marks may overlap each other, and the ellipsis may be any text. What is used of them is only that the white
space behind a mark cannot lie inside another one.
-/

namespace ProseTree.Language.Grammar

open ProseTree.Text (unspaced)

variable {grammar : Grammar}

/-- What ends a sentence holds no white space. -/
structure SetsMarksSolid (grammar : Grammar) : Prop where
  terminator : ∀ c, grammar.isTerminator c = true → Text.isBlank c = false
  ellipsis : ∀ c ∈ grammar.ellipsis, Text.isBlank c = false

/-- Marks that are set apart from white space hold none. -/
theorem SetsMarksApart.solid (apart : grammar.SetsMarksApart) : grammar.SetsMarksSolid where
  terminator := apart.terminator
  ellipsis c member := apart.terminator c (apart.ellipsis c member)

/-- No mark in the text has white space behind it. -/
def IsUndivided (grammar : Grammar) (text : Text) : Prop :=
  ∀ before mark after, text = before ++ (mark ++ after) → grammar.IsMark mark →
    startsBlank after = false

/-- A text that ends with a mark. -/
def EndsInMark (grammar : Grammar) (text : Text) : Prop :=
  ∃ mark, grammar.IsMark mark ∧ mark <:+ text

/-- A mark is not empty. -/
theorem IsMark.ne_nil {mark : Text} (isMark : grammar.IsMark mark) : mark ≠ [] := by
  obtain rfl | ⟨c, rfl, -⟩ := isMark
  · exact grammar.ellipsis_ne_nil
  · simp

/-- A mark holds no white space. -/
theorem SetsMarksSolid.noBlank (solid : grammar.SetsMarksSolid) {mark : Text}
    (isMark : grammar.IsMark mark) : ∀ c ∈ mark, Text.isBlank c = false := by
  obtain rfl | ⟨c, rfl, terminator⟩ := isMark
  · exact solid.ellipsis
  · simpa using solid.terminator c terminator

/-- A text that starts with white space does so in front of any text. -/
theorem startsBlank_append {text : Text} (blank : startsBlank text = true) (rest : Text) :
    startsBlank (text ++ rest) = true := by
  cases text with
  | nil => cases blank
  | cons c text => exact blank

/-- A sentence ends at a mark with white space behind it. -/
theorem sentenceEnd?_append_ne_none {mark rest : Text} (isMark : grammar.IsMark mark)
    (blank : startsBlank rest = true) : grammar.sentenceEnd? (mark ++ rest) ≠ none := by
  obtain rfl | ⟨c, rfl, terminator⟩ := isMark
  · have dropped : Text.dropBeginning? grammar.ellipsis (grammar.ellipsis ++ rest) = some rest :=
      Text.dropBeginning?_eq_some_iff.2 rfl
    simp [sentenceEnd?, dropped, blank]
  · rw [List.singleton_append]
    simp only [sentenceEnd?, terminator, blank, Bool.and_self, if_true]
    split
    · split <;> simp
    · simp

/-- There is always a first piece, and the text starts with it. -/
theorem exists_cutAfterSentences_eq_cons (grammar : Grammar) (text : Text) :
    ∃ piece pieces rest, grammar.cutAfterSentences text = piece :: pieces ∧ text = piece ++ rest := by
  fun_induction grammar.cutAfterSentences text with
  | case1 => exact ⟨[], [], [], rfl, rfl⟩
  | case2 c rest mark after found shorter inductionHypothesis =>
    exact ⟨mark, _, after, rfl, (sentenceEnd?_eq_some found).1⟩
  | case3 c rest missing inductionHypothesis =>
    obtain ⟨piece, pieces, following, cut, rfl⟩ := inductionHypothesis
    rw [cut]
    exact ⟨c :: piece, pieces, following, rfl, rfl⟩

namespace IsUndivided

variable {text : Text}

/-- A part of an undivided text is undivided. -/
theorem of_append {before after : Text} (undivided : grammar.IsUndivided (before ++ text ++ after)) :
    grammar.IsUndivided text := by
  rintro start mark rest rfl isMark
  have whole := undivided (before ++ start) mark (rest ++ after) (by simp) isMark
  rw [Bool.eq_false_iff] at whole ⊢
  exact fun blank => whole (startsBlank_append blank after)

/-- A text without white space is undivided. -/
theorem of_noBlank (noBlank : ∀ c ∈ text, Text.isBlank c = false) : grammar.IsUndivided text := by
  rintro before mark after rfl _
  cases after with
  | nil => rfl
  | cons c after =>
    have solid := noBlank c (by simp)
    rw [startsBlank, List.head?_cons, Option.map_some, Option.getD_some, solid]

/-- An undivided text is one piece. -/
theorem cutAfterSentences_eq (undivided : grammar.IsUndivided text) :
    grammar.cutAfterSentences text = [text] := by
  induction text with
  | nil => rw [cutAfterSentences]
  | cons c text inductionHypothesis =>
    have others : grammar.IsUndivided text := by
      rintro before mark after rfl isMark
      exact undivided (c :: before) mark after rfl isMark
    cases found : grammar.sentenceEnd? (c :: text) with
    | none =>
      rw [cutAfterSentences_cons_of_none found, inductionHypothesis others]
      rfl
    | some ended =>
      obtain ⟨whole, isMark, blank⟩ := sentenceEnd?_eq_some found
      rw [undivided [] ended.1 ended.2 whole isMark] at blank
      cases blank

/-- In front of white space, a sentence cannot end in an undivided text but with all of it. -/
theorem eq_of_sentenceEnd? (solid : grammar.SetsMarksSolid) (undivided : grammar.IsUndivided text)
    {rest mark after : Text} (blank : startsBlank rest = true)
    (found : grammar.sentenceEnd? (text ++ rest) = some (mark, after)) :
    mark = text ∧ after = rest := by
  obtain ⟨whole, isMark, afterBlank⟩ := sentenceEnd?_eq_some found
  obtain ⟨more, rfl, rfl⟩ | ⟨more, rfl, rfl⟩ := List.append_eq_append_iff.1 whole
  · -- The white space behind the text would lie inside the mark.
    cases more with
    | nil => exact ⟨List.append_nil text, rfl⟩
    | cons c more =>
      have noBlank := solid.noBlank isMark c (by simp)
      rw [List.cons_append, startsBlank, List.head?_cons, Option.map_some, Option.getD_some,
        noBlank] at blank
      cases blank
  · -- The mark would divide the text.
    cases more with
    | nil => exact ⟨(List.append_nil mark).symm, rfl⟩
    | cons c more =>
      have goesOn := undivided [] mark (c :: more) rfl isMark
      exact absurd (goesOn.symm.trans afterBlank) (by simp)

/-- An undivided text that ends with a mark is one piece in front of white space. -/
theorem cutAfterSentences_append (solid : grammar.SetsMarksSolid) (undivided : grammar.IsUndivided text)
    (ends : grammar.EndsInMark text) {rest : Text} (blank : startsBlank rest = true) :
    grammar.cutAfterSentences (text ++ rest) =
      text :: grammar.cutAfterSentences (Text.trimStart rest) := by
  obtain ⟨mark, isMark, isSuffix⟩ := ends
  induction text with
  | nil => exact absurd (List.suffix_nil.1 isSuffix) isMark.ne_nil
  | cons c text inductionHypothesis =>
    cases found : grammar.sentenceEnd? (c :: text ++ rest) with
    | none =>
      obtain rfl | inText := List.suffix_cons_iff.1 isSuffix
      · exact absurd found (sentenceEnd?_append_ne_none isMark blank)
      · have others : grammar.IsUndivided text := by
          rintro before mark after rfl isMark
          exact undivided (c :: before) mark after rfl isMark
        have goesOn : grammar.cutAfterSentences (c :: (text ++ rest)) =
            extendFirst c (grammar.cutAfterSentences (text ++ rest)) :=
          cutAfterSentences_cons_of_none found
        rw [inductionHypothesis others inText] at goesOn
        exact goesOn
    | some ended =>
      obtain ⟨found', after⟩ := ended
      obtain ⟨rfl, rfl⟩ := undivided.eq_of_sentenceEnd? solid blank found
      exact cutAfterSentences_cons_of_some found

end IsUndivided

/-- The pieces between sentence ends are undivided. -/
theorem isUndivided_of_mem_cutAfterSentences (solid : grammar.SetsMarksSolid) (text : Text) :
    ∀ piece ∈ grammar.cutAfterSentences text, grammar.IsUndivided piece := by
  fun_induction grammar.cutAfterSentences text with
  | case1 => simpa using IsUndivided.of_noBlank (by simp)
  | case2 c rest mark after found shorter inductionHypothesis =>
    obtain ⟨_, isMark, _⟩ := sentenceEnd?_eq_some found
    exact List.forall_mem_cons.2 ⟨.of_noBlank (solid.noBlank isMark), inductionHypothesis⟩
  | case3 c rest missing inductionHypothesis =>
    obtain ⟨piece, pieces, following, cut, rfl⟩ := exists_cutAfterSentences_eq_cons grammar rest
    rw [cut] at inductionHypothesis ⊢
    obtain ⟨first, others⟩ := List.forall_mem_cons.1 inductionHypothesis
    refine List.forall_mem_cons.2 ⟨?_, others⟩
    intro before mark after whole isMark
    cases before with
    | nil =>
      -- A mark at the start of this piece would have ended the sentence.
      apply Bool.eq_false_iff.2
      intro blank
      have ends := sentenceEnd?_append_ne_none isMark (startsBlank_append blank following)
      rw [← List.append_assoc, ← List.nil_append (mark ++ after), ← whole] at ends
      exact ends missing
    | cons d before =>
      obtain ⟨rfl, rfl⟩ := List.cons.inj whole
      exact first before mark after rfl isMark

/-- All pieces but the last one end with a mark. -/
theorem endsInMark_of_mem_dropLast_cutAfterSentences (grammar : Grammar) (text : Text) :
    ∀ piece ∈ (grammar.cutAfterSentences text).dropLast, grammar.EndsInMark piece := by
  fun_induction grammar.cutAfterSentences text with
  | case1 => simp
  | case2 c rest mark after found shorter inductionHypothesis =>
    obtain ⟨_, isMark, _⟩ := sentenceEnd?_eq_some found
    obtain ⟨piece, pieces, _, cut, _⟩ :=
      exists_cutAfterSentences_eq_cons grammar (after.dropWhile Text.isBlank)
    rw [cut] at inductionHypothesis ⊢
    exact List.forall_mem_cons.2 ⟨⟨mark, isMark, List.suffix_refl mark⟩, inductionHypothesis⟩
  | case3 c rest missing inductionHypothesis =>
    obtain ⟨piece, pieces, _, cut, _⟩ := exists_cutAfterSentences_eq_cons grammar rest
    rw [cut] at inductionHypothesis ⊢
    cases pieces with
    | nil => simp [extendFirst]
    | cons second pieces =>
      obtain ⟨⟨mark, isMark, isSuffix⟩, others⟩ := List.forall_mem_cons.1 inductionHypothesis
      exact List.forall_mem_cons.2
        ⟨⟨mark, isMark, isSuffix.trans (List.suffix_cons c piece)⟩, others⟩

/-- Trimming a text leaves a mark at its end. -/
theorem EndsInMark.trim (solid : grammar.SetsMarksSolid) {text : Text}
    (ends : grammar.EndsInMark text) : grammar.EndsInMark (Text.trim text) := by
  obtain ⟨mark, isMark, isSuffix⟩ := ends
  have noBlank := solid.noBlank isMark
  rw [← Text.takeWhile_append_trimStart text] at isSuffix
  have inRest : mark <:+ Text.trimStart text := by
    refine Text.suffix_of_suffix_append noBlank ?_ isSuffix
    intro c final
    exact List.all_eq_true.1 List.all_takeWhile c (List.mem_of_getLast? final)
  have kept : Text.trim text = Text.trimStart text := by
    apply Text.trimEnd_eq_self
    obtain ⟨before, whole⟩ := inRest
    intro c final
    rw [← whole, List.getLast?_append, List.getLast?_eq_some_getLast isMark.ne_nil] at final
    cases final
    exact noBlank _ (List.getLast_mem isMark.ne_nil)
  rw [kept]
  exact ⟨mark, isMark, inRest⟩

/-- The mark at the end of a text is split off, the ellipsis whole. -/
theorem EndsInMark.exists_splitTerminator? {text : Text} (ends : grammar.EndsInMark text) :
    ∃ before mark, text = before ++ mark ∧ grammar.IsMark mark ∧
      grammar.splitTerminator? text = some (Text.trimEnd before, mark) ∧
      (grammar.ellipsis <:+ text → mark = grammar.ellipsis) := by
  by_cases withEllipsis : grammar.ellipsis <:+ text
  · obtain ⟨before, rfl⟩ := withEllipsis
    exact ⟨before, grammar.ellipsis, rfl, .inl rfl, splitTerminator?_append (.inl rfl) (.inl rfl),
      fun _ => rfl⟩
  · obtain ⟨mark, isMark, before, rfl⟩ := ends
    exact ⟨before, mark, rfl, isMark, splitTerminator?_append isMark (.inr withEllipsis),
      fun isSuffix => absurd isSuffix withEllipsis⟩

section Candidates

variable (solid : grammar.SetsMarksSolid)

include solid

/-- A sentence candidate is trimmed and not empty, and no sentence ends inside it. -/
theorem isUndivided_of_mem_sentenceCandidates {body candidate : Text}
    (member : candidate ∈ grammar.sentenceCandidates body) :
    candidate ≠ [] ∧ Text.trim candidate = candidate ∧ grammar.IsUndivided candidate := by
  obtain ⟨trimmed, nonempty⟩ := List.mem_filter.1 member
  obtain ⟨piece, isPiece, rfl⟩ := List.mem_map.1 trimmed
  obtain ⟨before, after, whole⟩ := Text.exists_append_trim piece
  have undivided := isUndivided_of_mem_cutAfterSentences solid body piece isPiece
  rw [whole] at undivided
  exact ⟨by simpa using nonempty, Text.trim_trim piece, undivided.of_append⟩

/-- All sentence candidates but the last one end with a mark. -/
theorem endsInMark_of_mem_dropLast_sentenceCandidates {body candidate : Text}
    (member : candidate ∈ (grammar.sentenceCandidates body).dropLast) :
    grammar.EndsInMark candidate := by
  have ends := endsInMark_of_mem_dropLast_cutAfterSentences grammar body
  rw [sentenceCandidates] at member
  generalize grammar.cutAfterSentences body = pieces at ends member
  obtain rfl | ⟨init, last, rfl⟩ := List.eq_nil_or_concat pieces
  · cases member
  · rw [List.concat_eq_append] at ends member
    rw [List.dropLast_concat] at ends
    have inInit : candidate ∈ (init.map Text.trim).filter fun piece => !piece.isEmpty := by
      rw [List.map_append, List.filter_append, List.map_singleton, List.filter_cons,
        List.filter_nil] at member
      split at member
      · rwa [List.dropLast_concat] at member
      · rw [List.append_nil] at member
        exact List.dropLast_subset _ member
    obtain ⟨piece, isPiece, rfl⟩ := List.mem_map.1 (List.mem_filter.1 inInit).1
    exact (ends piece isPiece).trim solid

/-- Undivided texts that end with a mark are cut where single spaces join them. -/
theorem cutAfterSentences_join {first : Text} {others : List Text}
    (trimmed : ∀ text ∈ others, text ≠ [] ∧ Text.trim text = text)
    (undivided : ∀ text ∈ first :: others, grammar.IsUndivided text)
    (ends : ∀ text ∈ (first :: others).dropLast, grammar.EndsInMark text) :
    grammar.cutAfterSentences (Text.join " " (first :: others)) = first :: others := by
  induction others generalizing first with
  | nil => exact (undivided first List.mem_cons_self).cutAfterSentences_eq
  | cons second others inductionHypothesis =>
    obtain ⟨firstUndivided, othersUndivided⟩ := List.forall_mem_cons.1 undivided
    obtain ⟨firstEnds, othersEnd⟩ := List.forall_mem_cons.1 ends
    obtain ⟨⟨nonempty, isTrimmed⟩, othersTrimmed⟩ := List.forall_mem_cons.1 trimmed
    have atSpace : Text.trimStart (" " ++ Text.join " " (second :: others)) =
        Text.join " " (second :: others) := by
      change Text.trimStart (Text.join " " (second :: others)) = Text.join " " (second :: others)
      apply Text.trimStart_eq_self
      intro c starts
      obtain ⟨rest, whole⟩ := Text.exists_join_eq_append " " second others
      rw [whole, List.head?_append, List.head?_eq_some_head nonempty] at starts
      have secondStarts : c ∈ (Text.trim second).head? := by
        rw [isTrimmed, List.head?_eq_some_head nonempty]
        exact starts
      exact Text.isBlank_of_mem_head?_trim c secondStarts
    rw [Text.join_cons (by simp), firstUndivided.cutAfterSentences_append solid firstEnds rfl, atSpace,
      inductionHypothesis othersTrimmed othersUndivided othersEnd]

/-- Trimmed undivided texts that end with a mark are the sentence candidates of the text that single
spaces join them to. -/
theorem sentenceCandidates_join {texts : List Text}
    (trimmed : ∀ text ∈ texts, text ≠ [] ∧ Text.trim text = text)
    (undivided : ∀ text ∈ texts, grammar.IsUndivided text)
    (ends : ∀ text ∈ texts.dropLast, grammar.EndsInMark text) :
    grammar.sentenceCandidates (Text.join " " texts) = texts := by
  cases texts with
  | nil =>
    rw [sentenceCandidates, Text.join, cutAfterSentences]
    rfl
  | cons first others =>
    have othersTrimmed := (List.forall_mem_cons.1 trimmed).2
    have same : (first :: others).map Text.trim = first :: others :=
      (List.map_congr_left fun text member => (trimmed text member).2).trans (List.map_id _)
    rw [sentenceCandidates, cutAfterSentences_join solid othersTrimmed undivided ends, same,
      List.filter_eq_self]
    intro text member
    simpa using (trimmed text member).1

/-- Dividing a paragraph body is an exact partition, and dividing its pieces changes nothing: the candidates
hold all of the body but white space, each is trimmed, not empty and undivided, each but the last one ends
with a mark that is split off it, and they are again the candidates of themselves, alone or joined. -/
theorem sentenceCandidates_partition (body : Text) :
    (grammar.sentenceCandidates body).flatMap unspaced = unspaced body ∧
    (∀ piece ∈ grammar.sentenceCandidates body, piece ≠ [] ∧ Text.trim piece = piece ∧
      grammar.IsUndivided piece ∧ grammar.sentenceCandidates piece = [piece]) ∧
    (∀ piece ∈ (grammar.sentenceCandidates body).dropLast, ∃ before mark, piece = before ++ mark ∧
      grammar.IsMark mark ∧ grammar.splitTerminator? piece = some (Text.trimEnd before, mark) ∧
      (grammar.ellipsis <:+ piece → mark = grammar.ellipsis)) ∧
    grammar.sentenceCandidates (Text.join " " (grammar.sentenceCandidates body)) =
      grammar.sentenceCandidates body := by
  have each : ∀ piece ∈ grammar.sentenceCandidates body,
      piece ≠ [] ∧ Text.trim piece = piece ∧ grammar.IsUndivided piece :=
    fun piece member => isUndivided_of_mem_sentenceCandidates solid member
  refine ⟨flatMap_unspaced_sentenceCandidates body, ?pieces, ?marks, ?joined⟩
  case pieces =>
    intro piece member
    obtain ⟨nonempty, trimmed, undivided⟩ := each piece member
    refine ⟨nonempty, trimmed, undivided, ?_⟩
    change grammar.sentenceCandidates (Text.join " " [piece]) = [piece]
    apply sentenceCandidates_join solid
    · simpa using ⟨nonempty, trimmed⟩
    · simpa using undivided
    · simp
  case marks =>
    intro piece member
    exact (endsInMark_of_mem_dropLast_sentenceCandidates solid member).exists_splitTerminator?
  case joined =>
    apply sentenceCandidates_join solid
    · exact fun piece member => ⟨(each piece member).1, (each piece member).2.1⟩
    · exact fun piece member => (each piece member).2.2
    · exact fun piece member => endsInMark_of_mem_dropLast_sentenceCandidates solid member

end Candidates

/-- English marks are solid: an ellipsis and two terminators in a row end a sentence, a dot inside a word
does not. -/
theorem sentenceCandidates_partition_english :
    ∃ grammar, ofConfiguration .english = .ok grammar ∧ grammar.SetsMarksSolid ∧
      grammar.sentenceCandidates "Wait...  Go 1.5?!\nNow " = ["Wait...".toList, "Go 1.5?!", "Now"] ∧
      grammar.splitTerminator? "Wait..." = some ("Wait".toList, "...".toList) ∧
      grammar.sentenceCandidates "Wait... Go 1.5?! Now" = ["Wait...".toList, "Go 1.5?!", "Now"] := by
  obtain ⟨grammar, accepted⟩ := BuiltIn.english.exists_ofConfiguration
  have solid : grammar.SetsMarksSolid := (BuiltIn.setsMarksApart accepted).solid
  have candidates : grammar.sentenceCandidates "Wait...  Go 1.5?!\nNow " =
      ["Wait...".toList, "Go 1.5?!", "Now"] :=
    eq_of_computed accepted (fun grammar => grammar.sentenceCandidates "Wait...  Go 1.5?!\nNow ")
      (by decide +kernel)
  have ellipsis : grammar.ellipsis = "..." := (follows_of_ofConfiguration accepted).ellipsis
  obtain ⟨-, -, marks, joined⟩ := sentenceCandidates_partition solid "Wait...  Go 1.5?!\nNow "
  rw [candidates] at marks joined
  obtain ⟨before, mark, whole, -, split, inFull⟩ := marks "Wait..." (by decide)
  obtain rfl : mark = "...".toList := by
    rw [← ellipsis]
    exact inFull (by rw [ellipsis]; decide)
  obtain rfl : before = "Wait".toList := List.append_cancel_right whole.symm
  exact ⟨grammar, accepted, solid, candidates, split, joined⟩

end ProseTree.Language.Grammar
