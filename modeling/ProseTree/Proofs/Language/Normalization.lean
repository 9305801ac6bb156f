import ProseTree.Proofs.Language.Phrase

/-!
# Normalized sentences

In a sentence candidate no terminator has white space behind it, since the sentence would have ended
there. So its tokens with single spaces between them and its mark glued to the last one are a phrase,
and the mark that is split off this phrase is the same as before: no new ellipsis can arise where
white space was left out.
-/

namespace ProseTree.Language.Grammar

open ProseTree.Text (IsEnded IsSolid)

variable {grammar : Grammar}

/-- No terminator of the text has white space behind it. -/
def IsUnbroken (grammar : Grammar) (text : Text) : Prop :=
  ∀ before c after, text = before ++ c :: after → grammar.isTerminator c = true →
    startsBlank after = false

/-- What has white space behind it in an unbroken text is no terminator. -/
theorem IsUnbroken.not_isTerminator {text before after : Text} {c d : Char}
    (unbroken : grammar.IsUnbroken text) (whole : text = before ++ c :: d :: after)
    (blank : Text.isBlank d = true) : ¬ grammar.isTerminator c = true := by
  intro terminator
  have noBlank := unbroken before c (d :: after) whole terminator
  rw [startsBlank, List.head?_cons, Option.map_some, Option.getD_some, blank] at noBlank
  cases noBlank

/-- An undivided text is unbroken. -/
theorem IsUndivided.isUnbroken {text : Text} (undivided : grammar.IsUndivided text) :
    grammar.IsUnbroken text :=
  fun before c after whole terminator => undivided before [c] after whole (.inr ⟨c, rfl, terminator⟩)

/-- Trimmed sentence candidates are unbroken. -/
theorem isUnbroken_of_mem_sentenceCandidates (apart : grammar.SetsMarksApart) {body candidate : Text}
    (member : candidate ∈ grammar.sentenceCandidates body) :
    grammar.IsUnbroken (Text.trim candidate) := by
  obtain ⟨_, trimmed, undivided⟩ := isUndivided_of_mem_sentenceCandidates apart.solid member
  rw [trimmed]
  exact undivided.isUnbroken

/-- Words of which no terminator ends one, and a last word that ends in one, are a phrase. -/
theorem isPhrase_join {others : List Text} {last : Text}
    (each : ∀ token ∈ others, token.IsSolid ∧ ¬ grammar.EndsInTerminator token)
    (solid : last.IsSolid) (ends : grammar.EndsInTerminator last) :
    grammar.IsPhrase (Text.join " " (others ++ [last])) := by
  induction others with
  | nil => exact .last solid ends
  | cons token others inductionHypothesis =>
    obtain ⟨⟨first, goesOn⟩, following⟩ := List.forall_mem_cons.1 each
    rw [List.cons_append, Text.join_cons (by simp)]
    exact .cons first goesOn (inductionHypothesis following)

/-- What stands behind joined words stands behind the last one. -/
theorem join_append (others : List Text) (last mark : Text) :
    Text.join " " (others ++ [last]) ++ mark = Text.join " " (others ++ [last ++ mark]) := by
  induction others with
  | nil => rfl
  | cons token others inductionHypothesis =>
    rw [List.cons_append, List.cons_append, Text.join_cons (by simp), Text.join_cons (by simp),
      List.append_assoc, List.append_assoc, inductionHypothesis]

/-- A word with a mark behind it has no white space and ends in a terminator. -/
theorem solid_append_mark (apart : grammar.SetsMarksApart) {word mark : Text} (solid : word.IsSolid)
    (isMark : grammar.IsMark mark) :
    Text.IsSolid (word ++ mark) ∧ grammar.EndsInTerminator (word ++ mark) := by
  refine ⟨⟨by simp [solid.nonempty], fun c member => ?_⟩, ?_⟩
  · obtain inWord | inMark := List.mem_append.1 member
    · exact solid.noBlank c inWord
    · exact apart.noBlank isMark c inMark
  · obtain ⟨c, final, terminator⟩ := apart.endsInTerminator isMark
    exact ⟨c, by simp [List.getLast?_append, Option.mem_def.1 final], terminator⟩

/-- Words of which no terminator ends one, and a last word with a mark behind it, are a phrase. -/
theorem isPhrase_join_append (apart : grammar.SetsMarksApart) {others : List Text} {last mark : Text}
    (each : ∀ token ∈ others, token.IsSolid ∧ ¬ grammar.EndsInTerminator token)
    (solid : last.IsSolid) (isMark : grammar.IsMark mark) :
    grammar.IsPhrase (Text.join " " (others ++ [last]) ++ mark) := by
  obtain ⟨wholeSolid, ends⟩ := solid_append_mark apart solid isMark
  rw [join_append]
  exact isPhrase_join each wholeSolid ends

/-- Joined words end with the last one, behind white space or at the start. -/
theorem exists_join_append (others : List Text) (last : Text) :
    ∃ before, Text.join " " (others ++ [last]) = before ++ last ∧
      ∀ c ∈ before.getLast?, Text.isBlank c = true := by
  induction others with
  | nil => exact ⟨[], rfl, by simp⟩
  | cons token others inductionHypothesis =>
    obtain ⟨before, joined, blank⟩ := inductionHypothesis
    refine ⟨token ++ (" " ++ before), ?_, ?_⟩
    · rw [List.cons_append, Text.join_cons (by simp), joined]
      simp
    · intro c final
      cases before with
      | nil =>
        have space : c = ' ' := by simpa [List.getLast?_append, eq_comm] using final
        rw [space]
        rfl
      | cons d before =>
        apply blank
        simpa [List.getLast?_append] using final

/-- No ellipsis arises at the end of joined words where none does at the end of the last one. -/
theorem noEllipsis_join_append (apart : grammar.SetsMarksApart) {last mark : Text}
    (noEllipsis : ¬ grammar.ellipsis <:+ last ++ mark) (others : List Text) :
    ¬ grammar.ellipsis <:+ Text.join " " (others ++ [last]) ++ mark := by
  intro isSuffix
  obtain ⟨joined, ends, blankBefore⟩ := exists_join_append others last
  rw [ends, List.append_assoc] at isSuffix
  exact noEllipsis (Text.suffix_of_suffix_append (apart.noBlank (.inl rfl)) blankBefore isSuffix)

/-- No ellipsis arises where a character is put behind a word that ends in no terminator. -/
theorem noEllipsis_append_singleton (apart : grammar.SetsMarksApart) {word : Text} {c : Char}
    (goesOn : ¬ grammar.EndsInTerminator word) (noEllipsis : grammar.ellipsis ≠ [c]) :
    ¬ grammar.ellipsis <:+ word ++ [c] := by
  intro isSuffix
  rcases List.suffix_concat_iff.1 isSuffix with nothing | ⟨opening, isEllipsis, inWord⟩
  · exact grammar.ellipsis_ne_nil nothing
  · cases final : opening.getLast? with
    | none =>
      rw [List.getLast?_eq_none_iff.1 final] at isEllipsis
      exact noEllipsis isEllipsis
    | some e =>
      -- The word would end in a character of the ellipsis, which is a terminator.
      refine goesOn ⟨e, ?_, apart.ellipsis e ?_⟩
      · obtain ⟨first, rfl⟩ := inWord
        simp [List.getLast?_append, final]
      · rw [isEllipsis]
        exact List.mem_append_left _ (List.mem_of_getLast? final)

/-- A mark behind joined words is split off again. -/
theorem splitTerminator?_join_append (apart : grammar.SetsMarksApart) {last mark : Text}
    (solid : last.IsSolid) (isMark : grammar.IsMark mark)
    (preferred : mark = grammar.ellipsis ∨ ¬ grammar.ellipsis <:+ last ++ mark) (others : List Text) :
    grammar.splitTerminator? (Text.join " " (others ++ [last]) ++ mark) =
      some (Text.join " " (others ++ [last]), mark) := by
  rw [splitTerminator?_append isMark]
  · obtain ⟨joined, ends, _⟩ := exists_join_append others last
    rw [Text.trimEnd_eq_self]
    intro c final
    rw [ends, List.getLast?_append, List.getLast?_eq_some_getLast solid.nonempty] at final
    cases final
    exact solid.noBlank _ (List.getLast_mem solid.nonempty)
  · exact preferred.imp_right fun noEllipsis => noEllipsis_join_append apart noEllipsis others

/-- A token without the mark at its end. -/
def withoutMark (grammar : Grammar) (token : Text) : Text :=
  ((grammar.splitTerminator? token).map Prod.fst).getD token

/-- What is left of a token without its mark stood in the token. -/
theorem mem_of_mem_withoutMark {token : Text} {c : Char} (member : c ∈ grammar.withoutMark token) :
    c ∈ token := by
  unfold withoutMark at member
  cases split : grammar.splitTerminator? token with
  | none => rwa [split] at member
  | some parts =>
    obtain ⟨before, rfl, isBody, -, -⟩ := splitTerminator?_eq_some split
    obtain ⟨blank, whole, -⟩ := Text.exists_trimEnd_append before
    rw [split, Option.map_some, Option.getD_some, isBody] at member
    rw [whole]
    exact List.mem_append_left _ (List.mem_append_left _ member)

/-- A token that ends in no terminator has no mark at its end. -/
theorem withoutMark_eq_self (apart : grammar.SetsMarksApart) {token : Text}
    (goesOn : ¬ grammar.EndsInTerminator token) : grammar.withoutMark token = token := by
  unfold withoutMark
  cases split : grammar.splitTerminator? token with
  | none => rfl
  | some parts =>
    obtain ⟨before, rfl, -, isMark, -⟩ := splitTerminator?_eq_some split
    obtain ⟨c, final, terminator⟩ := apart.endsInTerminator isMark
    exact absurd ⟨c, by simp [List.getLast?_append, Option.mem_def.1 final], terminator⟩ goesOn

/-- Behind a word that makes no ellipsis with it, the mark is the one at the end of the token. -/
theorem withoutMark_append (apart : grammar.SetsMarksApart) {word mark : Text} (solid : word.IsSolid)
    (isMark : grammar.IsMark mark)
    (preferred : mark = grammar.ellipsis ∨ ¬ grammar.ellipsis <:+ word ++ mark) :
    grammar.withoutMark (word ++ mark) = word := by
  have split := splitTerminator?_join_append apart solid isMark preferred []
  rw [withoutMark, show word ++ mark = Text.join " " ([] ++ [word]) ++ mark from rfl, split]
  rfl

/-- The tokens of a phrase without its mark: only the last one can lose something. -/
theorem exists_splitTerminator?_join (apart : grammar.SetsMarksApart) {others : List Text} {last : Text}
    (each : ∀ token ∈ others, token.IsSolid) (solid : last.IsSolid)
    (ends : grammar.EndsInTerminator last) :
    ∃ body mark, grammar.splitTerminator? (Text.join " " (others ++ [last])) = some (body, mark) ∧
      Text.tokens body = others ++ Text.tokens (grammar.withoutMark last) := by
  obtain ⟨c, final, terminator⟩ := ends
  have marked : grammar.EndsInMark last := by
    obtain ⟨before, rfl⟩ := List.getLast?_eq_some_iff.1 final
    exact ⟨[c], .inr ⟨c, rfl, terminator⟩, List.suffix_append before [c]⟩
  obtain ⟨start, mark, rfl, isMark, split, preferred⟩ := marked.exists_splitTerminator?
  have inToken : grammar.withoutMark (start ++ mark) = Text.trimEnd start := by
    rw [withoutMark, split]
    rfl
  obtain ⟨before, joined, blankBefore⟩ := exists_join_append others (start ++ mark)
  have whole : mark = grammar.ellipsis ∨
      ¬ grammar.ellipsis <:+ Text.join " " (others ++ [start]) ++ mark := by
    refine or_iff_not_imp_left.2 fun other isSuffix => other (preferred ?_)
    rw [join_append, joined] at isSuffix
    exact Text.suffix_of_suffix_append (apart.noBlank (.inl rfl)) blankBefore isSuffix
  rw [← join_append, splitTerminator?_append isMark whole]
  refine ⟨_, _, rfl, ?_⟩
  rw [inToken, Text.tokens_trimEnd, Text.tokens_trimEnd, Text.tokens_join_concat each]

section Normalized

variable {sentence body mark : Text} (unbroken : grammar.IsUnbroken sentence)
  (split : grammar.splitTerminator? sentence = some (body, mark))

include unbroken split

/-- No token of an unbroken sentence but the last one ends in a terminator. -/
theorem not_endsInTerminator_of_mem_dropLast {token : Text}
    (member : token ∈ (Text.tokens body).dropLast) : ¬ grammar.EndsInTerminator token := by
  rintro ⟨c, final, terminator⟩
  obtain ⟨start, rfl, rfl, _, _⟩ := splitTerminator?_eq_some split
  obtain ⟨blank, whole, _⟩ := Text.exists_trimEnd_append start
  obtain ⟨before, d, after, inBody, isCut⟩ := Text.exists_blank_of_mem_dropLast member
  obtain ⟨word, rfl⟩ := List.getLast?_eq_some_iff.1 final
  have same : start ++ mark = before ++ word ++ c :: d :: (after ++ blank ++ mark) := by
    rw [whole, inBody]
    simp
  exact unbroken.not_isTerminator same isCut terminator

variable (apart : grammar.SetsMarksApart)

include apart

/-- In a sentence that does not end with the ellipsis, the last word does not do so either with the mark
glued to it. -/
theorem noEllipsis_normalized {others : List Text} {last : Text}
    (tokens : Text.tokens body = others ++ [last])
    (noEllipsis : ¬ grammar.ellipsis <:+ sentence) : ¬ grammar.ellipsis <:+ last ++ mark := by
  intro inWord
  obtain ⟨start, rfl, rfl, isMark, _⟩ := splitTerminator?_eq_some split
  rcases isMark with rfl | ⟨c, rfl, _⟩
  · exact noEllipsis (List.suffix_append start _)
  obtain ⟨trailing, whole, trailingBlank⟩ := Text.exists_trimEnd_append start
  obtain ⟨before, blank, inBody, allBlank, _⟩ := Text.exists_of_tokens_eq_concat tokens
  have gapBlank : ∀ d ∈ blank ++ trailing, Text.isBlank d = true := by
    intro d member
    rcases List.mem_append.1 member with inBlank | inTrailing
    · exact allBlank d inBlank
    · exact trailingBlank d inTrailing
  rw [inBody, List.append_assoc (before ++ last)] at whole
  generalize blank ++ trailing = gap at whole gapBlank
  cases gap with
  | nil =>
    -- The mark was glued to the last word already.
    apply noEllipsis
    rw [whole, List.append_nil, List.append_assoc]
    exact inWord.trans (List.suffix_append before _)
  | cons d gap =>
    -- The last word has white space behind it, so that no terminator ends it.
    refine noEllipsis_append_singleton apart ?_ ?_ inWord
    · rintro ⟨e, final, endsLast⟩
      obtain ⟨first, rfl⟩ := List.getLast?_eq_some_iff.1 final
      have same : start ++ [c] = before ++ first ++ e :: d :: (gap ++ [c]) := by
        rw [whole]
        simp
      exact unbroken.not_isTerminator same (gapBlank d List.mem_cons_self) endsLast
    · intro isEllipsis
      exact noEllipsis (by rw [isEllipsis]; exact List.suffix_append start _)

/-- Nor does any other word with the mark glued to it, if it is a word of the sentence wherever it ends in
a terminator. -/
theorem noEllipsis_of_mem_tokens {word : Text}
    (isWord : grammar.EndsInTerminator word → word ∈ Text.tokens body)
    (noEllipsis : ¬ grammar.ellipsis <:+ sentence) : ¬ grammar.ellipsis <:+ word ++ mark := by
  by_cases ends : grammar.EndsInTerminator word
  · have member := isWord ends
    have tokens := (List.dropLast_concat_getLast (List.ne_nil_of_mem member)).symm
    rw [tokens] at member
    obtain inFront | isLast := List.mem_append.1 member
    · exact absurd ends (not_endsInTerminator_of_mem_dropLast unbroken split inFront)
    · rw [← List.mem_singleton.1 isLast] at tokens
      exact noEllipsis_normalized unbroken split apart tokens noEllipsis
  · obtain ⟨start, rfl, rfl, isMark, _⟩ := splitTerminator?_eq_some split
    rcases isMark with rfl | ⟨c, rfl, _⟩
    · exact absurd (List.suffix_append start _) noEllipsis
    · refine noEllipsis_append_singleton apart ends fun isEllipsis => noEllipsis ?_
      rw [isEllipsis]
      exact List.suffix_append start _

/-- The mark of an unbroken sentence is split off the normalized sentence. -/
theorem splitTerminator?_normalized (someToken : Text.tokens body ≠ []) :
    grammar.splitTerminator? (Text.join " " (Text.tokens body) ++ mark) =
      some (Text.join " " (Text.tokens body), mark) := by
  have tokens := (List.dropLast_concat_getLast someToken).symm
  have solid := Text.isSolid_of_mem_tokens (List.getLast_mem someToken)
  obtain ⟨_, _, _, isMark, preferred⟩ := splitTerminator?_eq_some split
  generalize (Text.tokens body).dropLast = others at tokens
  generalize (Text.tokens body).getLast someToken = last at tokens solid
  rw [tokens]
  exact splitTerminator?_join_append apart solid isMark
    (preferred.imp_right (noEllipsis_normalized unbroken split apart tokens)) others

/-- An unbroken sentence is normalized to a phrase. -/
theorem isPhrase_normalized (someToken : Text.tokens body ≠ []) :
    grammar.IsPhrase (Text.join " " (Text.tokens body) ++ mark) := by
  obtain ⟨_, _, _, isMark, _⟩ := splitTerminator?_eq_some split
  have solid := Text.isSolid_of_mem_tokens (List.getLast_mem someToken)
  rw [← List.dropLast_concat_getLast someToken]
  apply isPhrase_join_append apart _ solid isMark
  intro token member
  constructor
  · exact Text.isSolid_of_mem_tokens (List.dropLast_subset _ member)
  · exact not_endsInTerminator_of_mem_dropLast unbroken split member

end Normalized

end ProseTree.Language.Grammar
