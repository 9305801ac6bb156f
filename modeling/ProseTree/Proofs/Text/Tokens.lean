import ProseTree.Proofs.Text.Cutting
import ProseTree.Proofs.Text.Unspaced

/-!
# Tokens and the white space between them

A text is a token as far as it has no white space, and then white space or nothing. Read from left to
right this gives the tokens of a text; read from right to left it gives back the tokens that were
joined by spaces.
-/

namespace ProseTree.Text

/-- White space stands at the start of a text, or nothing at all. -/
def IsEnded (text : Text) : Prop :=
  ∀ c ∈ text.head?, isBlank c = true

/-- Where a part without white space ends is known from the whole text. -/
theorem eq_of_append_eq_append {left right rest more : Text}
    (leftSolid : ∀ c ∈ left, isBlank c = false) (leftEnded : rest.IsEnded)
    (rightSolid : ∀ c ∈ right, isBlank c = false) (rightEnded : more.IsEnded)
    (same : left ++ rest = right ++ more) : left = right ∧ rest = more := by
  have solid : ∀ {part : Text}, (∀ c ∈ part, isBlank c = false) → ∀ c ∈ part, (!isBlank c) = true := by
    intro part noBlank c member
    rw [noBlank c member]
    rfl
  have ended : ∀ {part : Text}, part.IsEnded → ∀ c ∈ part.head?, (!isBlank c) = false := by
    intro part isEnded c first
    rw [isEnded c first]
    rfl
  exact append_inj_of_ended (solid leftSolid) (ended leftEnded) (solid rightSolid) (ended rightEnded) same

/-- A token is taken off where it ends. -/
theorem tokens_append {token rest : Text} (solid : token.IsSolid) (ended : rest.IsEnded) :
    tokens (token ++ rest) = token :: tokens rest := by
  obtain ⟨nonempty, noBlank⟩ := solid
  have kept : (!token.isEmpty) = true := by simpa using nonempty
  cases rest with
  | nil =>
    rw [List.append_nil, tokens, splitWhere_of_none noBlank]
    exact List.filter_cons_of_pos kept
  | cons d rest =>
    have isCut : isBlank d = true := ended d rfl
    rw [tokens, splitWhere_append_cons noBlank isCut, tokens, splitWhere_cons_of_pos isCut]
    exact List.filter_cons_of_pos kept

/-- White space before a text adds no token. -/
theorem tokens_blank_append {blank : Text} (allBlank : ∀ c ∈ blank, isBlank c = true) (rest : Text) :
    tokens (blank ++ rest) = tokens rest := by
  induction blank with
  | nil => rfl
  | cons c blank inductionHypothesis =>
    obtain ⟨first, others⟩ := List.forall_mem_cons.1 allBlank
    rw [List.cons_append, tokens, splitWhere_cons_of_pos first]
    exact inductionHypothesis others

/-- The part of a text up to its first white space, and the rest. -/
theorem exists_solid_append {c : Char} (solid : isBlank c = false) (text : Text) :
    ∃ word rest, text = word ++ rest ∧ IsSolid (c :: word) ∧ rest.IsEnded := by
  refine ⟨text.takeWhile fun d => !isBlank d, text.dropWhile fun d => !isBlank d,
    List.takeWhile_append_dropWhile.symm, ⟨by simp, ?_⟩, ?_⟩
  · intro d member
    rcases List.mem_cons.1 member with rfl | member
    · exact solid
    · simpa using List.all_eq_true.1 (List.all_takeWhile (l := text)) d member
  · intro d first
    have stopped := List.head?_dropWhile_not (fun d => !isBlank d) text
    rw [Option.mem_def.1 first] at stopped
    simpa using stopped

/-- A text that starts with no white space has a first token that starts in the same way. -/
theorem exists_tokens_cons {c : Char} (solid : isBlank c = false) (text : Text) :
    ∃ word others, tokens (c :: text) = (c :: word) :: others := by
  obtain ⟨word, rest, rfl, isSolid, ended⟩ := exists_solid_append solid text
  exact ⟨word, tokens rest, tokens_append isSolid ended⟩

/-- The first token of a text stands behind white space, and the other tokens behind it. -/
theorem exists_of_tokens_eq_cons {text token : Text} {others : List Text}
    (split : tokens text = token :: others) :
    ∃ blank rest, text = blank ++ (token ++ rest) ∧ (∀ c ∈ blank, isBlank c = true) ∧
      rest.IsEnded ∧ tokens rest = others := by
  induction text with
  | nil => cases split
  | cons c text inductionHypothesis =>
    by_cases isCut : isBlank c = true
    · have allBlank : ∀ d ∈ [c], isBlank d = true := by simpa using isCut
      rw [← List.singleton_append, tokens_blank_append allBlank] at split
      obtain ⟨blank, rest, rfl, blanks, ended, following⟩ := inductionHypothesis split
      exact ⟨c :: blank, rest, rfl, List.forall_mem_cons.2 ⟨isCut, blanks⟩, ended, following⟩
    · rw [Bool.not_eq_true] at isCut
      obtain ⟨word, rest, rfl, solid, ended⟩ := exists_solid_append isCut text
      rw [← List.cons_append, tokens_append solid ended] at split
      obtain ⟨rfl, following⟩ := List.cons.inj split
      exact ⟨[], rest, rfl, by simp, ended, following⟩

/-- Behind a token that is not the last one stands white space. -/
theorem exists_blank_of_mem_dropLast {text token : Text}
    (member : token ∈ (tokens text).dropLast) :
    ∃ before d after, text = before ++ token ++ d :: after ∧ isBlank d = true := by
  generalize split : tokens text = all at member
  induction all generalizing text with
  | nil => cases member
  | cons first others inductionHypothesis =>
    obtain ⟨blank, rest, rfl, blanks, ended, following⟩ := exists_of_tokens_eq_cons split
    cases others with
    | nil => cases member
    | cons second others =>
      rw [List.dropLast_cons_cons] at member
      rcases List.mem_cons.1 member with rfl | member
      · cases rest with
        | nil => cases following
        | cons d rest => exact ⟨blank, d, rest, by simp, ended d rfl⟩
      · obtain ⟨before, d, after, rfl, isCut⟩ := inductionHypothesis following member
        exact ⟨blank ++ first ++ before, d, after, by simp, isCut⟩

/-- A text without tokens is white space. -/
theorem isBlank_of_tokens_eq_nil {text : Text} (nothing : tokens text = []) :
    ∀ c ∈ text, isBlank c = true := by
  rw [← unspaced_eq_nil_iff, ← flatten_tokens, nothing]
  rfl

/-- The last token of a text ends it, but for white space, and white space or nothing stands before
it. -/
theorem exists_of_tokens_eq_concat {text last : Text} {others : List Text}
    (split : tokens text = others ++ [last]) :
    ∃ before blank, text = before ++ last ++ blank ∧ (∀ c ∈ blank, isBlank c = true) ∧
      ∀ c ∈ before.getLast?, isBlank c = true := by
  induction others generalizing text with
  | nil =>
    obtain ⟨blank, rest, rfl, blanks, ended, nothing⟩ := exists_of_tokens_eq_cons split
    refine ⟨blank, rest, by simp, ?_, fun c final => blanks c (List.mem_of_mem_getLast? final)⟩
    exact isBlank_of_tokens_eq_nil nothing
  | cons first others inductionHypothesis =>
    obtain ⟨blank, rest, rfl, blanks, ended, following⟩ := exists_of_tokens_eq_cons split
    obtain ⟨before, trailing, rfl, trailingBlanks, final⟩ := inductionHypothesis following
    refine ⟨blank ++ (first ++ before), trailing, by simp, trailingBlanks, ?_⟩
    cases before with
    | nil =>
      -- The first token cannot go on with the last one.
      have member : last ∈ tokens ([] ++ last ++ trailing) := by
        rw [following]
        exact List.mem_append_right others (List.mem_singleton_self last)
      obtain ⟨nonempty, noBlank⟩ := isSolid_of_mem_tokens member
      obtain ⟨d, last, rfl⟩ := List.exists_cons_of_ne_nil nonempty
      have blank := ended d rfl
      rw [noBlank d (by simp)] at blank
      cases blank
    | cons d before => simpa [List.getLast?_append] using final

/-- Tokens that are joined by spaces are found again. -/
theorem tokens_join {pieces : List Text} (solid : ∀ piece ∈ pieces, piece.IsSolid) :
    tokens (join " " pieces) = pieces := by
  fun_induction join " " pieces with
  | case1 => rfl
  | case2 piece =>
    have ended : IsEnded [] := by simp [IsEnded]
    have single := tokens_append (List.forall_mem_singleton.1 solid) ended
    rwa [List.append_nil] at single
  | case3 piece pieces more inductionHypothesis =>
    obtain ⟨first, others⟩ := List.forall_mem_cons.1 solid
    rw [List.append_assoc, tokens_append first (by simp [IsEnded, isBlank]),
      tokens_blank_append (by simp [isBlank]), inductionHypothesis others]

/-- White space stands between the tokens before it and those behind it. -/
theorem tokens_append_cons {d : Char} (isCut : isBlank d = true) (left right : Text) :
    tokens (left ++ d :: right) = tokens left ++ tokens right := by
  rw [tokens, splitWhere_append_cons_of_pos isCut, List.filter_append]
  rfl

/-- White space at the end of a text adds no token. -/
theorem tokens_trimEnd (text : Text) : tokens (trimEnd text) = tokens text := by
  obtain ⟨blank, whole, allBlank⟩ := exists_trimEnd_append text
  conv => rhs; rw [whole]
  cases blank with
  | nil => rw [List.append_nil]
  | cons d blank =>
    have nothing : tokens blank = [] := by
      have blanks := tokens_blank_append (fun c member => allBlank c (List.mem_cons_of_mem d member)) []
      rwa [List.append_nil] at blanks
    rw [tokens_append_cons (allBlank d List.mem_cons_self), nothing, List.append_nil]

/-- Tokens that are joined by spaces are found again in front of those of the last text. -/
theorem tokens_join_concat {pieces : List Text} (solid : ∀ piece ∈ pieces, piece.IsSolid) (last : Text) :
    tokens (join " " (pieces ++ [last])) = pieces ++ tokens last := by
  induction pieces with
  | nil => rfl
  | cons piece pieces inductionHypothesis =>
    obtain ⟨first, others⟩ := List.forall_mem_cons.1 solid
    rw [List.cons_append, join_cons (by simp), tokens_append first (by simp [IsEnded, isBlank]),
      tokens_blank_append (by simp [isBlank]), inductionHypothesis others]
    rfl

/-- Solid words with single spaces between them. -/
inductive IsSpaced : Text → Prop
  | last {word : Text} (solid : word.IsSolid) : IsSpaced word
  | cons {word rest : Text} (solid : word.IsSolid) (others : IsSpaced rest) :
      IsSpaced (word ++ ' ' :: rest)

namespace IsSpaced

variable {text : Text}

/-- Spaced words start with no white space. -/
theorem exists_cons (spaced : text.IsSpaced) :
    ∃ c rest, text = c :: rest ∧ isBlank c = false := by
  cases spaced with
  | last solid | cons solid _ =>
    obtain ⟨c, rest, rfl⟩ := List.exists_cons_of_ne_nil solid.nonempty
    exact ⟨c, _, rfl, solid.noBlank c List.mem_cons_self⟩

/-- Spaced words end with no white space. -/
theorem noBlank_getLast? (spaced : text.IsSpaced) : ∀ c ∈ text.getLast?, isBlank c = false := by
  induction spaced with
  | last solid => exact fun c final => solid.noBlank c (List.mem_of_mem_getLast? final)
  | @cons word rest solid others inductionHypothesis =>
    obtain ⟨d, more, rfl, _⟩ := others.exists_cons
    simpa [List.getLast?_append] using inductionHypothesis

/-- All white space between spaced words are spaces. -/
theorem eq_space_of_isBlank (spaced : text.IsSpaced) :
    ∀ c ∈ text, isBlank c = true → c = ' ' := by
  induction spaced with
  | last solid =>
    intro c member blank
    rw [solid.noBlank c member] at blank
    cases blank
  | @cons word rest solid others inductionHypothesis =>
    intro c member blank
    rcases List.mem_append.1 member with inWord | behind
    · rw [solid.noBlank c inWord] at blank
      cases blank
    · rcases List.mem_cons.1 behind with rfl | inRest
      · rfl
      · exact inductionHypothesis c inRest blank

/-- Trimming keeps spaced words. -/
theorem trim_eq (spaced : text.IsSpaced) : trim text = text := by
  obtain ⟨c, rest, rfl, solid⟩ := spaced.exists_cons
  rw [trim, trimStart_eq_self (by simpa using solid), trimEnd_eq_self spaced.noBlank_getLast?]

/-- Spaced words go on behind a space. -/
theorem append {more : Text} (spaced : text.IsSpaced) (others : more.IsSpaced) :
    IsSpaced (text ++ ' ' :: more) := by
  induction spaced with
  | last solid => exact .cons solid others
  | cons solid _ inductionHypothesis =>
    rw [List.append_assoc, List.cons_append]
    exact .cons solid inductionHypothesis

/-- Spaced words that are joined by spaces are spaced words. -/
theorem join {first : Text} {others : List Text}
    (each : ∀ text ∈ first :: others, IsSpaced text) : IsSpaced (join " " (first :: others)) := by
  induction others generalizing first with
  | nil => exact each first List.mem_cons_self
  | cons second others inductionHypothesis =>
    obtain ⟨spaced, following⟩ := List.forall_mem_cons.1 each
    rw [join_cons (List.cons_ne_nil second others)]
    exact spaced.append (inductionHypothesis following)

end IsSpaced

end ProseTree.Text
