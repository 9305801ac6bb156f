import ProseTree.Proofs.Language.Undivided
import ProseTree.Proofs.Text.Tokens

/-!
# Sentences in a row

A phrase is what a rendered sentence looks like: words with single spaces between them, of which only
the last one ends with a terminator. It is undivided and ends with a mark, so that phrases with spaces
between them are cut exactly behind each one.
-/

namespace ProseTree.Language.Grammar

open ProseTree.Text (IsEnded)

variable {grammar : Grammar}

/-- A text whose last character could end a sentence. -/
def EndsInTerminator (grammar : Grammar) (text : Text) : Prop :=
  ∃ c ∈ text.getLast?, grammar.isTerminator c = true

instance (text : Text) : Decidable (grammar.EndsInTerminator text) :=
  decidable_of_iff (text.getLast?.any grammar.isTerminator = true) (by
    unfold EndsInTerminator
    cases text.getLast? <;> simp)

/-- Words with single spaces between them, of which only the last one ends with a terminator. -/
inductive IsPhrase (grammar : Grammar) : Text → Prop
  | last {word : Text} (solid : word.IsSolid) (ends : grammar.EndsInTerminator word) :
      IsPhrase grammar word
  | cons {word rest : Text} (solid : word.IsSolid) (goesOn : ¬ grammar.EndsInTerminator word)
      (others : IsPhrase grammar rest) : IsPhrase grammar (word ++ ' ' :: rest)

/-- A phrase is made of words with single spaces between them. -/
theorem IsPhrase.isSpaced {text : Text} (phrase : grammar.IsPhrase text) : text.IsSpaced := by
  induction phrase with
  | last solid _ => exact .last solid
  | cons solid _ _ inductionHypothesis => exact .cons solid inductionHypothesis

section Cutting

variable (apart : grammar.SetsMarksApart)

include apart

/-- What ends a sentence has no white space. -/
theorem SetsMarksApart.noBlank {mark : Text} (isMark : grammar.IsMark mark) :
    ∀ c ∈ mark, Text.isBlank c = false :=
  apart.solid.noBlank isMark

/-- What ends a sentence is not empty, and its last character is a terminator. -/
theorem SetsMarksApart.endsInTerminator {mark : Text} (isMark : grammar.IsMark mark) :
    grammar.EndsInTerminator mark := by
  refine ⟨mark.getLast isMark.ne_nil, List.getLast?_eq_some_getLast isMark.ne_nil, ?_⟩
  exact apart.isTerminator isMark _ (List.getLast_mem isMark.ne_nil)

/-- White space ends no sentence. -/
theorem sentenceEnd?_eq_none_of_isBlank {c : Char} (blank : Text.isBlank c = true) (rest : Text) :
    grammar.sentenceEnd? (c :: rest) = none := by
  rw [Option.eq_none_iff_forall_ne_some]
  rintro ⟨mark, after⟩ found
  obtain ⟨whole, isMark, _⟩ := sentenceEnd?_eq_some found
  obtain ⟨d, mark, rfl⟩ := List.exists_cons_of_ne_nil isMark.ne_nil
  obtain ⟨rfl, _⟩ := List.cons.inj whole
  have solid := apart.noBlank isMark c List.mem_cons_self
  rw [blank] at solid
  cases solid

/-- In a phrase no mark has white space behind it, since only its last word ends with a terminator. -/
theorem IsPhrase.isUndivided {text : Text} (phrase : grammar.IsPhrase text) :
    grammar.IsUndivided text := by
  induction phrase with
  | last solid _ => exact .of_noBlank solid.noBlank
  | @cons word rest solid goesOn others inductionHypothesis =>
    intro before mark after whole isMark
    apply Bool.eq_false_iff.2
    intro blank
    obtain ⟨more, rfl, behind⟩ | ⟨more, rfl, behind⟩ := List.append_eq_append_iff.1 whole
    · cases more with
      | nil =>
        -- The mark would start with the space behind the word.
        obtain ⟨c, mark, rfl⟩ := List.exists_cons_of_ne_nil isMark.ne_nil
        obtain ⟨rfl, _⟩ := List.cons.inj behind
        exact absurd (apart.noBlank isMark ' ' List.mem_cons_self) (by decide)
      | cons c more =>
        obtain ⟨_, inRest⟩ := List.cons.inj behind
        exact absurd blank (by simp [inductionHypothesis more mark after inRest isMark])
    · -- The word would end with the mark.
      have noBlank : ∀ c ∈ more, Text.isBlank c = false :=
        fun c member => solid.noBlank c (List.mem_append_right _ member)
      have afterEnded : after.IsEnded := by
        intro c first
        simpa [startsBlank, Option.mem_def.1 first] using blank
      obtain ⟨rfl, _⟩ := Text.eq_of_append_eq_append noBlank
        (by simp [IsEnded, Text.isBlank]) (apart.noBlank isMark) afterEnded behind.symm
      obtain ⟨c, final, terminator⟩ := apart.endsInTerminator isMark
      exact goesOn ⟨c, by simp [List.getLast?_append, Option.mem_def.1 final], terminator⟩

omit apart in
/-- A phrase ends with a mark. -/
theorem IsPhrase.endsInMark {text : Text} (phrase : grammar.IsPhrase text) :
    grammar.EndsInMark text := by
  induction phrase with
  | last _ ends =>
    obtain ⟨c, final, terminator⟩ := ends
    obtain ⟨before, rfl⟩ := List.getLast?_eq_some_iff.1 final
    exact ⟨[c], .inr ⟨c, rfl, terminator⟩, List.suffix_append before [c]⟩
  | cons _ _ _ inductionHypothesis =>
    obtain ⟨mark, isMark, isSuffix⟩ := inductionHypothesis
    exact ⟨mark, isMark, isSuffix.trans ((List.suffix_cons _ _).trans (List.suffix_append _ _))⟩

/-- Phrases that are joined by spaces are the sentence candidates of the whole. -/
theorem sentenceCandidates_join_phrases {texts : List Text}
    (phrases : ∀ text ∈ texts, grammar.IsPhrase text) :
    grammar.sentenceCandidates (Text.join " " texts) = texts := by
  apply sentenceCandidates_join apart.solid
  · intro text member
    have spaced := (phrases text member).isSpaced
    obtain ⟨c, rest, rfl, _⟩ := spaced.exists_cons
    exact ⟨List.cons_ne_nil c rest, spaced.trim_eq⟩
  · exact fun text member => (phrases text member).isUndivided apart
  · exact fun text member => (phrases text (List.dropLast_subset _ member)).endsInMark

end Cutting

end ProseTree.Language.Grammar
