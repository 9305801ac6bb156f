import ProseTree.Proofs.Text.Tokens

/-!
# Spans of a text

Parts of a text that stand one behind another, without an overlap, are spans of the text. Some of them
are spans again, and so are parts of each of them; what is between them does not matter. The tokens of
a text are spans of it.
-/

namespace ProseTree.Text

/-- Texts that stand in a text one behind another. -/
inductive Spans : Text → List Text → Prop
  | nil {text : Text} : Spans text []
  | cons {before span after : Text} {spans : List Text} (others : Spans after spans) :
      Spans (before ++ (span ++ after)) (span :: spans)

namespace Spans

variable {text : Text} {spans : List Text}

/-- Spans of a text are spans of every text that ends with it. -/
theorem append_left (before : Text) (found : Spans text spans) : Spans (before ++ text) spans := by
  cases found with
  | nil => exact .nil
  | cons others =>
    rw [← List.append_assoc]
    exact .cons others

/-- Spans of texts that stand behind each other are spans of both together. -/
theorem append {other : Text} {more : List Text} (first : Spans text spans)
    (second : Spans other more) : Spans (text ++ other) (spans ++ more) := by
  induction first with
  | @nil text => exact second.append_left text
  | cons others inductionHypothesis =>
    rw [List.append_assoc, List.append_assoc]
    exact .cons inductionHypothesis

/-- Spans of a text are spans of every text that starts with it. -/
theorem append_right (found : Spans text spans) (after : Text) : Spans (text ++ after) spans := by
  have together := found.append (@Spans.nil after)
  rwa [List.append_nil] at together

/-- Spans of a part of a text are spans of the text. -/
theorem of_isInfix {part : Text} (isPart : part <:+: text) (found : Spans part spans) :
    Spans text spans := by
  obtain ⟨before, after, rfl⟩ := isPart
  exact (found.append_left before).append_right after

/-- Some of the spans of a text are spans of it. -/
theorem sublist {kept : List Text} (found : Spans text spans) (isKept : kept.Sublist spans) :
    Spans text kept := by
  induction found generalizing kept with
  | nil =>
    rw [List.sublist_nil.1 isKept]
    exact .nil
  | cons others inductionHypothesis =>
    cases isKept with
    | cons _ isKept =>
      exact ((inductionHypothesis isKept).append_left _).append_left _
    | cons_cons _ isKept => exact .cons (inductionHypothesis isKept)

/-- A part of each span of a text gives spans of it. -/
theorem map {part : Text → Text} (found : Spans text spans)
    (isPart : ∀ span ∈ spans, part span <:+: span) : Spans text (spans.map part) := by
  induction found with
  | nil => exact .nil
  | @cons before span after spans others inductionHypothesis =>
    obtain ⟨first, rest⟩ := List.forall_mem_cons.1 isPart
    obtain ⟨start, ending, whole⟩ := first
    have regrouped : before ++ (span ++ after) =
        before ++ start ++ (part span ++ (ending ++ after)) :=
      calc before ++ (span ++ after)
        _ = before ++ (start ++ part span ++ ending ++ after) := by rw [whole]
        _ = _ := by simp only [List.append_assoc]
    rw [regrouped]
    exact .cons ((inductionHypothesis rest).append_left ending)

/-- Spans are no longer together than the text. -/
theorem length_flatten_le (found : Spans text spans) : spans.flatten.length ≤ text.length := by
  induction found with
  | nil => exact Nat.zero_le _
  | cons others inductionHypothesis =>
    simp only [List.flatten_cons, List.length_append]
    omega

end Spans

/-- A trimmed text is a part of the text. -/
theorem trim_isInfix (text : Text) : trim text <:+: text := by
  obtain ⟨before, after, whole⟩ := exists_append_trim text
  exact ⟨before, after, whole.symm⟩

/-- The tokens of a text are spans of it. -/
theorem spans_tokens (text : Text) : Spans text (tokens text) := by
  generalize split : tokens text = found
  induction found generalizing text with
  | nil => exact .nil
  | cons token others inductionHypothesis =>
    obtain ⟨blank, rest, rfl, -, -, following⟩ := exists_of_tokens_eq_cons split
    exact .cons (inductionHypothesis rest following)

end ProseTree.Text
