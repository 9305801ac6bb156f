import ProseTree.Proofs.Arithmetic.Phases

/-!
# How a plain expression starts

The plain form starts with white space or with a decimal digit of any script, whatever the operators are.
A literal has a value only when its digits are ASCII digits, and so a text that starts with a digit and has
a value starts with one of these.
-/

namespace ProseTree.Arithmetic

/-- A literal at the start of a text takes the digit that the text starts with. -/
theorem exists_splitLiteral_eq_cons {c : Char} (digit : Text.isDecimalDigit c = true) (rest : Text) :
    ∃ others, (splitLiteral (c :: rest)).1 = c :: others := by
  have integral : (splitDigits (c :: rest)).1 = c :: rest.takeWhile Text.isDecimalDigit := by
    simp [splitDigits, digit]
  unfold splitLiteral
  generalize splitDigits (c :: rest) = parts at integral ⊢
  obtain ⟨digits, after⟩ := parts
  dsimp only at integral ⊢
  rw [integral]
  split
  · split
    · exact ⟨_, rfl⟩
    · exact ⟨_, rfl⟩
  · exact ⟨_, rfl⟩

/-- A literal with a value starts with an ASCII digit. -/
theorem isDigit_of_literalValue? {c : Char} {others : Text} {value : Float}
    (digit : Text.isDecimalDigit c = true) (valued : literalValue? (c :: others) = some value) :
    c.isDigit = true := by
  have noPoint : (c != '.') = true := by
    rw [bne_iff_ne]
    rintro rfl
    exact absurd digit (by decide)
  rw [← Bool.not_eq_false]
  intro noDigit
  simp [literalValue?, noPoint, digitsValue?, noDigit] at valued

namespace Evaluator

variable {evaluator : Evaluator} {c : Char} {rest : Text}

/-- The plain form starts with white space or with a digit. -/
theorem blank_or_digit_of_isPlain (isPlain : evaluator.isPlain (c :: rest) = true) :
    Text.isBlank c = true ∨ Text.isDecimalDigit c = true := by
  obtain ⟨phase, member, accepted⟩ := any_isFinal_after_iff.1 isPlain
  obtain rfl := List.mem_singleton.1 member
  cases accepted with
  | @cons _ target _ _ step others =>
    cases target with
    | beforeFirst => exact .inl (by simpa [Phase.leads] using step)
    | integral => exact .inr (by simpa [Phase.leads] using step)
    | _ => simp [Phase.leads] at step

/-- A text that starts with a digit and has a value starts with an ASCII digit. -/
theorem isDigit_of_value {value : Float} (digit : Text.isDecimalDigit c = true)
    (evaluated : evaluator.value (c :: rest) = .ok value) : c.isDigit = true := by
  obtain ⟨others, literal⟩ := exists_splitLiteral_eq_cons digit rest
  cases valued : literalValue? (c :: others) with
  | some number => exact isDigit_of_literalValue? digit valued
  | none =>
    rw [Evaluator.value, Evaluator.scan, Arithmetic.scan] at evaluated
    simp [digit, literal, valued] at evaluated

end Evaluator

end ProseTree.Arithmetic
