import ProseTree.Proofs.Arithmetic.Infix
import ProseTree.Proofs.Text.Cutting

/-!
# Scanning written expressions

One equation for each kind of token says what a scan makes of it and of the text behind it, provided
that the text behind it cannot extend the token. In the written form of an expression no token is
extended by what follows, so a scan gives back exactly the pieces that were written.
-/

namespace ProseTree.Arithmetic

/-- Digits are split off whole where no digit follows. -/
theorem splitDigits_append {digits rest : Text}
    (allDigits : ∀ c ∈ digits, Text.isDecimalDigit c = true)
    (ended : ∀ c ∈ rest.head?, Text.isDecimalDigit c = false) :
    splitDigits (digits ++ rest) = (digits, rest) := by
  rw [splitDigits, Text.takeWhile_append_of_ended allDigits ended,
    Text.dropWhile_append_of_ended allDigits ended]

namespace Literal

/-- The digits before the point are decimal digits. -/
theorem integral_decimal (literal : Literal) :
    ∀ c ∈ literal.integral, Text.isDecimalDigit c = true :=
  fun c member => Text.isDecimalDigit_of_isDigit (literal.integral_digits c member)

/-- The digits after the point are decimal digits. -/
theorem fraction_decimal (literal : Literal) :
    ∀ c ∈ literal.fraction, Text.isDecimalDigit c = true :=
  fun c member => Text.isDecimalDigit_of_isDigit (literal.fraction_digits c member)

/-- A literal is split off whole where neither a digit nor a point follows. -/
theorem splitLiteral_append (literal : Literal) {rest : Text}
    (ended : ∀ c ∈ rest.head?, Text.isDecimalDigit c = false ∧ c ≠ '.') :
    splitLiteral (literal.text ++ rest) = (literal.text, rest) := by
  have restEnds : ∀ c ∈ rest.head?, Text.isDecimalDigit c = false := fun c first =>
    (ended c first).1
  by_cases whole : literal.fraction = []
  · have split := splitDigits_append literal.integral_decimal restEnds
    simp only [splitLiteral, text, whole, List.isEmpty_nil, if_true, List.append_nil, split]
    cases rest with
    | nil => rfl
    | cons c others => simp [(ended c rfl).2]
  · have pointEnds : ∀ c ∈ ('.' :: (literal.fraction ++ rest)).head?,
        Text.isDecimalDigit c = false := by
      intro c first
      cases first
      decide
    have before := splitDigits_append literal.integral_decimal pointEnds
    have after := splitDigits_append literal.fraction_decimal restEnds
    have nonempty : literal.fraction.isEmpty = false := by simpa using whole
    simp only [splitLiteral, text, nonempty, Bool.false_eq_true, if_false, List.append_assoc,
      List.cons_append, before, after]

/-- ASCII digits spell the number that Horner's rule makes of them. -/
theorem foldlM_digits {digits : Text} (allDigits : ∀ c ∈ digits, c.isDigit = true) (value : Nat) :
    digits.foldlM (fun (value : Nat) (c : Char) =>
        if c.isDigit then some (value * 10 + (c.toNat - '0'.toNat)) else none) value =
      some (digits.foldl (fun value c => value * 10 + (c.toNat - '0'.toNat)) value) := by
  induction digits generalizing value with
  | nil => rfl
  | cons c digits inductionHypothesis =>
    obtain ⟨digit, others⟩ := List.forall_mem_cons.1 allDigits
    rw [List.foldlM_cons, if_pos digit, List.foldl_cons]
    exact inductionHypothesis others _

/-- A literal is read as its value. -/
theorem literalValue?_text (literal : Literal) :
    literalValue? literal.text = some literal.value := by
  have noPoint : ∀ c ∈ literal.integral, (c != '.') = true := by
    intro c member
    have digit := literal.integral_digits c member
    simp only [bne_iff_ne, ne_eq]
    rintro rfl
    exact absurd digit (by decide)
  have allDigits : ∀ c ∈ literal.integral ++ literal.fraction, c.isDigit = true := by
    intro c member
    exact (List.mem_append.1 member).elim (literal.integral_digits c) (literal.fraction_digits c)
  have spelled := foldlM_digits allDigits 0
  have parts : literal.text.takeWhile (· != '.') = literal.integral ∧
      (literal.text.dropWhile (· != '.')).drop 1 = literal.fraction := by
    rw [text, List.takeWhile_append_of_pos noPoint, List.dropWhile_append_of_pos noPoint]
    by_cases whole : literal.fraction = []
    · simp [whole]
    · simp [whole]
  simp only [literalValue?, parts.1, parts.2, digitsValue?, spelled]
  rfl

/-- A literal starts with a digit. -/
theorem text_eq_cons (literal : Literal) :
    ∃ c rest, literal.text = c :: rest ∧ Text.isDecimalDigit c = true := by
  obtain ⟨c, rest, parts⟩ := List.exists_cons_of_ne_nil literal.integral_ne_nil
  have starts : literal.text = c :: (rest ++ (literal.text.drop literal.integral.length)) := by
    rw [← List.cons_append, ← parts, text, List.drop_left]
  exact ⟨c, _, starts, literal.integral_decimal c (by simp [parts])⟩

end Literal

variable {operators : List Char}

/-- White space between tokens leaves no trace. -/
theorem scan_blank_append (separate : ∀ c, Text.isBlank c = true → operators.contains c = false)
    {blank : Text} (allBlank : ∀ c ∈ blank, Text.isBlank c = true) (rest : Text) :
    scan operators (blank ++ rest) = scan operators rest := by
  induction blank with
  | nil => rfl
  | cons c blank inductionHypothesis =>
    obtain ⟨isBlank, others⟩ := List.forall_mem_cons.1 allBlank
    have noDigit := Text.isDecimalDigit_eq_false_of_isBlank isBlank
    have noOpening : (c == '(') = false := by
      rw [beq_eq_false_iff_ne]
      rintro rfl
      exact absurd isBlank (by decide)
    have noClosing : (c == ')') = false := by
      rw [beq_eq_false_iff_ne]
      rintro rfl
      exact absurd isBlank (by decide)
    have kept : Scan.withSkipped c = id := by
      funext scanned
      simp [Scan.withSkipped, isBlank]
    rw [List.cons_append, scan]
    simp only [noDigit, separate c isBlank, noOpening, noClosing, Bool.false_eq_true, dite_false,
      if_false, inductionHypothesis others, kept]
    cases scan operators rest <;> rfl

/-- A literal is one token where neither a digit nor a point follows. -/
theorem scan_literal_append (literal : Literal) {rest : Text}
    (ended : ∀ c ∈ rest.head?, Text.isDecimalDigit c = false ∧ c ≠ '.') :
    scan operators (literal.text ++ rest) =
      (scan operators rest).map (.withToken (.number literal.value)) := by
  obtain ⟨c, others, starts, digit⟩ := literal.text_eq_cons
  have split := literal.splitLiteral_append ended
  have valued := literal.literalValue?_text
  rw [starts] at split valued ⊢
  rw [List.cons_append] at split ⊢
  rw [scan]
  simp only [digit, dite_true, split, valued]

/-- Operator characters are one token where no operator character follows. -/
theorem scan_operator_append {c : Char} {run rest : Text} (noDigit : Text.isDecimalDigit c = false)
    (allOperators : ∀ d ∈ c :: run, operators.contains d = true)
    (ended : ∀ d ∈ rest.head?, operators.contains d = false) :
    scan operators (c :: run ++ rest) =
      (scan operators rest).map (.withToken (.operator (c :: run))) := by
  obtain ⟨first, others⟩ := List.forall_mem_cons.1 allOperators
  rw [List.cons_append, scan]
  simp only [noDigit, first, Bool.false_eq_true, dite_false, if_true,
    Text.takeWhile_append_of_ended others ended, Text.dropWhile_append_of_ended others ended]

namespace Spaced

/-- A spaced text starts with white space or with its first piece. -/
theorem head_cases {pieces : List Piece} {text : Text} (spaced : Spaced pieces text) {c : Char}
    (first : c ∈ text.head?) :
    Text.isBlank c = true ∨ ∃ piece ∈ pieces.head?, c ∈ piece.text.head? := by
  cases spaced with
  | nil isBlank => exact .inl (isBlank c (List.mem_of_mem_head? first))
  | @cons piece pieces blank text isBlank others =>
    cases blank with
    | cons d blank =>
      cases first
      exact .inl (isBlank c List.mem_cons_self)
    | nil =>
      refine .inr ⟨piece, rfl, ?_⟩
      cases piece with
      | literal number =>
        obtain ⟨d, rest, starts, _⟩ := number.text_eq_cons
        simpa [Piece.text, starts] using first
      | operator operation => simpa [Piece.text] using first
      | opening => simpa [Piece.text] using first
      | closing => simpa [Piece.text] using first

end Spaced

/-- A piece that no operand starts with does not extend a literal in front of it. -/
theorem Piece.ends_literal {piece : Piece} (noOperand : piece.startsOperand = false) {c : Char}
    (first : c ∈ piece.text.head?) : Text.isDecimalDigit c = false ∧ c ≠ '.' := by
  cases piece with
  | literal number => cases noOperand
  | operator operation =>
    cases first
    cases operation <;> decide
  | opening => cases noOperand
  | closing =>
    cases first
    decide

/-- White space is no operator of the standard evaluator. -/
theorem standard_separate (c : Char) (blank : Text.isBlank c = true) :
    Evaluator.standard.operators.contains c = false :=
  have outside : Text.blanks.any Evaluator.standard.operators.contains = false := by decide
  Text.forall_eq_false_of_any outside c (Text.isBlank_iff_mem_blanks.1 blank)

end ProseTree.Arithmetic
