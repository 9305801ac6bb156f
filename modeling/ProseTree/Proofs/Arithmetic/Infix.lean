import ProseTree.Arithmetic.Evaluator
import ProseTree.Proofs.Text.Blank
import Mathlib.Data.List.Chain

/-!
# Expressions as written

An expression is a tree of literals and operators. `Spells` relates a tree to the sequences of
pieces that write it: an operand that binds no tighter than its place demands stands in parentheses,
and any operand may stand in more of them. `Spaced` relates pieces to the texts that have white space
between them. Both relations know nothing of how a text is read.
-/

namespace ProseTree.Arithmetic

/-- An unsigned decimal literal: ASCII digits, with a point and more digits if there is a fraction. -/
structure Literal where
  integral : Text
  fraction : Text
  integral_ne_nil : integral ≠ []
  integral_digits : ∀ c ∈ integral, c.isDigit = true
  fraction_digits : ∀ c ∈ fraction, c.isDigit = true

namespace Literal

/-- The text of a literal. -/
def text (literal : Literal) : Text :=
  literal.integral ++ if literal.fraction.isEmpty then [] else '.' :: literal.fraction

/-- The number that the digits of a literal spell when its point is left out. -/
def significand (literal : Literal) : Nat :=
  (literal.integral ++ literal.fraction).foldl
    (fun value (c : Char) => value * 10 + (c.toNat - '0'.toNat)) 0

/-- The double nearest to what a literal spells. -/
def value (literal : Literal) : Float :=
  Decimal.nearestDouble false literal.significand (-(literal.fraction.length : Int))

end Literal

/-- A tree of literals and operators. -/
inductive Expression where
  | literal (literal : Literal)
  | binary (operator : Operator) (left right : Expression)

namespace Expression

/-- The value of a tree: the left operand is evaluated first, then the right one, then the operator
is applied. The first failure is the result. -/
def value : Expression → Except EvalError Float
  | literal number => .ok number.value
  | binary operator left right => do
    let leftValue ← left.value
    let rightValue ← right.value
    operator.apply leftValue rightValue

end Expression

/-- A piece of a written expression. -/
inductive Piece where
  | literal (literal : Literal)
  | operator (operator : Operator)
  | opening
  | closing

namespace Piece

/-- The text of a piece. -/
def text : Piece → Text
  | literal number => number.text
  | operator operation => [operation.symbol]
  | opening => ['(']
  | closing => [')']

/-- The token that a piece is read as. -/
def token : Piece → Token
  | literal number => .number number.value
  | operator operation => .operator [operation.symbol]
  | opening => .opening
  | closing => .closing

/-- Whether an operand can start with the piece. -/
def startsOperand : Piece → Bool
  | literal _ | opening => true
  | operator _ | closing => false

/-- Whether an operand can end with the piece. -/
def endsOperand : Piece → Bool
  | literal _ | closing => true
  | operator _ | opening => false

/-- What a piece is followed by: an operand or an opening parenthesis exactly where no operand has
just ended. -/
def Precedes (left right : Piece) : Prop :=
  right.startsOperand = !left.endsOperand

end Piece

/-- The pieces that write a tree where an operator of at least the given precedence may stand
without parentheses. A right operand must bind tighter than its operator, a left operand only as
tight. -/
inductive Spells : Nat → Expression → List Piece → Prop
  | literal {level : Nat} (number : Literal) : Spells level (.literal number) [.literal number]
  | binary {level : Nat} {operator : Operator} {left right : Expression}
      {leftPieces rightPieces : List Piece} (allowed : level ≤ operator.precedence)
      (leftSpelled : Spells operator.precedence left leftPieces)
      (rightSpelled : Spells (operator.precedence + 1) right rightPieces) :
      Spells level (.binary operator left right) (leftPieces ++ .operator operator :: rightPieces)
  | parenthesized {level : Nat} {tree : Expression} {pieces : List Piece}
      (spelled : Spells 0 tree pieces) : Spells level tree (.opening :: (pieces ++ [.closing]))

/-- The texts of pieces with any amount of white space before, between and after them. -/
inductive Spaced : List Piece → Text → Prop
  | nil {blank : Text} (isBlank : ∀ c ∈ blank, Text.isBlank c = true) : Spaced [] blank
  | cons {piece : Piece} {pieces : List Piece} {blank text : Text}
      (isBlank : ∀ c ∈ blank, Text.isBlank c = true) (others : Spaced pieces text) :
      Spaced (piece :: pieces) (blank ++ piece.text ++ text)

namespace Spells

/-- Every spelling starts as an operand does. -/
theorem startsOperand_head {level : Nat} {tree : Expression} {pieces : List Piece}
    (spelled : Spells level tree pieces) : ∃ piece ∈ pieces.head?, piece.startsOperand = true := by
  induction spelled with
  | literal number => exact ⟨.literal number, rfl, rfl⟩
  | @binary _ _ _ _ leftPieces _ _ _ _ leftHypothesis _ =>
    obtain ⟨piece, first, starts⟩ := leftHypothesis
    cases leftPieces with
    | nil => simp at first
    | cons head others => exact ⟨piece, first, starts⟩
  | parenthesized _ _ => exact ⟨.opening, rfl, rfl⟩

/-- Every spelling ends as an operand does. -/
theorem endsOperand_getLast {level : Nat} {tree : Expression} {pieces : List Piece}
    (spelled : Spells level tree pieces) : ∃ piece ∈ pieces.getLast?, piece.endsOperand = true := by
  induction spelled with
  | literal number => exact ⟨.literal number, rfl, rfl⟩
  | @binary _ operator _ _ _ rightPieces _ _ _ _ rightHypothesis =>
    obtain ⟨piece, last, ends⟩ := rightHypothesis
    cases rightPieces with
    | nil => simp at last
    | cons head others =>
      refine ⟨piece, ?_, ends⟩
      simpa [List.getLast?_append, List.getLast?_cons_cons] using last
  | parenthesized _ _ =>
    refine ⟨.closing, ?_, rfl⟩
    rw [← List.cons_append, List.getLast?_concat]
    rfl

/-- In a spelling, operands and what stands between them alternate. -/
theorem isChain {level : Nat} {tree : Expression} {pieces : List Piece}
    (spelled : Spells level tree pieces) : pieces.IsChain Piece.Precedes := by
  induction spelled with
  | literal number => exact .singleton _
  | @binary _ operator _ _ leftPieces rightPieces _ leftSpelled rightSpelled leftChain rightChain =>
    obtain ⟨last, isLast, ends⟩ := leftSpelled.endsOperand_getLast
    obtain ⟨first, isFirst, starts⟩ := rightSpelled.startsOperand_head
    refine List.isChain_append.2 ⟨leftChain, List.isChain_cons.2 ⟨?_, rightChain⟩, ?_⟩
    · intro piece member
      cases Option.mem_unique isFirst member
      exact starts
    · intro piece member next nextMember
      cases Option.mem_unique isLast member
      cases nextMember
      simp [Piece.Precedes, ends, Piece.startsOperand]
  | @parenthesized _ _ pieces spelled chain =>
    obtain ⟨last, isLast, ends⟩ := spelled.endsOperand_getLast
    obtain ⟨first, isFirst, starts⟩ := spelled.startsOperand_head
    have closed : (pieces ++ [Piece.closing]).IsChain Piece.Precedes := by
      refine List.isChain_append.2 ⟨chain, .singleton _, ?_⟩
      intro piece member next nextMember
      cases Option.mem_unique isLast member
      cases nextMember
      simp [Piece.Precedes, ends, Piece.startsOperand]
    refine List.isChain_cons.2 ⟨?_, closed⟩
    intro piece member
    cases pieces with
    | nil => simp at isFirst
    | cons head others =>
      cases Option.mem_unique isFirst member
      exact starts

end Spells

end ProseTree.Arithmetic
