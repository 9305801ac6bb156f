import ProseTree.Text.Quoted

/-!
# Why an expression has no value

The causes for which the evaluation of arithmetic text fails, and their wording. Division by zero
is the one failure of arithmetic itself; all others say that the text is malformed.
-/

namespace ProseTree.Arithmetic

/-- A cause for which an arithmetic text has no value. -/
inductive EvalError where
  | empty
  | mismatchedParentheses
  | divisionByZero
  | missingOperand (operator : Char)
  | unbalanced (remaining : Nat)
  | unsupportedOperator (run : Text)
  | invalidNumber (literal : Text)
  deriving DecidableEq, Repr

/-- The wording of a cause. -/
def EvalError.message : EvalError → Text
  | .empty => "expression is empty"
  | .mismatchedParentheses => "mismatched parentheses"
  | .divisionByZero => "division by zero"
  | .missingOperand operator => "operator '" ++ [operator] ++ "' is missing an operand"
  | .unbalanced remaining => "expression left " ++ Text.ofNat remaining ++ " values on the stack"
  | .unsupportedOperator run => "unsupported operator: " ++ Text.Quoted.encode run
  | .invalidNumber literal => "invalid number literal: " ++ Text.Quoted.encode literal

/-- Whether arithmetic failed on well-formed text. -/
def EvalError.isArithmetic : EvalError → Bool
  | .divisionByZero => true
  | _ => false

/-- A failed evaluation together with the text that was evaluated. -/
structure ExpressionError where
  expression : Text
  cause : EvalError
  deriving DecidableEq, Repr

/-- The wording of a failed evaluation. -/
def ExpressionError.message (error : ExpressionError) : Text :=
  "invalid expression " ++ Text.Quoted.encode error.expression ++ ": " ++ error.cause.message

end ProseTree.Arithmetic
