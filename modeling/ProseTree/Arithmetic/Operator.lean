import ProseTree.Arithmetic.Error

/-!
# Arithmetic operators

The four operators that have a meaning, their precedence, and their application to two doubles.
Only a division by a zero of either sign fails.
-/

namespace ProseTree.Arithmetic

/-- An operator with a meaning. -/
inductive Operator where
  | add
  | subtract
  | multiply
  | divide
  deriving DecidableEq, Repr

namespace Operator

/-- The character that spells the operator. -/
def symbol : Operator → Char
  | add => '+'
  | subtract => '-'
  | multiply => '*'
  | divide => '/'

/-- The operator that a run of operator characters spells. -/
def ofRun (run : Text) : Except EvalError Operator :=
  match run with
  | ['+'] => .ok add
  | ['-'] => .ok subtract
  | ['*'] => .ok multiply
  | ['/'] => .ok divide
  | _ => .error (.unsupportedOperator run)

/-- An operator of greater precedence binds tighter. -/
def precedence : Operator → Nat
  | add | subtract => 1
  | multiply | divide => 2

/-- The value of `left operator right`. -/
def apply (operator : Operator) (left right : Float) : Except EvalError Float :=
  match operator with
  | add => .ok (left + right)
  | subtract => .ok (left - right)
  | multiply => .ok (left * right)
  | divide => if right == 0 then .error .divisionByZero else .ok (left / right)

/-- A run spells an operator exactly when it is that operator's symbol alone. -/
theorem ofRun_eq_ok_iff {run : Text} {operator : Operator} :
    ofRun run = .ok operator ↔ run = [operator.symbol] := by
  constructor
  · intro spelled
    unfold ofRun at spelled
    split at spelled <;> cases spelled <;> rfl
  · rintro rfl
    cases operator <;> rfl

end Operator

end ProseTree.Arithmetic
