import ProseTree.Proofs.Arithmetic.Scanning

/-!
# The value of a written expression

The conversion of a spelling keeps one invariant: what waits above the place where an operand started
are operators that bind at least as tight as that place demands, and what was given out followed by
what waits, the innermost first, is the operand in post-order. Evaluation of a tree in post-order puts
the value of the tree on the stack. Together with the scan of the spelling this gives the value of
the text.
-/

namespace ProseTree.Arithmetic

/-- Whether what waits keeps waiting for every operator of at least the given precedence: on top is
no operator, or one that binds less tight. -/
def Waits (level : Nat) : List Waiting → Prop
  | .operator top :: _ => top.precedence < level
  | _ => True

/-- Operators wait for an operator that binds less tight whatever stands below them. -/
theorem Waits.mono {low high : Nat} {waiting : List Waiting} (waits : Waits low waiting)
    (le : low ≤ high) : Waits high waiting := by
  match waiting, waits with
  | [], _ => trivial
  | .opening :: _, _ => trivial
  | .operator top :: _, waits => exact Nat.lt_of_lt_of_le waits le

/-- The end releases all operators. -/
theorem drain_operators (held : List Operator) :
    drain (held.map Waiting.operator) = .ok (held.map Step.operator) := by
  induction held with
  | nil => rfl
  | cons operator held inductionHypothesis =>
    simp [drain, inductionHypothesis, Except.map]

/-- Applying an operator fails only for a division by zero. -/
theorem Operator.eq_divisionByZero_of_apply {operator : Operator} {left right : Float}
    {cause : EvalError} (failed : operator.apply left right = .error cause) :
    cause = .divisionByZero := by
  cases operator with
  | add => cases failed
  | subtract => cases failed
  | multiply => cases failed
  | divide =>
    dsimp only [apply] at failed
    split at failed
    · cases failed
      rfl
    · cases failed

end ProseTree.Arithmetic
