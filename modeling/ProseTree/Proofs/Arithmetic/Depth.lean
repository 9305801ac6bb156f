import ProseTree.Proofs.Arithmetic.Conversion

/-!
# The depth of the stack

The evaluation of steps looks at a value only when it divides by it. Everything else it can fail for,
an operator without operands or a number of values other than one at the end, is decided by how many
values are on the stack. `Suffices` follows that depth alone.
-/

namespace ProseTree.Arithmetic

/-- Steps that find two values for each operator, and leave one value, on a stack of the given
depth. -/
inductive Suffices : Nat → List Step → Prop
  | done : Suffices 1 []
  | number {depth : Nat} {value : Float} {steps : List Step} (others : Suffices (depth + 1) steps) :
      Suffices depth (.number value :: steps)
  | operator {depth : Nat} {operator : Operator} {steps : List Step}
      (others : Suffices (depth + 1) steps) : Suffices (depth + 2) (.operator operator :: steps)

/-- Only steps for which the stack suffices have a value. -/
theorem suffices_of_runSteps {stack : List Float} {steps : List Step} {value : Float}
    (ran : runSteps stack steps = .ok value) : Suffices stack.length steps := by
  fun_induction runSteps stack steps with
  | case1 value => exact .done
  | case2 stack notSingle => cases ran
  | case3 stack number steps inductionHypothesis => exact .number (inductionHypothesis ran)
  | case4 right left stack operator steps cause failed => cases ran
  | case5 right left stack operator steps result applied inductionHypothesis =>
    exact .operator (inductionHypothesis ran)
  | case6 stack operator steps short => cases ran

/-- Where the stack suffices, evaluation fails only for a division by zero. -/
theorem Suffices.eq_divisionByZero {depth : Nat} {steps : List Step} (enough : Suffices depth steps)
    {stack : List Float} (deep : stack.length = depth) {cause : EvalError}
    (failed : runSteps stack steps = .error cause) : cause = .divisionByZero := by
  induction enough generalizing stack with
  | done =>
    obtain ⟨value, rfl⟩ := List.length_eq_one_iff.1 deep
    cases failed
  | number others inductionHypothesis =>
    rw [runSteps] at failed
    exact inductionHypothesis (congrArg (· + 1) deep) failed
  | @operator depth operator steps others inductionHypothesis =>
    obtain ⟨right, stack, rfl⟩ := List.exists_cons_of_length_eq_add_one deep
    obtain ⟨left, stack, rfl⟩ := List.exists_cons_of_length_eq_add_one (Nat.succ_inj.1 deep)
    rw [runSteps] at failed
    cases applied : operator.apply left right with
    | error reason =>
      rw [applied] at failed
      cases failed
      exact Operator.eq_divisionByZero_of_apply applied
    | ok value =>
      rw [applied] at failed
      have replaced : (value :: stack).length = depth + 1 := Nat.succ_inj.1 deep
      exact inductionHypothesis replaced failed

/-- Operators take one value each from the stack. -/
theorem Suffices.operators_append {depth : Nat} {steps : List Step} (others : Suffices (depth + 1) steps)
    (released : List Operator) :
    Suffices (depth + released.length + 1) (released.map Step.operator ++ steps) := by
  induction released with
  | nil => exact others
  | cons operator released inductionHypothesis => exact .operator inductionHypothesis

/-- Each operator makes one value of two, so the values that there are and that there will be are one
more than the operators. -/
theorem Suffices.length_numbers {depth : Nat} {steps : List Step} (enough : Suffices depth steps) :
    depth + (steps.filterMap Step.number?).length = (steps.filterMap Step.operator?).length + 1 := by
  induction enough with
  | done => rfl
  | number others inductionHypothesis =>
    simp only [List.filterMap_cons, Step.number?, Step.operator?, List.length_cons]
    omega
  | operator others inductionHypothesis =>
    simp only [List.filterMap_cons, Step.number?, Step.operator?, List.length_cons]
    omega

end ProseTree.Arithmetic
