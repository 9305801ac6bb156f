import ProseTree.Proofs.Arithmetic.Conversion

/-!
# Where an evaluation stops

An evaluation stops at the first operator that finds fewer than two values or divides by zero. How many
values an operator finds is the surplus of numbers over operators in front of it: as long as no operator
is short of values, the stack is as deep as that. An evaluation that stops nowhere leaves the surplus of
all steps on the stack, and has a value when this is one.
-/

namespace ProseTree.Arithmetic

/-- How many more numbers than operators there are among some steps. -/
def surplus (steps : List Step) : Int :=
  (steps.filterMap Step.number?).length - (steps.filterMap Step.operator?).length

/-- What an operator makes of two values, a division by zero included. -/
def Operator.combine (operator : Operator) (left right : Float) : Float :=
  match operator with
  | add => left + right
  | subtract => left - right
  | multiply => left * right
  | divide => left / right

/-- The stack after a step. An operator without two values leaves it as it is. -/
def Step.stackAfter : Step → List Float → List Float
  | .number value, stack => value :: stack
  | .operator operation, right :: left :: stack => operation.combine left right :: stack
  | .operator _, stack => stack

/-- The stack after some steps, the last value first. -/
def stackAfter (steps : List Step) : List Float :=
  steps.foldl (fun stack step => step.stackAfter stack) []

/-- In front of every operator there are at least two numbers more than operators. -/
def HasOperands (steps : List Step) : Prop :=
  ∀ before operator, before ++ [.operator operator] <+: steps → 2 ≤ surplus before

/-- No division has a zero, of either sign, as the last value in front of it. -/
def AvoidsZero (steps : List Step) : Prop :=
  ∀ before, before ++ [.operator .divide] <+: steps →
    ∀ divisor ∈ (stackAfter before).head?, (divisor == 0) = false

/-- The operator is the first one that finds fewer than two values, and none in front of it divides by
zero. -/
def RunsShort (steps : List Step) (operator : Operator) : Prop :=
  ∃ before, before ++ [.operator operator] <+: steps ∧ surplus before < 2 ∧ HasOperands before ∧
    AvoidsZero before

/-- An operator divides by zero, and up to it every operator finds two values. -/
def MeetsZero (steps : List Step) : Prop :=
  ∃ before, before <+: steps ∧ HasOperands before ∧ ¬ AvoidsZero before

section Parts

variable {steps before : List Step} {step : Step}

@[simp]
theorem surplus_concat_number (steps : List Step) (value : Float) :
    surplus (steps ++ [.number value]) = surplus steps + 1 := by
  simp only [surplus, List.filterMap_append, List.filterMap_cons, List.filterMap_nil, Step.number?,
    Step.operator?, List.length_append, List.length_cons, List.length_nil]
  omega

@[simp]
theorem surplus_concat_operator (steps : List Step) (operator : Operator) :
    surplus (steps ++ [.operator operator]) = surplus steps - 1 := by
  simp only [surplus, List.filterMap_append, List.filterMap_cons, List.filterMap_nil, Step.number?,
    Step.operator?, List.length_append, List.length_cons, List.length_nil]
  omega

@[simp]
theorem stackAfter_concat (steps : List Step) (step : Step) :
    stackAfter (steps ++ [step]) = step.stackAfter (stackAfter steps) := by
  simp [stackAfter]

/-- Without steps no operator is short of values. -/
theorem hasOperands_nil : HasOperands [] := by
  intro before operator isPrefix
  simp at isPrefix

/-- Without steps nothing is divided. -/
theorem avoidsZero_nil : AvoidsZero [] := by
  intro before isPrefix
  simp at isPrefix

/-- A part from the start finds its values where the whole does. -/
theorem HasOperands.of_prefix (enough : HasOperands steps) (isPrefix : before <+: steps) :
    HasOperands before :=
  fun _ _ inBefore => enough _ _ (inBefore.trans isPrefix)

/-- A part from the start divides by no zero where the whole does not. -/
theorem AvoidsZero.of_prefix (avoids : AvoidsZero steps) (isPrefix : before <+: steps) :
    AvoidsZero before :=
  fun _ inBefore => avoids _ (inBefore.trans isPrefix)

/-- One more step finds its values when it is no operator or there are two. -/
theorem hasOperands_concat_iff :
    HasOperands (steps ++ [step]) ↔
      HasOperands steps ∧ ∀ operator, step = .operator operator → 2 ≤ surplus steps := by
  constructor
  · intro enough
    refine ⟨enough.of_prefix (List.prefix_append _ _), ?_⟩
    rintro operator rfl
    exact enough steps operator (List.prefix_refl _)
  · rintro ⟨enough, last⟩ before operator isPrefix
    obtain whole | inside := List.prefix_concat_iff.1 isPrefix
    · obtain ⟨rfl, same⟩ := List.append_inj' whole rfl
      exact last operator (List.singleton_inj.1 same).symm
    · exact enough before operator inside

/-- One more step divides by no zero when it is no division or the last value is no zero. -/
theorem avoidsZero_concat_iff :
    AvoidsZero (steps ++ [step]) ↔
      AvoidsZero steps ∧
        (step = .operator .divide → ∀ divisor ∈ (stackAfter steps).head?, (divisor == 0) = false) := by
  constructor
  · intro avoids
    refine ⟨avoids.of_prefix (List.prefix_append _ _), ?_⟩
    rintro rfl
    exact avoids steps (List.prefix_refl _)
  · rintro ⟨avoids, last⟩ before isPrefix
    obtain whole | inside := List.prefix_concat_iff.1 isPrefix
    · obtain ⟨rfl, same⟩ := List.append_inj' whole rfl
      exact last (List.singleton_inj.1 same).symm
    · exact avoids before inside

end Parts

/-- An operator has a value unless it divides by zero. -/
theorem Operator.apply_eq_ok {operator : Operator} {left right : Float}
    (avoids : operator = .divide → (right == 0) = false) :
    operator.apply left right = .ok (operator.combine left right) := by
  cases operator with
  | divide => simp [apply, combine, avoids rfl]
  | _ => rfl

section Runs

variable {steps before : List Step}

/-- A stack of two or more values has a last value and one before it. -/
theorem exists_of_two_le {stack : List Float} (two : 2 ≤ stack.length) :
    ∃ right left rest, stack = right :: left :: rest := by
  match stack, two with
  | right :: left :: rest, _ => exact ⟨right, left, rest, rfl⟩

/-- A step that finds its values and divides by no zero is made. -/
theorem runSteps_step {stack : List Float} {step : Step}
    (found : ∀ operator, step = .operator operator → ∃ right left rest, stack = right :: left :: rest)
    (avoids : step = .operator .divide → ∀ divisor ∈ stack.head?, (divisor == 0) = false)
    (after : List Step) : runSteps stack (step :: after) = runSteps (step.stackAfter stack) after := by
  cases step with
  | number value => rw [runSteps, Step.stackAfter]
  | operator operator =>
    obtain ⟨right, left, rest, rfl⟩ := found operator rfl
    have applied : operator.apply left right = .ok (operator.combine left right) := by
      refine Operator.apply_eq_ok ?_
      rintro rfl
      exact avoids rfl right rfl
    rw [runSteps, applied, Step.stackAfter]

/-- As long as every operator finds two values, the stack is as deep as the surplus. -/
theorem length_stackAfter (enough : HasOperands steps) :
    ((stackAfter steps).length : Int) = surplus steps := by
  induction steps using List.reverseRecOn with
  | nil => rfl
  | append_singleton steps step inductionHypothesis =>
    obtain ⟨earlier, last⟩ := hasOperands_concat_iff.1 enough
    have deep := inductionHypothesis earlier
    rw [stackAfter_concat]
    cases step with
    | number value =>
      rw [surplus_concat_number, ← deep]
      rfl
    | operator operator =>
      have two := last operator rfl
      rw [← deep] at two
      obtain ⟨right, left, rest, same⟩ := exists_of_two_le (Int.ofNat_le.1 two)
      rw [same] at deep
      rw [surplus_concat_operator, ← deep, same, Step.stackAfter]
      simp only [List.length_cons]
      omega

/-- An operator that finds its values has two of them on top of the stack. -/
theorem HasOperands.exists_stackAfter_eq {operator : Operator}
    (enough : HasOperands (before ++ [.operator operator])) :
    ∃ right left rest, stackAfter before = right :: left :: rest := by
  obtain ⟨earlier, last⟩ := hasOperands_concat_iff.1 enough
  have two := last operator rfl
  rw [← length_stackAfter earlier] at two
  exact exists_of_two_le (Int.ofNat_le.1 two)

/-- Steps that find their values and divide by no zero are made, whatever follows. -/
theorem runSteps_append (enough : HasOperands before) (avoids : AvoidsZero before) (after : List Step) :
    runSteps [] (before ++ after) = runSteps (stackAfter before) after := by
  induction before using List.reverseRecOn generalizing after with
  | nil => rfl
  | append_singleton before step inductionHypothesis =>
    obtain ⟨earlier, -⟩ := hasOperands_concat_iff.1 enough
    obtain ⟨avoids, divisor⟩ := avoidsZero_concat_iff.1 avoids
    have found : ∀ operator, step = .operator operator →
        ∃ right left rest, stackAfter before = right :: left :: rest := by
      rintro operator rfl
      exact enough.exists_stackAfter_eq
    rw [List.append_assoc, inductionHypothesis earlier avoids, List.singleton_append,
      runSteps_step found divisor, stackAfter_concat]

/-- The first operator that is short of values is the one that misses an operand. -/
theorem RunsShort.evaluateSteps_eq {operator : Operator} (short : RunsShort steps operator) :
    evaluateSteps steps = .error (.missingOperand operator.symbol) := by
  obtain ⟨before, ⟨after, rfl⟩, few, enough, avoids⟩ := short
  have deep := length_stackAfter enough
  rw [evaluateSteps, List.append_assoc, runSteps_append enough avoids, List.singleton_append]
  generalize stackAfter before = stack at deep ⊢
  cases stack with
  | nil => rfl
  | cons right rest =>
    cases rest with
    | nil => rfl
    | cons left rest =>
      simp only [List.length_cons] at deep
      omega

/-- An operator that finds a zero to divide by, with none in front of it that fails, stops the
evaluation. -/
theorem evaluateSteps_eq_divisionByZero {before : List Step}
    (isPrefix : before ++ [.operator .divide] <+: steps) (enough : HasOperands (before ++ [.operator .divide]))
    (avoids : AvoidsZero before) {divisor : Float} (last : divisor ∈ (stackAfter before).head?)
    (zero : (divisor == 0) = true) : evaluateSteps steps = .error .divisionByZero := by
  obtain ⟨after, rfl⟩ := isPrefix
  obtain ⟨earlier, -⟩ := hasOperands_concat_iff.1 enough
  obtain ⟨right, left, rest, same⟩ := enough.exists_stackAfter_eq
  rw [same] at last
  cases last
  rw [evaluateSteps, List.append_assoc, runSteps_append earlier avoids, List.singleton_append, same,
    runSteps, Operator.apply, if_pos zero]

/-- Either all steps find their values and divide by no zero, or the first one that does not is an operator
that is short of values or a division by zero. -/
theorem sound_or_stops (steps : List Step) :
    (HasOperands steps ∧ AvoidsZero steps) ∨ (∃ operator, RunsShort steps operator) ∨
      ∃ before, ∃ divisor : Float, before ++ [.operator .divide] <+: steps ∧
        HasOperands (before ++ [.operator .divide]) ∧ AvoidsZero before ∧
        divisor ∈ (stackAfter before).head? ∧ (divisor == 0) = true := by
  -- The first step that stops an evaluation is found from the front, so one more step at the end matters
  -- only where none did.
  induction steps using List.reverseRecOn with
  | nil => exact .inl ⟨hasOperands_nil, avoidsZero_nil⟩
  | append_singleton steps step inductionHypothesis =>
    have inWhole : steps <+: steps ++ [step] := List.prefix_append _ _
    obtain ⟨enough, avoids⟩ | ⟨operator, before, isPrefix, short⟩ | ⟨before, divisor, isPrefix, zero⟩ :=
      inductionHypothesis
    · by_cases two : ∀ operator, step = .operator operator → 2 ≤ surplus steps
      · have stillEnough := hasOperands_concat_iff.2 ⟨enough, two⟩
        by_cases nonzero : step = .operator .divide →
            ∀ divisor ∈ (stackAfter steps).head?, (divisor == 0) = false
        · exact .inl ⟨stillEnough, avoidsZero_concat_iff.2 ⟨avoids, nonzero⟩⟩
        · simp only [Classical.not_imp, not_forall, Bool.not_eq_false] at nonzero
          obtain ⟨rfl, divisor, last, zero⟩ := nonzero
          exact .inr (.inr ⟨steps, divisor, List.prefix_refl _, stillEnough, avoids, last, zero⟩)
      · simp only [not_forall, Int.not_le] at two
        obtain ⟨operator, rfl, few⟩ := two
        exact .inr (.inl ⟨operator, steps, List.prefix_refl _, few, enough, avoids⟩)
    · exact .inr (.inl ⟨operator, before, isPrefix.trans inWhole, short⟩)
    · exact .inr (.inr ⟨before, divisor, isPrefix.trans inWhole, zero⟩)

/-- Steps that find their values and divide by no zero have a value when their surplus is one. -/
theorem evaluateSteps_of_sound (enough : HasOperands steps) (avoids : AvoidsZero steps) :
    (surplus steps = 1 ∧ ∃ value, evaluateSteps steps = .ok value) ∨
      surplus steps ≠ 1 ∧
        ∃ remaining : Nat, remaining = surplus steps ∧
          evaluateSteps steps = .error (.unbalanced remaining) := by
  have deep := length_stackAfter enough
  have ran := runSteps_append enough avoids []
  rw [List.append_nil] at ran
  rw [evaluateSteps, ran]
  generalize stackAfter steps = stack at deep ⊢
  cases stack with
  | nil =>
    refine .inr ⟨?_, 0, deep, rfl⟩
    rw [← deep]
    decide
  | cons value rest =>
    cases rest with
    | nil => exact .inl ⟨deep.symm, value, rfl⟩
    | cons left rest =>
      refine .inr ⟨?_, _, deep, rfl⟩
      simp only [List.length_cons] at deep
      omega

/-- An operator that divides by zero, up to which every operator finds two values, stops the
evaluation, or one in front of it does. -/
theorem MeetsZero.evaluateSteps_eq (meets : MeetsZero steps) :
    evaluateSteps steps = .error .divisionByZero := by
  obtain ⟨reached, isPrefix, enough, divides⟩ := meets
  obtain ⟨-, avoids⟩ | ⟨operator, before, inReached, few, -⟩ |
    ⟨before, divisor, inReached, first, avoids, last, zero⟩ := sound_or_stops reached
  · exact absurd avoids divides
  · have two := enough before operator inReached
    omega
  · exact evaluateSteps_eq_divisionByZero (inReached.trans isPrefix) first avoids last zero

end Runs

/-- What becomes of an evaluation. -/
theorem evaluateSteps_cases (steps : List Step) :
    (∃ operator, RunsShort steps operator ∧
        evaluateSteps steps = .error (.missingOperand operator.symbol)) ∨
      (MeetsZero steps ∧ evaluateSteps steps = .error .divisionByZero) ∨
      (surplus steps = 1 ∧ ∃ value, evaluateSteps steps = .ok value) ∨
      surplus steps ≠ 1 ∧
        ∃ remaining : Nat, remaining = surplus steps ∧
          evaluateSteps steps = .error (.unbalanced remaining) := by
  obtain ⟨enough, avoids⟩ | ⟨operator, short⟩ | ⟨before, divisor, isPrefix, enough, avoids, last, zero⟩ :=
    sound_or_stops steps
  · exact .inr (.inr (evaluateSteps_of_sound enough avoids))
  · exact .inl ⟨operator, short, short.evaluateSteps_eq⟩
  · have meets : MeetsZero steps := by
      refine ⟨_, isPrefix, enough, ?_⟩
      intro avoidsLast
      have nonzero := avoidsLast before (List.prefix_refl _) divisor last
      rw [zero] at nonzero
      cases nonzero
    exact .inr (.inl ⟨meets, meets.evaluateSteps_eq⟩)

/-- An evaluation misses an operand of the first operator that finds fewer than two values, when none in
front of it divides by zero, and fails for a division by zero when an operator in front of any such one
divides by zero. Otherwise it has a value exactly when there is one number more than there are operators,
and any other surplus is what it names as left over. -/
theorem evaluateSteps_outcome (steps : List Step) :
    (∀ symbol, evaluateSteps steps = .error (.missingOperand symbol) ↔
        ∃ operator, RunsShort steps operator ∧ operator.symbol = symbol) ∧
      (evaluateSteps steps = .error .divisionByZero ↔ MeetsZero steps) ∧
      ((∀ operator, ¬ RunsShort steps operator) → ¬ MeetsZero steps →
        ((∃ value, evaluateSteps steps = .ok value) ↔ surplus steps = 1) ∧
          (surplus steps ≠ 1 → ∃ remaining : Nat, remaining = surplus steps ∧
            evaluateSteps steps = .error (.unbalanced remaining))) := by
  refine ⟨fun symbol => ⟨?_, ?_⟩, ⟨?_, MeetsZero.evaluateSteps_eq⟩, ?_⟩
  · intro failed
    obtain ⟨operator, short, outcome⟩ | ⟨-, outcome⟩ | ⟨-, _, outcome⟩ | ⟨-, _, -, outcome⟩ :=
      evaluateSteps_cases steps <;> rw [failed] at outcome <;> cases outcome
    exact ⟨operator, short, rfl⟩
  · rintro ⟨operator, short, rfl⟩
    exact short.evaluateSteps_eq
  · intro failed
    obtain ⟨_, -, outcome⟩ | ⟨meets, -⟩ | ⟨-, _, outcome⟩ | ⟨-, _, -, outcome⟩ := evaluateSteps_cases steps
    · rw [failed] at outcome
      cases outcome
    · exact meets
    · rw [failed] at outcome
      cases outcome
    · rw [failed] at outcome
      cases outcome
  · intro notShort noZero
    obtain ⟨operator, short, -⟩ | ⟨meets, -⟩ | ⟨one, hasValue⟩ | ⟨notOne, remaining, left, outcome⟩ :=
      evaluateSteps_cases steps
    · exact absurd short (notShort operator)
    · exact absurd meets noZero
    · exact ⟨⟨fun _ => one, fun _ => hasValue⟩, fun notOne => absurd one notOne⟩
    · refine ⟨⟨?_, fun one => absurd one notOne⟩, fun _ => ⟨remaining, left, outcome⟩⟩
      rintro ⟨value, hasValue⟩
      rw [outcome] at hasValue
      cases hasValue

/-- A division by zero comes before an operator that is short of values. -/
example : evaluateSteps [.number 1, .number 0, .operator .divide, .operator .add] =
    .error .divisionByZero :=
  rfl

end ProseTree.Arithmetic
