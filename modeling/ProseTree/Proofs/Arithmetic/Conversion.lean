import ProseTree.Proofs.Arithmetic.Evaluation

/-!
# What a conversion keeps

Operators that wait are released from the top, so what is released and what goes on waiting make up
what waited. From this one fact follows what a successful conversion says about its tokens: all runs
are operators, the parentheses are balanced against those that were open already, and the steps hold
the numbers of the tokens in their order and the operators of the tokens, along with those that
waited, in some order.
-/

namespace ProseTree.Arithmetic

/-- A mapped result comes from a result. -/
theorem exists_of_map_eq_ok {ε α β : Type} {function : α → β} {result : Except ε α} {value : β}
    (mapped : result.map function = .ok value) :
    ∃ source, result = .ok source ∧ function source = value := by
  cases result with
  | error cause => cases mapped
  | ok source => exact ⟨source, rfl, Except.ok.inj mapped⟩

/-- A failure stays the same where the results are mapped. -/
theorem map_eq_error_iff {ε α β : Type} {function : α → β} {result : Except ε α} {cause : ε} :
    result.map function = .error cause ↔ result = .error cause := by
  cases result <;> simp [Except.map]

/-- A computation without a failure has a result. -/
theorem exists_of_toOption_map_eq_some {ε α β : Type} {function : α → β} {result : Except ε α} {value : β}
    (computed : result.toOption.map function = some value) :
    ∃ source, result = .ok source ∧ function source = value := by
  cases result with
  | error cause => cases computed
  | ok source => exact ⟨source, rfl, Option.some.inj computed⟩

section Waiting

variable {incoming : Operator} {waiting rest : List Waiting} {released : List Step}

/-- What an incoming operator releases is the operators on top of what goes on waiting. -/
theorem exists_of_release (result : release incoming waiting = (released, rest)) :
    ∃ held : List Operator, waiting = held.map Waiting.operator ++ rest ∧
      released = held.map Step.operator := by
  fun_induction release incoming waiting generalizing released rest with
  | case1 top waiting looser =>
    cases result
    exact ⟨[], rfl, rfl⟩
  | case2 top waiting tight _ _ parts inductionHypothesis =>
    cases result
    obtain ⟨held, whole, out⟩ := inductionHypothesis parts
    exact ⟨top :: held, congrArg _ whole, congrArg _ out⟩
  | case3 waiting noOperator =>
    cases result
    exact ⟨[], rfl, rfl⟩

/-- What a closing parenthesis releases is the operators above the last opening one. -/
theorem exists_of_close (result : close waiting = .ok (released, rest)) :
    ∃ held : List Operator, waiting = held.map Waiting.operator ++ .opening :: rest ∧
      released = held.map Step.operator := by
  induction waiting generalizing released with
  | nil => cases result
  | cons top waiting inductionHypothesis =>
    cases top with
    | opening =>
      cases result
      exact ⟨[], rfl, rfl⟩
    | operator top =>
      obtain ⟨⟨below, kept⟩, closed, same⟩ := exists_of_map_eq_ok result
      cases same
      obtain ⟨held, whole, out⟩ := inductionHypothesis closed
      exact ⟨top :: held, congrArg _ whole, congrArg _ out⟩

/-- What is released at the end is all that waits, and no parenthesis is open. -/
theorem exists_of_drain {steps : List Step} (result : drain waiting = .ok steps) :
    ∃ held : List Operator, waiting = held.map Waiting.operator ∧ steps = held.map Step.operator := by
  induction waiting generalizing steps with
  | nil =>
    cases result
    exact ⟨[], rfl, rfl⟩
  | cons top waiting inductionHypothesis =>
    cases top with
    | opening => cases result
    | operator top =>
      obtain ⟨below, drained, rfl⟩ := exists_of_map_eq_ok result
      obtain ⟨held, whole, out⟩ := inductionHypothesis drained
      exact ⟨top :: held, congrArg _ whole, congrArg _ out⟩

end Waiting

/-- The value that a step puts on the stack. -/
@[simp] def Step.number? : Step → Option Float
  | .number value => some value
  | .operator _ => none

/-- The operator that a step applies. -/
@[simp] def Step.operator? : Step → Option Operator
  | .number _ => none
  | .operator operation => some operation

/-- The operator that waits. -/
@[simp] def Waiting.operator? : Waiting → Option Operator
  | .opening => none
  | .operator operation => some operation

/-- The value of a number token. -/
@[simp] def Token.number? : Token → Option Float
  | .number value => some value
  | _ => none

/-- The operator that a run of a token spells. -/
@[simp] def Token.operator? : Token → Option Operator
  | .operator run => (Operator.ofRun run).toOption
  | _ => none

/-- Tokens all runs of which are operators, and whose parentheses close the given number of open ones
and all that they open themselves. -/
inductive Closes : Nat → List Token → Prop
  | nil : Closes 0 []
  | number {depth : Nat} {value : Float} {tokens : List Token} (others : Closes depth tokens) :
      Closes depth (.number value :: tokens)
  | operator {depth : Nat} {operator : Operator} {tokens : List Token}
      (others : Closes depth tokens) : Closes depth (.operator [operator.symbol] :: tokens)
  | opening {depth : Nat} {tokens : List Token} (others : Closes (depth + 1) tokens) :
      Closes depth (.opening :: tokens)
  | closing {depth : Nat} {tokens : List Token} (others : Closes depth tokens) :
      Closes (depth + 1) (.closing :: tokens)

/-- What a conversion keeps: its tokens close what was open, the numbers stay in their order, and the
operators are those of the tokens and those that waited. -/
structure Keeps (waiting : List Waiting) (tokens : List Token) (steps : List Step) : Prop where
  closes : Closes (waiting.count .opening) tokens
  numbers : steps.filterMap Step.number? = tokens.filterMap Token.number?
  operators : (steps.filterMap Step.operator?).Perm
    (waiting.filterMap Waiting.operator? ++ tokens.filterMap Token.operator?)

/-- Operators that wait open nothing. -/
@[simp] theorem count_opening_operators (held : List Operator) :
    (held.map Waiting.operator).count .opening = 0 := by
  simp [List.count_eq_zero]

/-- An operator that waits is found again. -/
@[simp] theorem Waiting.operator?_comp_operator : Waiting.operator? ∘ Waiting.operator = some :=
  rfl

/-- An operator that is applied is found again. -/
@[simp] theorem Step.operator?_comp_operator : Step.operator? ∘ Step.operator = some :=
  rfl

/-- An operator that is applied puts no number on the stack. -/
@[simp] theorem Step.number?_comp_operator : Step.number? ∘ Step.operator = fun _ => none :=
  rfl

/-- A successful conversion keeps the numbers, the operators and the balance of the parentheses. -/
theorem keeps_of_convert {waiting : List Waiting} {tokens : List Token} {steps : List Step}
    (converted : convert waiting tokens = .ok steps) : Keeps waiting tokens steps := by
  induction tokens generalizing waiting steps with
  | nil =>
    obtain ⟨held, rfl, rfl⟩ := exists_of_drain converted
    refine ⟨?_, by simp, by simp⟩
    rw [count_opening_operators]
    exact .nil
  | cons token tokens inductionHypothesis =>
    cases token with
    | number value =>
      obtain ⟨others, rest, rfl⟩ := exists_of_map_eq_ok converted
      obtain ⟨closes, numbers, operators⟩ := inductionHypothesis rest
      exact ⟨.number closes, congrArg (value :: ·) numbers, operators⟩
    | operator run =>
      rw [convert] at converted
      cases spelled : Operator.ofRun run with
      | error cause =>
        rw [spelled] at converted
        cases converted
      | ok incoming =>
        rw [spelled] at converted
        cases result : release incoming waiting with
        | mk released kept =>
          simp only [result] at converted
          obtain ⟨others, rest, rfl⟩ := exists_of_map_eq_ok converted
          obtain ⟨closes, numbers, operators⟩ := inductionHypothesis rest
          obtain ⟨held, rfl, rfl⟩ := exists_of_release result
          cases Operator.ofRun_eq_ok_iff.1 spelled
          refine ⟨?_, by simpa [List.filterMap_cons] using numbers, ?_⟩
          · rw [List.count_append, count_opening_operators, Nat.zero_add]
            exact .operator (by simpa using closes)
          · have added := operators.trans List.perm_middle.symm
            simpa [List.filterMap_cons, spelled, Except.toOption, List.perm_append_left_iff] using added
    | opening =>
      obtain ⟨closes, numbers, operators⟩ := inductionHypothesis converted
      rw [List.count_cons_self] at closes
      exact ⟨.opening closes, numbers, operators⟩
    | closing =>
      rw [convert] at converted
      cases result : close waiting with
      | error cause =>
        rw [result] at converted
        cases converted
      | ok parts =>
        obtain ⟨released, kept⟩ := parts
        simp only [result] at converted
        obtain ⟨others, rest, rfl⟩ := exists_of_map_eq_ok converted
        obtain ⟨closes, numbers, operators⟩ := inductionHypothesis rest
        obtain ⟨held, rfl, rfl⟩ := exists_of_close result
        refine ⟨?_, by simpa [List.filterMap_cons] using numbers, ?_⟩
        · rw [List.count_append, count_opening_operators, Nat.zero_add, List.count_cons_self]
          exact .closing closes
        · simpa [List.filterMap_cons, List.perm_append_left_iff] using operators

end ProseTree.Arithmetic
