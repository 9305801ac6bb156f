import ProseTree.Proofs.Arithmetic.Depth
import ProseTree.Proofs.Arithmetic.Phases

/-!
# The value of a plain expression

Behind each number of a plain expression the steps still to come suffice for a stack that holds one
value more than operators are waiting. So an expression in the plain form never runs out of operands
and never leaves values over: it fails only for a run that is no operator, or in a division by zero.
-/

namespace ProseTree.Arithmetic

/-- An incoming operator releases some of the operators that wait, the topmost first. -/
theorem exists_release_operators (incoming : Operator) (held : List Operator) :
    ∃ released kept, held = released ++ kept ∧
      release incoming (held.map Waiting.operator) =
        (released.map Step.operator, kept.map Waiting.operator) := by
  cases result : release incoming (held.map Waiting.operator) with
  | mk out rest =>
    obtain ⟨onTop, whole, rfl⟩ := exists_of_release result
    obtain ⟨released, kept, rfl, same, rfl⟩ := List.map_eq_append_iff.1 whole
    have injective : Function.Injective Waiting.operator := fun _ _ equal => Waiting.operator.inj equal
    obtain rfl := injective.list_map same
    exact ⟨released, kept, rfl, rfl⟩

/-- A run that is no operator is reported with the whole run. -/
theorem Operator.eq_unsupportedOperator_of_ofRun {run : Text} {cause : EvalError}
    (failed : Operator.ofRun run = .error cause) : cause = .unsupportedOperator run := by
  unfold ofRun at failed
  split at failed <;> cases failed
  rfl

/-- Pairs of an operator run and a number are converted to steps that suffice for one value more than
operators are waiting, unless one of the runs is no operator. -/
theorem convert_pairTokens (held : List Operator) (pairs : List (Text × Float)) :
    (∃ run, convert (held.map Waiting.operator) (pairTokens pairs) =
        .error (.unsupportedOperator run)) ∨
      ∃ steps, convert (held.map Waiting.operator) (pairTokens pairs) = .ok steps ∧
        Suffices (held.length + 1) steps := by
  induction pairs generalizing held with
  | nil =>
    have drained := Suffices.operators_append Suffices.done held
    rw [Nat.zero_add, List.append_nil] at drained
    exact .inr ⟨held.map Step.operator, drain_operators held, drained⟩
  | cons pair pairs inductionHypothesis =>
    obtain ⟨run, value⟩ := pair
    change (∃ run', convert _ (.operator run :: .number value :: pairTokens pairs) = _) ∨
      ∃ steps, convert _ (.operator run :: .number value :: pairTokens pairs) = _ ∧ _
    rw [convert]
    cases spelled : Operator.ofRun run with
    | error cause => exact .inl ⟨run, by rw [Operator.eq_unsupportedOperator_of_ofRun spelled]⟩
    | ok incoming =>
      obtain ⟨released, kept, rfl, result⟩ := exists_release_operators incoming held
      simp only [result, convert]
      obtain ⟨unsupported, failed⟩ | ⟨steps, converted, enough⟩ := inductionHypothesis (incoming :: kept)
      · refine .inl ⟨unsupported, ?_⟩
        rw [List.map_cons] at failed
        rw [failed]
        rfl
      · refine .inr ⟨released.map Step.operator ++ .number value :: steps, ?_, ?_⟩
        · rw [List.map_cons] at converted
          rw [converted]
          rfl
        · -- The incoming operator waits with those that are kept, and the number is one value more.
          have behind : Suffices (kept.length + 1) (.number value :: steps) := .number enough
          rw [List.length_append, Nat.add_comm released.length]
          exact behind.operators_append released

/-- A number and pairs of an operator run and a number have an evaluation order that the empty stack
suffices for, unless one of the runs is no operator. -/
theorem evaluationOrder_plainTokens (first : Float) (pairs : List (Text × Float)) :
    (∃ run, evaluationOrder (plainTokens first pairs) = .error (.unsupportedOperator run)) ∨
      ∃ steps, evaluationOrder (plainTokens first pairs) = .ok steps ∧ Suffices 0 steps := by
  rw [evaluationOrder, plainTokens, convert]
  obtain ⟨run, failed⟩ | ⟨steps, converted, enough⟩ := convert_pairTokens [] pairs
  · rw [List.map_nil] at failed
    exact .inl ⟨run, by rw [failed]; rfl⟩
  · rw [List.map_nil] at converted
    exact .inr ⟨.number first :: steps, by rw [converted]; rfl, .number enough⟩

/-- A number and pairs of an operator run and a number have a value, or fail for a division by zero
or for a run that is no operator. -/
theorem value_of_scan {evaluator : Evaluator} {text : Text} {first : Float}
    {pairs : List (Text × Float)} (scanned : evaluator.scan text = .ok ⟨plainTokens first pairs, 0⟩) :
    (∃ value, evaluator.value text = .ok value) ∨ evaluator.value text = .error .divisionByZero ∨
      ∃ run, evaluator.value text = .error (.unsupportedOperator run) := by
  have nonempty : (plainTokens first pairs).isEmpty = false := rfl
  simp only [Evaluator.value, scanned, nonempty, Bool.false_eq_true, if_false]
  obtain ⟨run, failed⟩ | ⟨steps, ordered, enough⟩ := evaluationOrder_plainTokens first pairs
  · rw [failed]
    exact .inr (.inr ⟨run, rfl⟩)
  · rw [ordered]
    dsimp only
    cases ran : evaluateSteps steps with
    | ok value => exact .inl ⟨value, rfl⟩
    | error cause =>
      rw [enough.eq_divisionByZero List.length_nil ran]
      exact .inr (.inl rfl)

/-- A literal has the plain form, and its value is the value of its text. -/
theorem value_of_literal (evaluator : Evaluator) (literal : Literal) :
    evaluator.isPlain literal.text = true ∧ evaluator.value literal.text = .ok literal.value := by
  have written : WritesNumber evaluator.operators literal.value [] literal.text :=
    ⟨[], literal, [], by simp, by simp, rfl, .nil (by simp)⟩
  have scanned : evaluator.scan (literal.text ++ []) = .ok ⟨[.number literal.value], 0⟩ := by
    rw [Evaluator.scan, scan_literal_append literal (by simp), scan]
    rfl
  rw [List.append_nil] at scanned
  constructor
  · exact any_isFinal_after_iff.2 ⟨_, List.mem_singleton_self _, Phase.accepts_of_writesNumber written⟩
  · rw [Evaluator.value, scanned]
    rfl

/-- The plain form agrees with the scan: a text has it exactly when the scan skips nothing of the text
and finds a number and pairs of an operator run and a number. Such a text has a value, or fails for a
division by zero or for a run that is no operator. -/
theorem isPlain_agrees {evaluator : Evaluator} (apart : SetApart evaluator.operators) {text : Text}
    (ascii : HasAsciiDigits text) :
    (evaluator.isPlain text = true ↔
        ∃ first pairs, evaluator.scan text = .ok ⟨plainTokens first pairs, 0⟩) ∧
      (evaluator.isPlain text = true →
        (∃ value, evaluator.evaluate text = .ok value) ∨
          evaluator.evaluate text = .error ⟨text, .divisionByZero⟩ ∨
          ∃ run, evaluator.evaluate text = .error ⟨text, .unsupportedOperator run⟩) := by
  have agrees := isPlain_iff_scan apart ascii
  refine ⟨agrees, ?_⟩
  intro isPlain
  obtain ⟨first, pairs, scanned⟩ := agrees.1 isPlain
  unfold Evaluator.evaluate
  obtain ⟨value, evaluated⟩ | failed | ⟨run, failed⟩ := value_of_scan scanned
  · exact .inl ⟨value, by rw [evaluated]; rfl⟩
  · exact .inr (.inl (by rw [failed]; rfl))
  · exact .inr (.inr ⟨run, by rw [failed]; rfl⟩)

/-- A fraction, white space around a run, and a run of two operator characters. -/
theorem isPlain_agrees_fraction :
    Evaluator.standard.isPlain " 1.5 +2 ** 3" = true ∧
      (∃ first pairs, Evaluator.standard.scan " 1.5 +2 ** 3" = .ok ⟨plainTokens first pairs, 0⟩) ∧
      ((∃ value, Evaluator.standard.evaluate " 1.5 +2 ** 3" = .ok value) ∨
        Evaluator.standard.evaluate " 1.5 +2 ** 3" = .error ⟨" 1.5 +2 ** 3", .divisionByZero⟩ ∨
        ∃ run, Evaluator.standard.evaluate " 1.5 +2 ** 3" =
          .error ⟨" 1.5 +2 ** 3", .unsupportedOperator run⟩) := by
  have ascii : HasAsciiDigits " 1.5 +2 ** 3" := by
    have each : ∀ c ∈ " 1.5 +2 ** 3".toList, (!Text.isDecimalDigit c || c.isDigit) = true :=
      List.all_eq_true.1 (by decide)
    intro c member digit
    simpa [digit] using each c member
  have isPlain : Evaluator.standard.isPlain " 1.5 +2 ** 3" = true := by decide
  obtain ⟨agrees, valued⟩ := isPlain_agrees setApart_standard ascii
  exact ⟨isPlain, agrees.1 isPlain, valued isPlain⟩

end ProseTree.Arithmetic
