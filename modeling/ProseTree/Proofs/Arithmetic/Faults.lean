import ProseTree.Proofs.Arithmetic.Conversion

/-!
# Where a conversion stops

A conversion stops at the first token that offends: an operator run without a meaning, or a closing
parenthesis where none is open. Whether a token offends depends on the tokens before it alone, of which
only their nesting counts. A list without such a token is converted, unless a parenthesis stays open at
its end.

The conversion never stops between tokens: each token either offends or is converted, and what waits
behind it keeps the count of the open parentheses.
-/

namespace ProseTree.Arithmetic

/-- What a token adds to the number of open parentheses. -/
def Token.opens : Token → Int
  | .opening => 1
  | .closing => -1
  | .number _ | .operator _ => 0

/-- How many more parentheses some tokens open than they close. -/
def nesting : List Token → Int
  | [] => 0
  | token :: tokens => token.opens + nesting tokens

@[simp]
theorem nesting_nil : nesting [] = 0 := rfl

@[simp]
theorem nesting_cons (token : Token) (tokens : List Token) :
    nesting (token :: tokens) = token.opens + nesting tokens := rfl

/-- A token cannot stand behind some tokens and the given number of open parentheses, for a cause: its
run has no meaning, or it closes a parenthesis where none is open. -/
inductive Offends (depth : Int) (before : List Token) : Token → EvalError → Prop
  | run {run : Text} (unknown : ∀ operator : Operator, run ≠ [operator.symbol]) :
      Offends depth before (.operator run) (.unsupportedOperator run)
  | closing (unmatched : depth + nesting before ≤ 0) :
      Offends depth before .closing .mismatchedParentheses

/-- Tokens none of which offends behind those before it. -/
def NoneOffends (depth : Int) (tokens : List Token) : Prop :=
  ∀ before token after, tokens = before ++ token :: after →
    ∀ cause, ¬ Offends depth before token cause

/-- The earliest of the tokens that offend does so for the cause. -/
def FirstOffends (depth : Int) (tokens : List Token) (cause : EvalError) : Prop :=
  ∃ before token after, tokens = before ++ token :: after ∧ Offends depth before token cause ∧
    NoneOffends depth before

/-- Parentheses that are closed in the order in which they are opened: never more than are open, and all of
them at the end. -/
structure IsBalanced (tokens : List Token) : Prop where
  closes : ∀ before, before <+: tokens → 0 ≤ nesting before
  whole : nesting tokens = 0

/-- A token that is no operator run, or the symbol of an operator alone. -/
def Token.IsKnown (token : Token) : Prop :=
  ∀ run, token = .operator run → ∃ operator : Operator, run = [operator.symbol]

section Tokens

variable {depth : Int} {first : Token} {tokens : List Token} {cause : EvalError}

/-- A token offends for one cause only. -/
theorem Offends.cause_eq {before : List Token} {other : EvalError} (offends : Offends depth before first cause)
    (also : Offends depth before first other) : cause = other := by
  cases offends <;> cases also <;> rfl

/-- What is open before the first token and what it opens is open before the others. -/
theorem offends_cons_iff {before : List Token} {token : Token} :
    Offends depth (first :: before) token cause ↔ Offends (depth + first.opens) before token cause := by
  constructor
  · rintro (unknown | unmatched)
    · exact .run unknown
    · exact .closing (by rwa [nesting_cons, ← Int.add_assoc] at unmatched)
  · rintro (unknown | unmatched)
    · exact .run unknown
    · exact .closing (by rwa [nesting_cons, ← Int.add_assoc])

/-- None of some tokens offends when the first one does not, nor any of the others behind it. -/
theorem noneOffends_cons_iff :
    NoneOffends depth (first :: tokens) ↔
      (∀ cause, ¬ Offends depth [] first cause) ∧ NoneOffends (depth + first.opens) tokens := by
  constructor
  · intro sound
    refine ⟨sound [] first tokens rfl, ?_⟩
    rintro before token after rfl cause offends
    exact sound (first :: before) token after rfl cause (offends_cons_iff.2 offends)
  · rintro ⟨notFirst, sound⟩ before token after whole cause offends
    cases before with
    | nil =>
      cases whole
      exact notFirst cause offends
    | cons other before =>
      cases whole
      exact sound before token after rfl cause (offends_cons_iff.1 offends)

/-- The first token is the earliest one that offends, or it does not offend and another one does behind
it. -/
theorem firstOffends_cons_iff :
    FirstOffends depth (first :: tokens) cause ↔
      Offends depth [] first cause ∨
        (∀ cause, ¬ Offends depth [] first cause) ∧ FirstOffends (depth + first.opens) tokens cause := by
  constructor
  · rintro ⟨before, token, after, whole, offends, sound⟩
    cases before with
    | nil =>
      cases whole
      exact .inl offends
    | cons other before =>
      cases whole
      obtain ⟨notFirst, sound⟩ := noneOffends_cons_iff.1 sound
      exact .inr ⟨notFirst, before, token, after, rfl, offends_cons_iff.1 offends, sound⟩
  · rintro (offends | ⟨notFirst, before, token, after, rfl, offends, sound⟩)
    · refine ⟨[], first, tokens, rfl, offends, ?_⟩
      intro before token after whole
      simp at whole
    · exact ⟨first :: before, token, after, rfl, offends_cons_iff.2 offends,
        noneOffends_cons_iff.2 ⟨notFirst, sound⟩⟩

/-- No token offends among none. -/
theorem noneOffends_nil : NoneOffends depth [] := by
  intro before token after whole
  simp at whole

/-- No token of an empty list is the earliest one that offends. -/
theorem not_firstOffends_nil : ¬ FirstOffends depth [] cause := by
  rintro ⟨before, token, after, whole, -⟩
  simp at whole

/-- A token does not offend behind no tokens when its run is known and it closes nothing that is not
open. -/
theorem forall_not_offends_nil_iff :
    (∀ cause, ¬ Offends depth [] first cause) ↔ first.IsKnown ∧ (first = .closing → 0 < depth) := by
  constructor
  · intro sound
    constructor
    · rintro run rfl
      by_contra unknown
      exact sound _ (.run fun operator same => unknown ⟨operator, same⟩)
    · rintro rfl
      by_contra unmatched
      exact sound _ (.closing (by simpa using unmatched))
  · rintro ⟨known, closesOpen⟩ cause (unknown | unmatched)
    · obtain ⟨operator, same⟩ := known _ rfl
      exact unknown operator same
    · have opened := closesOpen rfl
      rw [nesting_nil] at unmatched
      omega

/-- No token offends when all runs are known and no more parentheses are closed than are open. -/
theorem noneOffends_iff (opened : 0 ≤ depth) :
    NoneOffends depth tokens ↔
      (∀ token ∈ tokens, token.IsKnown) ∧ ∀ before, before <+: tokens → 0 ≤ depth + nesting before := by
  induction tokens generalizing depth with
  | nil =>
    simp only [noneOffends_nil, List.not_mem_nil, false_implies, implies_true, List.prefix_nil,
      true_and, true_iff]
    rintro before rfl
    simpa using opened
  | cons first tokens inductionHypothesis =>
    rw [noneOffends_cons_iff, forall_not_offends_nil_iff, List.forall_mem_cons]
    constructor
    · rintro ⟨⟨known, closesOpen⟩, sound⟩
      have stillOpened : 0 ≤ depth + first.opens := by
        cases first with
        | closing =>
          have opened := closesOpen rfl
          simp only [Token.opens]
          omega
        | _ =>
          simp only [Token.opens]
          omega
      obtain ⟨others, prefixes⟩ := (inductionHypothesis stillOpened).1 sound
      refine ⟨⟨known, others⟩, ?_⟩
      intro before isPrefix
      obtain rfl | ⟨others, rfl, inOthers⟩ := List.prefix_cons_iff.1 isPrefix
      · simpa using opened
      · rw [nesting_cons, ← Int.add_assoc]
        exact prefixes others inOthers
    · rintro ⟨⟨known, others⟩, prefixes⟩
      have stillOpened : 0 ≤ depth + first.opens := by
        simpa using prefixes [first] (by simp)
      refine ⟨⟨known, ?_⟩, (inductionHypothesis stillOpened).2 ⟨others, ?_⟩⟩
      · rintro rfl
        simp only [Token.opens] at stillOpened
        omega
      · intro before isPrefix
        rw [Int.add_assoc, ← nesting_cons]
        exact prefixes (first :: before) (List.cons_prefix_cons.2 ⟨rfl, isPrefix⟩)

end Tokens

/-- A run that is no symbol of an operator has no meaning. -/
theorem Operator.ofRun_eq_error {run : Text} (unknown : ∀ operator : Operator, run ≠ [operator.symbol]) :
    Operator.ofRun run = .error (.unsupportedOperator run) := by
  unfold Operator.ofRun
  split
  · exact absurd rfl (unknown .add)
  · exact absurd rfl (unknown .subtract)
  · exact absurd rfl (unknown .multiply)
  · exact absurd rfl (unknown .divide)
  · rfl

section Steps

variable {waiting : List Waiting} {tokens : List Token}

/-- How many parentheses are open among what waits. -/
def openAmong (waiting : List Waiting) : Int :=
  (waiting.count .opening : Nat)

/-- Without an open parenthesis nothing can be closed. -/
theorem close_eq_error (closed : waiting.count .opening = 0) :
    close waiting = .error .mismatchedParentheses := by
  induction waiting with
  | nil => rfl
  | cons top waiting inductionHypothesis =>
    cases top with
    | opening => simp at closed
    | operator top =>
      rw [close, inductionHypothesis (by simpa using closed)]
      rfl

/-- An open parenthesis can be closed. -/
theorem exists_close_eq_ok (opened : 0 < waiting.count .opening) :
    ∃ released rest, close waiting = .ok (released, rest) := by
  induction waiting with
  | nil => simp at opened
  | cons top waiting inductionHypothesis =>
    cases top with
    | opening => exact ⟨[], waiting, rfl⟩
    | operator top =>
      obtain ⟨released, rest, closed⟩ := inductionHypothesis (by simpa using opened)
      exact ⟨_, rest, by rw [close, closed]; rfl⟩

/-- At the end everything is released when no parenthesis is open. -/
theorem exists_drain_eq_ok (closed : waiting.count .opening = 0) :
    ∃ steps, drain waiting = .ok steps := by
  induction waiting with
  | nil => exact ⟨[], rfl⟩
  | cons top waiting inductionHypothesis =>
    cases top with
    | opening => simp at closed
    | operator top =>
      obtain ⟨steps, drained⟩ := inductionHypothesis (by simpa using closed)
      exact ⟨_, by rw [drain, drained]; rfl⟩

/-- At the end an open parenthesis is a fault. -/
theorem drain_eq_error (opened : 0 < waiting.count .opening) :
    drain waiting = .error .mismatchedParentheses := by
  induction waiting with
  | nil => simp at opened
  | cons top waiting inductionHypothesis =>
    cases top with
    | opening => rfl
    | operator top =>
      rw [drain, inductionHypothesis (by simpa using opened)]
      rfl

/-- What a conversion does at its first token: it stops there because the token offends, or the token does
not, and what waits for the other tokens has the parentheses open that are open behind it. -/
theorem convert_cons (waiting : List Waiting) (first : Token) (tokens : List Token) :
    (∃ cause, Offends (openAmong waiting) [] first cause ∧
        convert waiting (first :: tokens) = .error cause) ∨
      (∀ cause, ¬ Offends (openAmong waiting) [] first cause) ∧
        ∃ released kept, openAmong kept = openAmong waiting + first.opens ∧
          convert waiting (first :: tokens) = (convert kept tokens).map (released ++ ·) := by
  rw [forall_not_offends_nil_iff]
  cases first with
  | number value =>
    refine .inr ⟨⟨by simp [Token.IsKnown], by simp⟩, [.number value], waiting, by simp [Token.opens], ?_⟩
    rw [convert]
    rfl
  | operator run =>
    cases spelled : Operator.ofRun run with
    | error cause =>
      left
      have unknown : ∀ operator : Operator, run ≠ [operator.symbol] := by
        intro operator same
        rw [Operator.ofRun_eq_ok_iff.2 same] at spelled
        cases spelled
      rw [Operator.ofRun_eq_error unknown] at spelled
      cases spelled
      exact ⟨_, .run unknown, by rw [convert, Operator.ofRun_eq_error unknown]⟩
    | ok incoming =>
      right
      cases result : release incoming waiting with
      | mk released kept =>
        obtain ⟨held, rfl, -⟩ := exists_of_release result
        refine ⟨⟨?_, by simp⟩, released, .operator incoming :: kept, ?_, ?_⟩
        · rintro other same
          cases same
          exact ⟨incoming, Operator.ofRun_eq_ok_iff.1 spelled⟩
        · simp [openAmong, Token.opens]
        · simp only [convert, spelled, result]
  | opening =>
    refine .inr ⟨⟨by simp [Token.IsKnown], by simp⟩, [], .opening :: waiting, ?_, ?_⟩
    · simp [openAmong, Token.opens]
    · rw [convert]
      cases convert (.opening :: waiting) tokens <;> rfl
  | closing =>
    obtain noneOpen | anyOpen := Nat.eq_zero_or_pos (waiting.count .opening)
    · have unmatched : openAmong waiting + nesting [] ≤ 0 := by simp [openAmong, noneOpen]
      exact .inl ⟨_, .closing unmatched, by rw [convert, close_eq_error noneOpen]⟩
    · right
      obtain ⟨released, kept, closed⟩ := exists_close_eq_ok anyOpen
      obtain ⟨held, rfl, -⟩ := exists_of_close closed
      refine ⟨⟨by simp [Token.IsKnown], ?_⟩, released, kept, ?_, by rw [convert, closed]⟩
      · intro _
        exact Int.natCast_pos.2 anyOpen
      · simp only [openAmong, List.count_append, count_opening_operators, List.count_cons_self, Token.opens]
        omega

/-- A conversion in which no token offends goes on to the end, where as many parentheses are open as the
tokens leave open. -/
theorem exists_convert_eq_drain (sound : NoneOffends (openAmong waiting) tokens) :
    ∃ released kept, openAmong kept = openAmong waiting + nesting tokens ∧
      convert waiting tokens = (drain kept).map (released ++ ·) := by
  induction tokens generalizing waiting with
  | nil =>
    refine ⟨[], waiting, (Int.add_zero _).symm, ?_⟩
    rw [convert]
    cases drain waiting <;> rfl
  | cons first tokens inductionHypothesis =>
    obtain ⟨notFirst, others⟩ := noneOffends_cons_iff.1 sound
    obtain ⟨cause, offends, -⟩ | ⟨-, released, following, opened, converted⟩ :=
      convert_cons waiting first tokens
    · exact absurd offends (notFirst cause)
    · rw [← opened] at others
      obtain ⟨more, kept, atEnd, rest⟩ := inductionHypothesis others
      refine ⟨released ++ more, kept, ?_, ?_⟩
      · rw [atEnd, opened, nesting_cons, Int.add_assoc]
      · rw [converted, rest]
        cases drain kept with
        | error cause => rfl
        | ok steps => exact congrArg Except.ok (List.append_assoc released more steps).symm

/-- A conversion succeeds when no token offends and no parenthesis stays open. -/
theorem exists_convert_eq_ok (sound : NoneOffends (openAmong waiting) tokens)
    (closed : openAmong waiting + nesting tokens = 0) : ∃ steps, convert waiting tokens = .ok steps := by
  obtain ⟨released, kept, atEnd, converted⟩ := exists_convert_eq_drain sound
  obtain ⟨steps, drained⟩ := exists_drain_eq_ok (Int.natCast_eq_zero.1 (atEnd.trans closed))
  exact ⟨released ++ steps, by rw [converted, drained]; rfl⟩

/-- A conversion fails with mismatched parentheses when no token offends and a parenthesis stays open. -/
theorem convert_eq_error_of_open (sound : NoneOffends (openAmong waiting) tokens)
    (opened : 0 < openAmong waiting + nesting tokens) :
    convert waiting tokens = .error .mismatchedParentheses := by
  obtain ⟨released, kept, atEnd, converted⟩ := exists_convert_eq_drain sound
  rw [← atEnd] at opened
  rw [converted, drain_eq_error (Int.natCast_pos.1 opened)]
  rfl

/-- A conversion fails at the earliest token that offends. -/
theorem convert_eq_error_of_firstOffends {cause : EvalError}
    (first : FirstOffends (openAmong waiting) tokens cause) : convert waiting tokens = .error cause := by
  induction tokens generalizing waiting with
  | nil => exact absurd first not_firstOffends_nil
  | cons token tokens inductionHypothesis =>
    rw [firstOffends_cons_iff] at first
    obtain ⟨other, offends, stopped⟩ | ⟨notFirst, released, kept, opened, converted⟩ :=
      convert_cons waiting token tokens
    · obtain here | ⟨notHere, -⟩ := first
      · rw [stopped, offends.cause_eq here]
      · exact absurd offends (notHere other)
    · obtain here | ⟨-, behind⟩ := first
      · exact absurd here (notFirst cause)
      · rw [← opened] at behind
        rw [converted, inductionHypothesis behind]
        rfl

end Steps

/-- Of some tokens none offends, or there is an earliest one that does. -/
theorem noneOffends_or_firstOffends (depth : Int) (tokens : List Token) :
    NoneOffends depth tokens ∨ ∃ cause, FirstOffends depth tokens cause := by
  induction tokens generalizing depth with
  | nil => exact .inl noneOffends_nil
  | cons first tokens inductionHypothesis =>
    by_cases here : ∃ cause, Offends depth [] first cause
    · obtain ⟨cause, offends⟩ := here
      exact .inr ⟨cause, firstOffends_cons_iff.2 (.inl offends)⟩
    · have notFirst := not_exists.1 here
      obtain sound | ⟨cause, behind⟩ := inductionHypothesis (depth + first.opens)
      · exact .inl (noneOffends_cons_iff.2 ⟨notFirst, sound⟩)
      · exact .inr ⟨cause, firstOffends_cons_iff.2 (.inr ⟨notFirst, behind⟩)⟩

/-- Where one of some tokens offends, it is not so that none does. -/
theorem FirstOffends.not_noneOffends {depth : Int} {tokens : List Token} {cause : EvalError}
    (first : FirstOffends depth tokens cause) : ¬ NoneOffends depth tokens := by
  obtain ⟨before, token, after, whole, offends, -⟩ := first
  exact fun sound => sound before token after whole cause offends

/-- From the start on, no token offends and all parentheses are closed when the runs are known and the
parentheses are balanced. -/
theorem noneOffends_zero_iff {tokens : List Token} :
    NoneOffends 0 tokens ∧ nesting tokens = 0 ↔
      (∀ token ∈ tokens, token.IsKnown) ∧ IsBalanced tokens := by
  simp only [noneOffends_iff (Int.le_refl 0), Int.zero_add]
  constructor
  · rintro ⟨⟨known, prefixes⟩, whole⟩
    exact ⟨known, prefixes, whole⟩
  · rintro ⟨known, prefixes, whole⟩
    exact ⟨⟨known, prefixes⟩, whole⟩

/-- The three ways in which a conversion of tokens can end. -/
theorem evaluationOrder_cases (tokens : List Token) :
    (NoneOffends 0 tokens ∧ nesting tokens = 0 ∧ ∃ steps, evaluationOrder tokens = .ok steps) ∨
      (NoneOffends 0 tokens ∧ 0 < nesting tokens ∧
        evaluationOrder tokens = .error .mismatchedParentheses) ∨
      ∃ cause, FirstOffends 0 tokens cause ∧ evaluationOrder tokens = .error cause := by
  have atStart : openAmong [] = 0 := rfl
  obtain sound | ⟨cause, first⟩ := noneOffends_or_firstOffends 0 tokens
  · have nonnegative : 0 ≤ nesting tokens := by
      simpa using ((noneOffends_iff (Int.le_refl 0)).1 sound).2 tokens List.prefix_rfl
    rw [← atStart] at sound
    obtain opened | closed := Int.lt_or_eq_of_le nonnegative
    · exact .inr (.inl ⟨sound, opened, convert_eq_error_of_open sound (by rwa [atStart, Int.zero_add])⟩)
    · exact .inl ⟨sound, closed.symm, exists_convert_eq_ok sound (by rw [atStart, ← closed]; rfl)⟩
  · exact .inr (.inr ⟨cause, first, convert_eq_error_of_firstOffends first⟩)

/-- What a conversion of tokens comes to. It succeeds exactly when every operator run is the symbol of an
operator and the parentheses are balanced. Its steps then hold the numbers of the tokens in their order
and the operators of the tokens, each as often as it stands there. Otherwise the cause is that of the
earliest token that offends, or mismatched parentheses when none does and only a parenthesis stays open
at the end. -/
theorem evaluationOrder_outcome (tokens : List Token) :
    ((∃ steps, evaluationOrder tokens = .ok steps) ↔
      (∀ token ∈ tokens, token.IsKnown) ∧ IsBalanced tokens) ∧
    (∀ steps, evaluationOrder tokens = .ok steps →
      steps.filterMap Step.number? = tokens.filterMap Token.number? ∧
        (steps.filterMap Step.operator?).Perm (tokens.filterMap Token.operator?)) ∧
    ∀ cause, evaluationOrder tokens = .error cause ↔
      FirstOffends 0 tokens cause ∨
        NoneOffends 0 tokens ∧ 0 < nesting tokens ∧ cause = .mismatchedParentheses := by
  refine ⟨?_, ?_, ?_⟩
  · rw [← noneOffends_zero_iff]
    obtain ⟨sound, closed, ordered⟩ | ⟨sound, opened, failed⟩ | ⟨cause, first, failed⟩ :=
      evaluationOrder_cases tokens
    · exact ⟨fun _ => ⟨sound, closed⟩, fun _ => ordered⟩
    · simp [failed, Int.ne_of_gt opened]
    · simp [failed, first.not_noneOffends]
  · intro steps ordered
    obtain ⟨-, numbers, operators⟩ := keeps_of_convert ordered
    exact ⟨numbers, operators⟩
  · intro cause
    constructor
    · intro failed
      obtain ⟨-, -, steps, ordered⟩ | ⟨sound, opened, other⟩ | ⟨other, first, alsoFailed⟩ :=
        evaluationOrder_cases tokens
      · rw [ordered] at failed
        cases failed
      · rw [other] at failed
        cases failed
        exact .inr ⟨sound, opened, rfl⟩
      · rw [alsoFailed] at failed
        cases failed
        exact .inl first
    · rintro (first | ⟨sound, opened, rfl⟩)
      · exact convert_eq_error_of_firstOffends first
      · exact convert_eq_error_of_open sound (by simpa [openAmong] using opened)

/-- The earlier of two faults is the cause. -/
example : evaluationOrder [.number 1, .closing, .operator "**"] = .error .mismatchedParentheses :=
  rfl

end ProseTree.Arithmetic
