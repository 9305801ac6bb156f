import ProseTree.Proofs.Arithmetic.Phases
import ProseTree.Proofs.Text.LineEnds

/-!
# White space in expressions

No token goes on behind white space, so white space cuts a scan in two: the tokens of what stands before it,
then the tokens of what stands behind it. In the plain form, too, it makes no difference how much white
space stands in one place or of which kind it is.
-/

namespace ProseTree.Arithmetic

variable {operators : List Char}

section Scans

variable {d : Char}

/-- White space is no part of a literal. -/
theorem splitLiteral_append_blank_cons (blank : Text.isBlank d = true) (left right : Text) :
    splitLiteral (left ++ d :: right) =
      ((splitLiteral left).1, (splitLiteral left).2 ++ d :: right) := by
  have noDigit := Text.isDecimalDigit_eq_false_of_isBlank blank
  have digits : ∀ text : Text,
      splitDigits (text ++ d :: right) = ((splitDigits text).1, (splitDigits text).2 ++ d :: right) := by
    intro text
    rw [splitDigits, Text.takeWhile_append_cons_of_neg noDigit, Text.dropWhile_append_cons_of_neg noDigit]
    rfl
  have noPoint : d ≠ '.' := by
    rintro rfl
    exact absurd blank (by decide)
  unfold splitLiteral
  rw [digits]
  generalize splitDigits left = parts
  obtain ⟨integral, rest⟩ := parts
  cases rest with
  | nil => simp [noPoint]
  | cons c after =>
    by_cases isPoint : c = '.'
    · rw [isPoint, List.cons_append]
      simp only [digits]
      split <;> rfl
    · simp [isPoint]

/-- Two scans, one behind the other. -/
def Scan.append (before after : Scan) : Scan :=
  ⟨before.tokens ++ after.tokens, before.skipped + after.skipped⟩

/-- A token in front of the first scan is a token in front of both. -/
theorem Scan.withToken_append (token : Token) (before after : Scan) :
    (before.withToken token).append after = (before.append after).withToken token := rfl

/-- A character in front of the first scan is one in front of both. -/
theorem Scan.withSkipped_append (c : Char) (before after : Scan) :
    (before.withSkipped c).append after = (before.append after).withSkipped c := by
  unfold withSkipped
  split
  · rfl
  · simp only [append, Scan.mk.injEq, true_and]
    omega

/-- A step in front of the first of two scans is one in front of both. -/
theorem map_bind_append {step : Scan → Scan}
    (inFront : ∀ before after, (step before).append after = step (before.append after))
    (first second : Except EvalError Scan) :
    ((first.map step).bind fun before => second.map before.append) =
      (first.bind fun before => second.map before.append).map step := by
  cases first with
  | error cause => rfl
  | ok before =>
    cases second with
    | error cause => rfl
    | ok after => exact congrArg Except.ok (inFront before after)

/-- White space cuts a scan in two. Where the scan of the first part fails, it is the failure of the whole. -/
theorem scan_append_blank_cons
    (separate : ∀ c, Text.isBlank c = true → operators.contains c = false)
    (blank : Text.isBlank d = true) (left right : Text) :
    scan operators (left ++ d :: right) =
      (scan operators left).bind fun before => (scan operators right).map before.append := by
  fun_induction scan operators left with
  | case1 =>
    have behind := scan_blank_append separate (List.forall_mem_singleton.2 blank) right
    rw [List.singleton_append] at behind
    rw [List.nil_append, behind, Except.bind]
    cases scan operators right with
    | error cause => rfl
    | ok after => simp [Except.map, Scan.append, Scan.empty]
  | case2 c rest digit shorter noValue =>
    have split := splitLiteral_append_blank_cons blank (c :: rest) right
    rw [List.cons_append] at split
    rw [List.cons_append, scan]
    simp only [digit, dite_true, split, noValue]
    rfl
  | case3 c rest digit shorter value valued inductionHypothesis =>
    have split := splitLiteral_append_blank_cons blank (c :: rest) right
    rw [List.cons_append] at split
    rw [List.cons_append, scan]
    simp only [digit, dite_true, split, valued]
    rw [inductionHypothesis, map_bind_append (Scan.withToken_append _)]
  | case4 c rest noDigit known shorter inductionHypothesis =>
    have outside := separate d blank
    rw [List.cons_append, scan]
    simp only [noDigit, Bool.false_eq_true, dite_false, known, if_true,
      Text.takeWhile_append_cons_of_neg outside, Text.dropWhile_append_cons_of_neg outside]
    rw [inductionHypothesis, map_bind_append (Scan.withToken_append _)]
  | case5 c rest noDigit unknown isOpening inductionHypothesis =>
    rw [List.cons_append, scan]
    simp only [noDigit, Bool.false_eq_true, dite_false, unknown, if_false, isOpening, if_true]
    rw [inductionHypothesis, map_bind_append (Scan.withToken_append _)]
  | case6 c rest noDigit unknown noOpening isClosing inductionHypothesis =>
    rw [List.cons_append, scan]
    simp only [noDigit, Bool.false_eq_true, dite_false, unknown, if_false, noOpening, isClosing, if_true]
    rw [inductionHypothesis, map_bind_append (Scan.withToken_append _)]
  | case7 c rest noDigit unknown noOpening noClosing inductionHypothesis =>
    rw [List.cons_append, scan]
    simp only [noDigit, Bool.false_eq_true, dite_false, unknown, if_false, noOpening, noClosing]
    rw [inductionHypothesis, map_bind_append (Scan.withSkipped_append c)]

/-- Returns in front of line feeds change no scan. -/
theorem scan_withReturns (separate : ∀ c, Text.isBlank c = true → operators.contains c = false)
    (text : Text) : scan operators (Text.withReturns text) = scan operators text := by
  have feed : ∀ c ∈ ['\n'], Text.isBlank c = true := List.forall_mem_singleton.2 rfl
  have onLines := Text.isOnLines text
  induction onLines with
  | last noFeed => rw [Text.withReturns_eq_self noFeed]
  | @cons line rest noFeed _ inductionHypothesis =>
    have behind := scan_blank_append separate feed (Text.withReturns rest)
    rw [List.singleton_append] at behind
    rw [Text.withReturns_append, Text.withReturns_eq_self noFeed, Text.withReturns_feed_cons,
      scan_append_blank_cons separate rfl, behind, inductionHypothesis,
      scan_append_blank_cons separate rfl]

/-- Returns in front of line feeds change no value. -/
theorem value_withReturns {evaluator : Evaluator}
    (separate : ∀ c, Text.isBlank c = true → evaluator.operators.contains c = false) (text : Text) :
    evaluator.value (Text.withReturns text) = evaluator.value text := by
  unfold Evaluator.value Evaluator.scan
  rw [scan_withReturns separate]

end Scans

namespace Phase

/-- The phase that white space leads to. -/
def afterBlank? : Phase → Option Phase
  | beforeFirst => some beforeFirst
  | integral | fraction | afterNumber => some afterNumber
  | operator | beforeNumber => some beforeNumber
  | afterPoint => none

/-- More white space leads nowhere else. -/
theorem afterBlank?_of_afterBlank? {source target : Phase} (step : source.afterBlank? = some target) :
    target.afterBlank? = some target := by
  cases source <;> cases step <;> rfl

variable {c : Char} {rest : Text} {source : Phase}
  (separate : ∀ c, Text.isBlank c = true → operators.contains c = false)

include separate

/-- White space leads to one phase at most. -/
theorem leads_blank_iff (blank : Text.isBlank c = true) {target : Phase} :
    leads operators c source target = true ↔ source.afterBlank? = some target := by
  have noDigit := Text.isDecimalDigit_eq_false_of_isBlank blank
  have noPoint : (c == '.') = false := by
    rw [beq_eq_false_iff_ne]
    rintro rfl
    exact absurd blank (by decide)
  have unknown := separate c blank
  cases target <;> simp only [leads, blank, noDigit, noPoint, unknown] <;> cases source <;> decide

/-- A text behind white space is read in the phase that white space leads to. -/
theorem accepts_blank_cons_iff (blank : Text.isBlank c = true) :
    Accepts operators source (c :: rest) ↔
      ∃ target, source.afterBlank? = some target ∧ Accepts operators target rest := by
  constructor
  · intro accepted
    cases accepted with
    | cons step others => exact ⟨_, (leads_blank_iff separate blank).1 step, others⟩
  · rintro ⟨target, step, others⟩
    exact .cons ((leads_blank_iff separate blank).2 step) others

/-- Two characters of white space are read like the second one alone. -/
theorem accepts_blank_blank_cons_iff {d : Char} (first : Text.isBlank c = true)
    (second : Text.isBlank d = true) :
    Accepts operators source (c :: d :: rest) ↔ Accepts operators source (d :: rest) := by
  rw [accepts_blank_cons_iff separate first, accepts_blank_cons_iff separate second]
  constructor
  · rintro ⟨target, step, accepted⟩
    obtain ⟨next, again, others⟩ := (accepts_blank_cons_iff separate second).1 accepted
    rw [afterBlank?_of_afterBlank? step] at again
    cases again
    exact ⟨_, step, others⟩
  · rintro ⟨target, step, others⟩
    exact ⟨target, step, (accepts_blank_cons_iff separate second).2
      ⟨target, afterBlank?_of_afterBlank? step, others⟩⟩

/-- Returns in front of line feeds make no difference to the phases. -/
theorem accepts_withReturns_iff (text : Text) :
    Accepts operators source (Text.withReturns text) ↔ Accepts operators source text := by
  induction text generalizing source with
  | nil => exact Iff.rfl
  | cons c rest inductionHypothesis =>
    by_cases isFeed : c = '\n'
    · rw [isFeed, Text.withReturns_feed_cons, accepts_blank_blank_cons_iff separate rfl rfl,
        accepts_blank_cons_iff separate rfl, accepts_blank_cons_iff separate rfl]
      simp only [inductionHypothesis]
    · rw [Text.withReturns_cons_of_ne isFeed]
      constructor
      · intro accepted
        cases accepted with
        | cons step others => exact .cons step (inductionHypothesis.1 others)
      · intro accepted
        cases accepted with
        | cons step others => exact .cons step (inductionHypothesis.2 others)

end Phase

/-- Returns in front of line feeds make no difference to the plain form. -/
theorem isPlain_withReturns {evaluator : Evaluator}
    (separate : ∀ c, Text.isBlank c = true → evaluator.operators.contains c = false) (text : Text) :
    evaluator.isPlain (Text.withReturns text) = evaluator.isPlain text := by
  rw [Bool.eq_iff_iff, Evaluator.isPlain, Evaluator.isPlain, any_isFinal_after_iff, any_isFinal_after_iff]
  simp only [Phase.accepts_withReturns_iff separate]

end ProseTree.Arithmetic
