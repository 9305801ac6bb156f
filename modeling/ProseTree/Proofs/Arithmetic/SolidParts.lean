import ProseTree.Proofs.Arithmetic.Conversion
import ProseTree.Proofs.Arithmetic.Spacing
import ProseTree.Proofs.Text.Tokens

/-!
# Scans of the solid parts of a text

A scan is made of the scans of the parts of a text that stand between white space, in their order: it has
their tokens behind each other and the sum of their skipped characters, or the failure of the first part that
fails. So the scan of a text, and with it its value, depends on these parts alone. It makes no difference
which white space stands between two of them, or how much.
-/

namespace ProseTree.Arithmetic

variable {operators : List Char}

/-- A scan fails only for a literal without a value. -/
theorem exists_literal_of_scan_eq_error {text : Text} {cause : EvalError}
    (failed : scan operators text = .error cause) : ∃ literal, cause = .invalidNumber literal := by
  fun_induction scan operators text with
  | case1 => cases failed
  | case2 c rest digit shorter noValue =>
    cases failed
    exact ⟨_, rfl⟩
  -- Every other step hands on the failure of the rest.
  | case3 c rest digit shorter value valued inductionHypothesis
  | case4 c rest noDigit known shorter inductionHypothesis
  | case5 c rest noDigit unknown isOpening inductionHypothesis
  | case6 c rest noDigit unknown noOpening isClosing inductionHypothesis
  | case7 c rest noDigit unknown noOpening noClosing inductionHypothesis =>
    exact inductionHypothesis (map_eq_error_iff.1 failed)

/-- The scans of several parts behind each other. -/
def scanParts (operators : List Char) : List Text → Except EvalError Scan
  | [] => .ok .empty
  | part :: parts => (scan operators part).bind fun before => (scanParts operators parts).map before.append

/-- Nothing stands behind the last part. -/
theorem Scan.append_empty (scanned : Scan) : scanned.append .empty = scanned := by
  simp [append, empty]

/-- A single part is scanned by itself. -/
theorem scanParts_singleton (part : Text) : scanParts operators [part] = scan operators part := by
  rw [scanParts]
  cases scan operators part with
  | error cause => rfl
  | ok scanned => exact congrArg Except.ok scanned.append_empty

section Separate

variable (separate : ∀ c, Text.isBlank c = true → operators.contains c = false)

include separate

/-- The scan of a text is made of the scans of its parts between white space. -/
theorem scan_eq_scanParts_tokens (text : Text) :
    scan operators text = scanParts operators (Text.tokens text) := by
  generalize split : Text.tokens text = parts
  induction parts generalizing text with
  | nil =>
    have unspaced := scan_blank_append separate (Text.isBlank_of_tokens_eq_nil split) []
    rw [List.append_nil] at unspaced
    rw [unspaced, scan, scanParts]
  | cons part others inductionHypothesis =>
    obtain ⟨blank, rest, rfl, allBlank, ended, following⟩ := Text.exists_of_tokens_eq_cons split
    rw [scan_blank_append separate allBlank]
    cases rest with
    | nil =>
      cases following
      rw [List.append_nil, ← scanParts_singleton]
      rfl
    | cons d rest =>
      have isBlank : Text.isBlank d = true := ended d rfl
      have behind := scan_blank_append separate (List.forall_mem_singleton.2 isBlank) rest
      rw [List.singleton_append] at behind
      rw [scan_append_blank_cons separate isBlank, ← behind, inductionHypothesis (d :: rest) following,
        scanParts]

/-- White space between two texts cuts their scan in two. -/
theorem scan_append_run {blank : Text} (nonempty : blank ≠ [])
    (allBlank : ∀ c ∈ blank, Text.isBlank c = true) (left right : Text) :
    scan operators (left ++ blank ++ right) =
      (scan operators left).bind fun before => (scan operators right).map before.append := by
  obtain ⟨d, blank, rfl⟩ := List.exists_cons_of_ne_nil nonempty
  obtain ⟨first, others⟩ := List.forall_mem_cons.1 allBlank
  rw [List.append_assoc, List.cons_append, scan_append_blank_cons separate first,
    scan_blank_append separate others]

end Separate

variable {evaluator : Evaluator}

/-- A value is found from the scan alone. -/
theorem value_eq_of_scan_eq {text other : Text} (same : evaluator.scan text = evaluator.scan other) :
    evaluator.value text = evaluator.value other := by
  unfold Evaluator.value
  rw [same]

/-- Scanning respects white space, whatever the operators are as long as none of them is white space. The scan
of two texts with white space between them has the tokens of the first one and then those of the second one,
and it skips what they skip; if one of them fails, so does the whole, with the invalid number of the first
one that fails. Texts with the same parts between white space, such as two that differ in the length or the
kind of white space only, have the same scan and the same value. -/
theorem scan_append_blank_append (separate : ∀ c ∈ evaluator.operators, Text.isBlank c = false)
    {blank : Text} (nonempty : blank ≠ []) (allBlank : ∀ c ∈ blank, Text.isBlank c = true)
    (left right : Text) :
    (∀ before after, evaluator.scan left = .ok before → evaluator.scan right = .ok after →
      evaluator.scan (left ++ blank ++ right) =
        .ok ⟨before.tokens ++ after.tokens, before.skipped + after.skipped⟩) ∧
    (∀ cause, evaluator.scan left = .error cause →
      evaluator.scan (left ++ blank ++ right) = .error cause ∧ ∃ literal, cause = .invalidNumber literal) ∧
    (∀ before cause, evaluator.scan left = .ok before → evaluator.scan right = .error cause →
      evaluator.scan (left ++ blank ++ right) = .error cause ∧ ∃ literal, cause = .invalidNumber literal) ∧
    (∀ other, other ≠ [] → (∀ c ∈ other, Text.isBlank c = true) →
      evaluator.scan (left ++ other ++ right) = evaluator.scan (left ++ blank ++ right) ∧
        evaluator.value (left ++ other ++ right) = evaluator.value (left ++ blank ++ right)) ∧
    ∀ text other, Text.tokens text = Text.tokens other →
      evaluator.scan text = evaluator.scan other ∧ evaluator.value text = evaluator.value other ∧
        (evaluator.evaluate text).toOption = (evaluator.evaluate other).toOption := by
  have apart : ∀ c, Text.isBlank c = true → evaluator.operators.contains c = false := by
    intro c isBlank
    rw [Bool.eq_false_iff, Ne, List.contains_iff_mem]
    intro member
    rw [separate c member] at isBlank
    cases isBlank
  have cut : ∀ run : Text, run ≠ [] → (∀ c ∈ run, Text.isBlank c = true) →
      evaluator.scan (left ++ run ++ right) =
        (evaluator.scan left).bind fun before => (evaluator.scan right).map before.append :=
    fun run isRun blanks => scan_append_run apart isRun blanks left right
  have whole := cut blank nonempty allBlank
  refine ⟨?_, ?_, ?_, ?_, ?_⟩
  · intro before after first second
    rw [whole, first, second]
    rfl
  · intro cause first
    rw [whole, first]
    exact ⟨rfl, exists_literal_of_scan_eq_error first⟩
  · intro before cause first second
    rw [whole, first, second]
    exact ⟨rfl, exists_literal_of_scan_eq_error second⟩
  · intro other isRun blanks
    have same := (cut other isRun blanks).trans whole.symm
    exact ⟨same, value_eq_of_scan_eq same⟩
  · intro text other sameParts
    have same : evaluator.scan text = evaluator.scan other := by
      rw [Evaluator.scan, Evaluator.scan, scan_eq_scanParts_tokens apart, sameParts,
        ← scan_eq_scanParts_tokens apart]
    have sameValue := value_eq_of_scan_eq same
    refine ⟨same, sameValue, ?_⟩
    rw [Evaluator.evaluate, Evaluator.evaluate, sameValue]
    cases evaluator.value other <;> rfl

/-- A skipped character in front of white space, a digit without a value behind it, and white space of two
kinds. -/
theorem scan_append_blank_append_standard :
    (∃ before after, Evaluator.standard.scan "2$ +" = .ok before ∧
      Evaluator.standard.scan "3" = .ok after ∧
      Evaluator.standard.scan ("2$ +" ++ "\t \n" ++ "3") =
        .ok ⟨before.tokens ++ after.tokens, before.skipped + after.skipped⟩ ∧
      before.skipped + after.skipped = 1) ∧
    Evaluator.standard.scan ("2$ +" ++ "\t \n" ++ "٣") = .error (.invalidNumber "٣") ∧
    Evaluator.standard.value "2  +3" = Evaluator.standard.value " 2\t+3" := by
  have separate : ∀ c ∈ Evaluator.standard.operators, Text.isBlank c = false :=
    Text.forall_eq_false_of_any (by decide)
  have nonempty : "\t \n".toList ≠ [] := by decide
  have allBlank : ∀ c ∈ "\t \n".toList, Text.isBlank c = true := List.all_eq_true.1 (by decide)
  have skipsOne : (Evaluator.standard.scan "2$ +").toOption.map Scan.skipped = some 1 := by
    decide +kernel
  have skipsNone : (Evaluator.standard.scan "3").toOption.map Scan.skipped = some 0 := by
    decide +kernel
  have digit : Text.isDecimalDigit '٣' = true := by decide
  have literal : splitLiteral ['٣'] = (['٣'], []) := by decide +kernel
  have noValue : literalValue? ['٣'] = none := Option.isNone_iff_eq_none.1 (by decide +kernel)
  have fails : Evaluator.standard.scan "٣" = .error (.invalidNumber "٣") := by
    change scan _ ['٣'] = _
    rw [scan]
    simp only [digit, literal, noValue]
    rfl
  obtain ⟨before, first, one⟩ := exists_of_toOption_map_eq_some skipsOne
  obtain ⟨after, second, none⟩ := exists_of_toOption_map_eq_some skipsNone
  obtain ⟨both, -⟩ := scan_append_blank_append separate nonempty allBlank "2$ +" "3"
  obtain ⟨-, -, behind, -, parts⟩ := scan_append_blank_append separate nonempty allBlank "2$ +" "٣"
  exact ⟨⟨before, after, first, second, both before after first second, by rw [one, none]⟩,
    (behind before _ first fails).1, (parts _ _ (by decide +kernel)).2.1⟩

end ProseTree.Arithmetic
