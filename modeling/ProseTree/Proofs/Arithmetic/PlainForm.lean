import ProseTree.Proofs.Arithmetic.Scanning

/-!
# The plain form and the scan

The plain form of an expression is recognised phase by phase, while a scan takes the longest token
at each place and skips what it does not know. Both are compared with a third description: how the
rest of a text is made up of literals, operator runs and white space, for each phase that the text
before it can have led to. No ending conditions are needed, because what stands behind a literal or
a run in such a text cannot extend it.
-/

namespace ProseTree.Arithmetic

/-- Operators that no character of a number and no white space is among. -/
structure SetApart (operators : List Char) : Prop where
  digit : ∀ c, c.isDigit = true → operators.contains c = false
  point : operators.contains '.' = false
  blank : ∀ c, Text.isBlank c = true → operators.contains c = false

/-- The operators that have a meaning are no characters of numbers and no white space. -/
theorem setApart_standard : SetApart Evaluator.standard.operators where
  digit := by
    have outside : Evaluator.standard.operators.any Char.isDigit = false := by decide
    intro c digit
    rw [← Bool.not_eq_true, List.contains_iff_mem]
    intro member
    rw [Text.forall_eq_false_of_any outside c member] at digit
    cases digit
  point := by decide
  blank := standard_separate

/-- A text all of whose decimal digits are ASCII digits. -/
def HasAsciiDigits (text : Text) : Prop :=
  ∀ c ∈ text, Text.isDecimalDigit c = true → c.isDigit = true

namespace HasAsciiDigits

/-- The digits of a text are ASCII digits when those of its first character and its rest are. -/
theorem cons_iff {c : Char} {rest : Text} :
    HasAsciiDigits (c :: rest) ↔
      (Text.isDecimalDigit c = true → c.isDigit = true) ∧ HasAsciiDigits rest :=
  List.forall_mem_cons

/-- The digits of a text are ASCII digits when those of its parts are. -/
theorem append_iff {before after : Text} :
    HasAsciiDigits (before ++ after) ↔ HasAsciiDigits before ∧ HasAsciiDigits after :=
  List.forall_mem_append

end HasAsciiDigits

/-- The tokens of pairs of an operator run and a number. -/
def pairTokens (pairs : List (Text × Float)) : List Token :=
  pairs.flatMap fun (run, value) => [.operator run, .number value]

/-- The tokens of a number and of pairs of an operator run and a number behind it. -/
def plainTokens (first : Float) (pairs : List (Text × Float)) : List Token :=
  .number first :: pairTokens pairs

/-- The tokens of pairs start with an operator run, behind which stand a number and the other pairs. -/
theorem exists_of_pairTokens_eq_cons {pairs : List (Text × Float)} {token : Token}
    {tokens : List Token} (same : token :: tokens = pairTokens pairs) :
    ∃ run value others, pairs = (run, value) :: others ∧ token = .operator run ∧
      tokens = plainTokens value others := by
  cases pairs with
  | nil => cases same
  | cons pair others =>
    cases same
    exact ⟨pair.1, pair.2, others, rfl, rfl, rfl⟩

/-- Pairs start with no other token than an operator run. -/
theorem cons_ne_pairTokens {token : Token} {tokens : List Token} (noRun : ∀ run, token ≠ .operator run)
    (pairs : List (Text × Float)) : token :: tokens ≠ pairTokens pairs := by
  intro same
  obtain ⟨run, _, _, _, isRun, _⟩ := exists_of_pairTokens_eq_cons same
  exact noRun run isRun

section Writing

variable (operators : List Char)

/-- The texts that may stand behind a number, with the runs and numbers in them. -/
inductive WritesPairs : List (Text × Float) → Text → Prop
  | nil {blank : Text} (allBlank : ∀ c ∈ blank, Text.isBlank c = true) : WritesPairs [] blank
  | cons {blank run between text : Text} {c : Char} (literal : Literal)
      {pairs : List (Text × Float)} (allBlank : ∀ c ∈ blank, Text.isBlank c = true)
      (allOperators : ∀ d ∈ c :: run, operators.contains d = true)
      (allBetween : ∀ c ∈ between, Text.isBlank c = true) (others : WritesPairs pairs text) :
      WritesPairs ((c :: run, literal.value) :: pairs)
        (blank ++ (c :: run ++ (between ++ (literal.text ++ text))))

/-- The texts of white space, a number, and what may stand behind a number. -/
def WritesNumber (first : Float) (pairs : List (Text × Float)) (text : Text) : Prop :=
  ∃ (blank : Text) (literal : Literal) (after : Text), (∀ c ∈ blank, Text.isBlank c = true) ∧
    text = blank ++ (literal.text ++ after) ∧ literal.value = first ∧ WritesPairs operators pairs after

end Writing

variable {operators : List Char}

/-- White space may stand before a number. -/
theorem WritesNumber.blank_cons {first : Float} {pairs : List (Text × Float)} {c : Char} {text : Text}
    (isBlank : Text.isBlank c = true) (number : WritesNumber operators first pairs text) :
    WritesNumber operators first pairs (c :: text) := by
  obtain ⟨blank, literal, after, allBlank, rfl, value, others⟩ := number
  exact ⟨c :: blank, literal, after, List.forall_mem_cons.2 ⟨isBlank, allBlank⟩, rfl, value, others⟩

namespace WritesPairs

/-- White space may stand behind a number. -/
theorem blank_cons {pairs : List (Text × Float)} {c : Char} {text : Text}
    (isBlank : Text.isBlank c = true) (others : WritesPairs operators pairs text) :
    WritesPairs operators pairs (c :: text) := by
  cases others with
  | nil allBlank => exact .nil (List.forall_mem_cons.2 ⟨isBlank, allBlank⟩)
  | cons literal allBlank allOperators allBetween others =>
    rw [← List.cons_append]
    exact .cons literal (List.forall_mem_cons.2 ⟨isBlank, allBlank⟩) allOperators allBetween others

/-- What stands behind a number starts with white space or an operator. -/
theorem head_cases {pairs : List (Text × Float)} {text : Text}
    (others : WritesPairs operators pairs text) {c : Char} (first : c ∈ text.head?) :
    Text.isBlank c = true ∨ operators.contains c = true := by
  cases others with
  | nil allBlank => exact .inl (allBlank c (List.mem_of_mem_head? first))
  | @cons blank run between text d literal pairs allBlank allOperators allBetween others =>
    cases blank with
    | nil =>
      cases first
      exact .inr (allOperators c List.mem_cons_self)
    | cons e blank =>
      cases first
      exact .inl (allBlank c List.mem_cons_self)

end WritesPairs

/-- An operator is no digit of any script where all digits are ASCII digits. -/
theorem SetApart.isDecimalDigit_eq_false (apart : SetApart operators) {c : Char}
    (ascii : Text.isDecimalDigit c = true → c.isDigit = true) (known : operators.contains c = true) :
    Text.isDecimalDigit c = false := by
  rw [← Bool.not_eq_true]
  intro digit
  rw [apart.digit c (ascii digit)] at known
  cases known

/-- What stands behind a number does not extend it. -/
theorem WritesPairs.ends_literal (apart : SetApart operators) {pairs : List (Text × Float)}
    {text : Text} (others : WritesPairs operators pairs text) (ascii : HasAsciiDigits text) :
    ∀ c ∈ text.head?, Text.isDecimalDigit c = false ∧ c ≠ '.' := by
  intro c first
  obtain isBlank | known := others.head_cases first
  · refine ⟨Text.isDecimalDigit_eq_false_of_isBlank isBlank, ?_⟩
    rintro rfl
    exact absurd isBlank (by decide)
  · refine ⟨apart.isDecimalDigit_eq_false (ascii c (List.mem_of_mem_head? first)) known, ?_⟩
    rintro rfl
    rw [apart.point] at known
    cases known

/-- A literal starts with an ASCII digit. -/
theorem Literal.exists_digit_cons (literal : Literal) :
    ∃ c rest, literal.text = c :: rest ∧ c.isDigit = true := by
  obtain ⟨c, digits, whole⟩ := List.exists_cons_of_ne_nil literal.integral_ne_nil
  have digit := literal.integral_digits c (by simp [whole])
  rw [text, whole, List.cons_append]
  exact ⟨c, _, rfl, digit⟩

section Scanning

/-- What stands behind a number is scanned into its runs and numbers, and nothing is skipped. -/
theorem scan_writesPairs (apart : SetApart operators) {pairs : List (Text × Float)} {text : Text}
    (others : WritesPairs operators pairs text) (ascii : HasAsciiDigits text) :
    scan operators text = .ok ⟨pairTokens pairs, 0⟩ := by
  induction others with
  | @nil blank allBlank =>
    have unspaced := scan_blank_append apart.blank allBlank []
    rw [List.append_nil] at unspaced
    rw [unspaced, scan]
    rfl
  | @cons blank run between text c literal pairs allBlank allOperators allBetween others
      inductionHypothesis =>
    simp only [HasAsciiDigits.append_iff, HasAsciiDigits.cons_iff] at ascii
    obtain ⟨-, ⟨asciiFirst, -⟩, -, -, asciiText⟩ := ascii
    have noDigit := apart.isDecimalDigit_eq_false asciiFirst (allOperators c List.mem_cons_self)
    have runEnds : ∀ d ∈ (between ++ (literal.text ++ text)).head?, operators.contains d = false := by
      intro d first
      cases between with
      | nil =>
        obtain ⟨e, rest, starts, digit⟩ := literal.exists_digit_cons
        rw [List.nil_append, starts] at first
        cases first
        exact apart.digit d digit
      | cons e between =>
        cases first
        exact apart.blank d (allBetween d List.mem_cons_self)
    rw [scan_blank_append apart.blank allBlank, scan_operator_append noDigit allOperators runEnds,
      scan_blank_append apart.blank allBetween,
      scan_literal_append literal (others.ends_literal apart asciiText),
      inductionHypothesis asciiText]
    rfl

/-- White space, a number and what may stand behind it are scanned into their tokens, and nothing is
skipped. -/
theorem scan_writesNumber (apart : SetApart operators) {first : Float} {pairs : List (Text × Float)}
    {text : Text} (number : WritesNumber operators first pairs text) (ascii : HasAsciiDigits text) :
    scan operators text = .ok ⟨plainTokens first pairs, 0⟩ := by
  obtain ⟨blank, literal, after, allBlank, rfl, rfl, others⟩ := number
  simp only [HasAsciiDigits.append_iff] at ascii
  rw [scan_blank_append apart.blank allBlank,
    scan_literal_append literal (others.ends_literal apart ascii.2.2),
    scan_writesPairs apart others ascii.2.2]
  rfl

/-- The digits at the start of a text and what follows them make up the text. -/
theorem splitDigits_append_eq (text : Text) : (splitDigits text).1 ++ (splitDigits text).2 = text :=
  List.takeWhile_append_dropWhile

/-- Digits at the start of a text whose digits are ASCII digits are ASCII digits. -/
theorem HasAsciiDigits.isDigit_of_splitDigits {text : Text} (ascii : HasAsciiDigits text) :
    ∀ c ∈ (splitDigits text).1, c.isDigit = true := by
  intro c member
  exact ascii c ((List.takeWhile_prefix _).subset member)
    (List.all_eq_true.1 List.all_takeWhile c member)

/-- What is split off as a literal from a text that starts with a digit is a literal. -/
theorem exists_literal_of_splitLiteral {c : Char} {rest : Text}
    (digit : Text.isDecimalDigit c = true) (ascii : HasAsciiDigits (c :: rest)) :
    ∃ literal : Literal, (splitLiteral (c :: rest)).1 = literal.text ∧
      c :: rest = literal.text ++ (splitLiteral (c :: rest)).2 := by
  have nonempty : (splitDigits (c :: rest)).1 ≠ [] := by
    simp [splitDigits, digit]
  have integralDigits := ascii.isDigit_of_splitDigits
  have whole := splitDigits_append_eq (c :: rest)
  unfold splitLiteral
  generalize splitDigits (c :: rest) = parts at nonempty integralDigits whole ⊢
  obtain ⟨integral, after⟩ := parts
  dsimp only at nonempty integralDigits whole ⊢
  rw [← whole] at ascii ⊢
  split
  · rename_i afterPoint
    have asciiAfter := (HasAsciiDigits.cons_iff.1 (HasAsciiDigits.append_iff.1 ascii).2).2
    have fractionDigits := asciiAfter.isDigit_of_splitDigits
    have wholeAfter := splitDigits_append_eq afterPoint
    split
    · exact ⟨⟨integral, [], nonempty, integralDigits, by simp⟩, by simp [Literal.text],
        by simp [Literal.text]⟩
    · rename_i hasFraction
      have written : (⟨integral, (splitDigits afterPoint).1, nonempty, integralDigits,
          fractionDigits⟩ : Literal).text = integral ++ '.' :: (splitDigits afterPoint).1 := by
        simp only [Literal.text, if_neg hasFraction]
      refine ⟨_, written.symm, ?_⟩
      rw [written, List.append_assoc, List.cons_append, wholeAfter]
  · exact ⟨⟨integral, [], nonempty, integralDigits, by simp⟩, by simp [Literal.text],
      by simp [Literal.text]⟩

/-- A scan with one more token skipped nothing exactly when the rest of it did. -/
theorem exists_of_map_withToken {token : Token} {tokens : List Token}
    {scanned : Except EvalError Scan}
    (found : scanned.map (Scan.withToken token) = .ok ⟨tokens, 0⟩) :
    ∃ others, tokens = token :: others ∧ scanned = .ok ⟨others, 0⟩ := by
  cases scanned with
  | error cause => cases found
  | ok rest =>
    obtain ⟨others, skipped⟩ := rest
    cases found
    exact ⟨others, rfl, rfl⟩

/-- Only white space is left out without being counted. -/
theorem isBlank_of_map_withSkipped {c : Char} {tokens : List Token} {scanned : Except EvalError Scan}
    (found : scanned.map (Scan.withSkipped c) = .ok ⟨tokens, 0⟩) :
    Text.isBlank c = true ∧ scanned = .ok ⟨tokens, 0⟩ := by
  cases scanned with
  | error cause => cases found
  | ok rest =>
    have result : rest.withSkipped c = ⟨tokens, 0⟩ := Except.ok.inj found
    unfold Scan.withSkipped at result
    split at result
    · exact ⟨‹_›, congrArg Except.ok result⟩
    · cases result

/-- Tokens that a scan skipped nothing for stand in the text as they are written: those of a number
and pairs, and those of pairs alone. -/
theorem writes_of_scan {text : Text} (ascii : HasAsciiDigits text) {tokens : List Token}
    (scanned : scan operators text = .ok ⟨tokens, 0⟩) :
    (∀ first pairs, tokens = plainTokens first pairs → WritesNumber operators first pairs text) ∧
      ∀ pairs, tokens = pairTokens pairs → WritesPairs operators pairs text := by
  fun_induction scan operators text generalizing tokens with
  | case1 =>
    cases scanned
    refine ⟨fun first pairs same => (by cases same), ?_⟩
    rintro (_ | ⟨pair, pairs⟩) same
    · exact .nil (by simp)
    · cases same
  | case2 c rest digit _ invalid => cases scanned
  | case3 c rest digit _ value valued inductionHypothesis =>
    obtain ⟨literal, split, whole⟩ := exists_literal_of_splitLiteral digit ascii
    rw [split, literal.literalValue?_text] at valued
    cases valued
    obtain ⟨others, rfl, scannedRest⟩ := exists_of_map_withToken scanned
    rw [whole] at ascii
    rw [whole]
    obtain ⟨-, asPairs⟩ := inductionHypothesis (HasAsciiDigits.append_iff.1 ascii).2 scannedRest
    constructor
    · intro first pairs same
      cases same
      exact ⟨[], literal, _, by simp, rfl, rfl, asPairs pairs rfl⟩
    · intro pairs same
      exact absurd same (cons_ne_pairTokens (by simp) pairs)
  | case4 c rest noDigit known _ inductionHypothesis =>
    obtain ⟨others, rfl, scannedRest⟩ := exists_of_map_withToken scanned
    have whole : rest.takeWhile operators.contains ++ rest.dropWhile operators.contains = rest :=
      List.takeWhile_append_dropWhile
    have asciiRest : HasAsciiDigits (rest.dropWhile operators.contains) := fun d member =>
      ascii d (List.mem_cons_of_mem c ((List.dropWhile_suffix _).subset member))
    have allOperators : ∀ d ∈ c :: rest.takeWhile operators.contains, operators.contains d = true :=
      List.forall_mem_cons.2 ⟨known, List.all_eq_true.1 List.all_takeWhile⟩
    obtain ⟨asNumber, -⟩ := inductionHypothesis asciiRest scannedRest
    refine ⟨fun first pairs same => (by cases same), ?_⟩
    intro pairs same
    obtain ⟨run, value, pairs, rfl, isOperator, number⟩ := exists_of_pairTokens_eq_cons same
    cases isOperator
    obtain ⟨between, literal, after, allBetween, behind, rfl, written⟩ :=
      asNumber value pairs number
    have noBlank : ∀ d ∈ ([] : Text), Text.isBlank d = true := by simp
    have pair := WritesPairs.cons literal noBlank allOperators allBetween written
    rwa [← behind, List.nil_append, List.cons_append, whole] at pair
  | case5 c rest noDigit noOperator opening inductionHypothesis =>
    obtain ⟨others, rfl, scannedRest⟩ := exists_of_map_withToken scanned
    refine ⟨fun first pairs same => (by cases same), ?_⟩
    intro pairs same
    exact absurd same (cons_ne_pairTokens (by simp) pairs)
  | case6 c rest noDigit noOperator noOpening closing inductionHypothesis =>
    obtain ⟨others, rfl, scannedRest⟩ := exists_of_map_withToken scanned
    refine ⟨fun first pairs same => (by cases same), ?_⟩
    intro pairs same
    exact absurd same (cons_ne_pairTokens (by simp) pairs)
  | case7 c rest noDigit noOperator noOpening noClosing inductionHypothesis =>
    obtain ⟨isBlank, scanned⟩ := isBlank_of_map_withSkipped scanned
    obtain ⟨asNumber, asPairs⟩ := inductionHypothesis (HasAsciiDigits.cons_iff.1 ascii).2 scanned
    exact ⟨fun first pairs same => (asNumber first pairs same).blank_cons isBlank,
      fun pairs same => (asPairs pairs same).blank_cons isBlank⟩

end Scanning

end ProseTree.Arithmetic
