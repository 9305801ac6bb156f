import ProseTree.Proofs.Arithmetic.PlainForm

/-!
# The phases of the plain form

Following all phases at once finds out whether some way through the phases ends well. `Accepts`
names such a way, and `Expects` says for each phase what the rest of the text must be made of. A
character leads back from what its target expects to what its source expects, and every text made
that way has a way through the phases. `IsPlainChar` names the characters that occur on any way.
-/

namespace ProseTree.Arithmetic

namespace Phase

variable (operators : List Char)

/-- The texts that can lead from a phase to one in which a text may end. -/
inductive Accepts : Phase → Text → Prop
  | nil {phase : Phase} (final : phase.isFinal = true) : Accepts phase []
  | cons {source target : Phase} {c : Char} {rest : Text}
      (step : leads operators c source target = true) (others : Accepts target rest) :
      Accepts source (c :: rest)

/-- The texts of ASCII digits, with a rest of the given kind behind them. -/
def BehindDigits (kind : Text → Prop) (text : Text) : Prop :=
  ∃ digits after : Text, (∀ c ∈ digits, c.isDigit = true) ∧ text = digits ++ after ∧ kind after

/-- The texts that may stand behind a whole number. -/
def ExpectsTail (text : Text) : Prop :=
  ∃ pairs, WritesPairs operators pairs text

/-- The texts that may stand where a number is still to come. -/
def ExpectsNumber (text : Text) : Prop :=
  ∃ first pairs, WritesNumber operators first pairs text

/-- The texts that may stand behind the point of a number. -/
def ExpectsFraction (text : Text) : Prop :=
  ∃ c rest, text = c :: rest ∧ c.isDigit = true ∧ BehindDigits (ExpectsTail operators) rest

/-- What the rest of a text must be made of in a phase. -/
def Expects : Phase → Text → Prop
  | beforeFirst => ExpectsNumber operators
  | integral => BehindDigits fun after =>
      ExpectsTail operators after ∨ ∃ rest, after = '.' :: rest ∧ ExpectsFraction operators rest
  | afterPoint => ExpectsFraction operators
  | fraction => BehindDigits (ExpectsTail operators)
  | afterNumber => ExpectsTail operators
  | operator => fun text => ∃ run after : Text, (∀ c ∈ run, operators.contains c = true) ∧
      text = run ++ after ∧ ExpectsNumber operators after
  | beforeNumber => ExpectsNumber operators

end Phase

open Phase

variable {operators : List Char}

/-- Following all phases finds out whether there is a way through them that ends well. -/
theorem any_isFinal_after_iff {phases : List Phase} {text : Text} :
    (Phase.after operators phases text).any isFinal = true ↔
      ∃ phase ∈ phases, Accepts operators phase text := by
  induction text generalizing phases with
  | nil =>
    rw [Phase.after, List.any_eq_true]
    constructor
    · rintro ⟨phase, member, final⟩
      exact ⟨phase, member, .nil final⟩
    · rintro ⟨phase, member, accepted⟩
      cases accepted with
      | nil final => exact ⟨phase, member, final⟩
  | cons c rest inductionHypothesis =>
    rw [Phase.after, inductionHypothesis]
    constructor
    · rintro ⟨target, member, accepted⟩
      obtain ⟨source, isSource, step⟩ := List.any_eq_true.1 (List.mem_filter.1 member).2
      exact ⟨source, isSource, .cons step accepted⟩
    · rintro ⟨source, member, accepted⟩
      cases accepted with
      | @cons _ target _ _ step others =>
        have listed : target ∈ Phase.all := by cases target <;> decide
        exact ⟨target, List.mem_filter.2 ⟨listed, List.any_eq_true.2 ⟨source, member, step⟩⟩, others⟩

namespace Phase

/-- One more digit may stand in front of digits. -/
theorem BehindDigits.digit_cons {kind : Text → Prop} {c : Char} {text : Text} (digit : c.isDigit = true)
    (behind : BehindDigits kind text) : BehindDigits kind (c :: text) := by
  obtain ⟨digits, after, allDigits, rfl, ofKind⟩ := behind
  exact ⟨c :: digits, after, List.forall_mem_cons.2 ⟨digit, allDigits⟩, rfl, ofKind⟩

/-- A digit and what is expected behind it write a number. -/
theorem expectsNumber_of_integral {c : Char} {text : Text} (digit : c.isDigit = true)
    (behind : Expects operators integral text) : ExpectsNumber operators (c :: text) := by
  obtain ⟨digits, after, allDigits, rfl, ending⟩ := behind
  have integralDigits : ∀ d ∈ c :: digits, d.isDigit = true :=
    List.forall_mem_cons.2 ⟨digit, allDigits⟩
  obtain ⟨pairs, written⟩ | ⟨rest, rfl, d, _, rfl, second, fraction, tail, allSecond, rfl, pairs, written⟩ :=
    ending
  · exact ⟨_, pairs, [], ⟨c :: digits, [], by simp, integralDigits, by simp⟩, after, by simp,
      by simp [Literal.text], rfl, written⟩
  · have fractionDigits : ∀ e ∈ d :: fraction, e.isDigit = true :=
      List.forall_mem_cons.2 ⟨second, allSecond⟩
    exact ⟨_, pairs, [], ⟨c :: digits, d :: fraction, by simp, integralDigits, fractionDigits⟩, tail,
      by simp, by simp [Literal.text], rfl, written⟩

/-- A run of operators may stand behind a number when a number is to come behind it. -/
theorem expectsTail_of_operator {c : Char} {text : Text} (known : operators.contains c = true)
    (behind : Expects operators operator text) : ExpectsTail operators (c :: text) := by
  obtain ⟨run, after, allOperators, rfl, first, pairs, between, literal, tail, allBetween, rfl, rfl,
    written⟩ := behind
  have noBlank : ∀ d ∈ ([] : Text), Text.isBlank d = true := by simp
  exact ⟨_, .cons literal noBlank (List.forall_mem_cons.2 ⟨known, allOperators⟩) allBetween written⟩

/-- White space may stand behind a number. -/
theorem ExpectsTail.blank_cons {c : Char} {text : Text} (isBlank : Text.isBlank c = true)
    (tail : ExpectsTail operators text) : ExpectsTail operators (c :: text) := by
  obtain ⟨pairs, written⟩ := tail
  exact ⟨pairs, written.blank_cons isBlank⟩

/-- White space may stand before a number. -/
theorem ExpectsNumber.blank_cons {c : Char} {text : Text} (isBlank : Text.isBlank c = true)
    (number : ExpectsNumber operators text) : ExpectsNumber operators (c :: text) := by
  obtain ⟨first, pairs, written⟩ := number
  exact ⟨first, pairs, written.blank_cons isBlank⟩

/-- What may stand behind a whole number may stand behind its digits. -/
theorem expects_of_tail {phase : Phase} {text : Text} (final : phase.isFinal = true)
    (tail : ExpectsTail operators text) : phase.Expects operators text := by
  cases phase with
  | integral => exact ⟨[], text, by simp, rfl, .inl tail⟩
  | fraction => exact ⟨[], text, by simp, rfl, tail⟩
  | afterNumber => exact tail
  | _ => cases final

/-- A character leads back from what its target expects to what its source expects. -/
theorem expects_of_leads {source target : Phase} {c : Char} {rest : Text}
    (ascii : Text.isDecimalDigit c = true → c.isDigit = true)
    (step : leads operators c source target = true) (others : target.Expects operators rest) :
    source.Expects operators (c :: rest) := by
  cases target with
  | beforeFirst =>
    simp only [leads, Bool.and_eq_true, beq_iff_eq] at step
    obtain ⟨rfl, isBlank⟩ := step
    exact ExpectsNumber.blank_cons isBlank others
  | integral =>
    simp only [leads, Bool.and_eq_true, Bool.or_eq_true, beq_iff_eq] at step
    obtain ⟨((rfl | rfl) | rfl) | rfl, digit⟩ := step
    · exact expectsNumber_of_integral (ascii digit) others
    · exact BehindDigits.digit_cons (ascii digit) others
    · exact ⟨[], c :: rest, by simp, rfl, expectsNumber_of_integral (ascii digit) others⟩
    · exact expectsNumber_of_integral (ascii digit) others
  | afterPoint =>
    simp only [leads, Bool.and_eq_true, beq_iff_eq] at step
    obtain ⟨rfl, rfl⟩ := step
    exact ⟨[], '.' :: rest, by simp, rfl, .inr ⟨rest, rfl, others⟩⟩
  | fraction =>
    simp only [leads, Bool.and_eq_true, Bool.or_eq_true, beq_iff_eq] at step
    obtain ⟨rfl | rfl, digit⟩ := step
    · exact ⟨c, rest, rfl, ascii digit, others⟩
    · exact BehindDigits.digit_cons (ascii digit) others
  | afterNumber =>
    simp only [leads, Bool.and_eq_true, Bool.or_eq_true, beq_iff_eq] at step
    obtain ⟨isSource, isBlank⟩ := step
    have final : source.isFinal = true := by
      obtain (rfl | rfl) | rfl := isSource <;> rfl
    exact expects_of_tail final (ExpectsTail.blank_cons isBlank others)
  | operator =>
    simp only [leads, Bool.and_eq_true, Bool.or_eq_true, beq_iff_eq] at step
    obtain ⟨isFinal | rfl, known⟩ := step
    · have final : source.isFinal = true := by
        obtain (rfl | rfl) | rfl := isFinal <;> rfl
      exact expects_of_tail final (expectsTail_of_operator known others)
    · obtain ⟨run, after, allOperators, rfl, number⟩ := others
      exact ⟨c :: run, after, List.forall_mem_cons.2 ⟨known, allOperators⟩, rfl, number⟩
  | beforeNumber =>
    simp only [leads, Bool.and_eq_true, Bool.or_eq_true, beq_iff_eq] at step
    obtain ⟨rfl | rfl, isBlank⟩ := step
    · exact ⟨[], c :: rest, by simp, rfl, ExpectsNumber.blank_cons isBlank others⟩
    · exact ExpectsNumber.blank_cons isBlank others

/-- A text with a way through the phases is made of what its phase expects. -/
theorem Accepts.expects {phase : Phase} {text : Text} (accepted : Accepts operators phase text)
    (ascii : HasAsciiDigits text) : phase.Expects operators text := by
  induction accepted with
  | nil final => exact expects_of_tail final ⟨[], .nil (by simp)⟩
  | cons step others inductionHypothesis =>
    obtain ⟨first, rest⟩ := HasAsciiDigits.cons_iff.1 ascii
    exact expects_of_leads first step (inductionHypothesis rest)

section Class

variable {inClass : Char → Bool} {source target : Phase} {part after : Text}

/-- A phase that a character class does not leave reads characters of that class. -/
theorem Accepts.append_of_stays (stays : ∀ c, inClass c = true → leads operators c target target = true)
    (allIn : ∀ c ∈ part, inClass c = true) (accepted : Accepts operators target after) :
    Accepts operators target (part ++ after) := by
  induction part with
  | nil => exact accepted
  | cons c part inductionHypothesis =>
    obtain ⟨first, others⟩ := List.forall_mem_cons.1 allIn
    exact .cons (stays c first) (inductionHypothesis others)

/-- Characters of a class that leads to a phase, and does not leave it, are read in that phase. -/
theorem Accepts.append_of_enters (stays : ∀ c, inClass c = true → leads operators c target target = true)
    (enters : ∀ c, inClass c = true → leads operators c source target = true)
    (allIn : ∀ c ∈ part, inClass c = true) (nonempty : part ≠ [])
    (accepted : Accepts operators target after) : Accepts operators source (part ++ after) := by
  cases part with
  | nil => exact absurd rfl nonempty
  | cons c part =>
    obtain ⟨first, others⟩ := List.forall_mem_cons.1 allIn
    exact .cons (enters c first) (accepted.append_of_stays stays others)

/-- Characters of a class that may be missing are read on the way from one phase to another. -/
theorem Accepts.append_of_both (stays : ∀ c, inClass c = true → leads operators c target target = true)
    (enters : ∀ c, inClass c = true → leads operators c source target = true)
    (allIn : ∀ c ∈ part, inClass c = true) (without : Accepts operators source after)
    (accepted : Accepts operators target after) : Accepts operators source (part ++ after) := by
  by_cases missing : part = []
  · rw [missing]
    exact without
  · exact accepted.append_of_enters stays enters allIn missing

end Class

/-- A literal is read from a phase that a digit leads on from, if what follows it is read from every
phase in which a text may end. -/
theorem accepts_literal_append {source : Phase} (literal : Literal) {after : Text}
    (enters : ∀ c, Text.isDecimalDigit c = true → leads operators c source integral = true)
    (behind : ∀ phase : Phase, phase.isFinal = true → Accepts operators phase after) :
    Accepts operators source (literal.text ++ after) := by
  have integralStays : ∀ c, Text.isDecimalDigit c = true → leads operators c integral integral = true :=
    fun c digit => digit
  have fractionStays : ∀ c, Text.isDecimalDigit c = true → leads operators c fraction fraction = true :=
    fun c digit => digit
  have fractionEnters : ∀ c, Text.isDecimalDigit c = true →
      leads operators c afterPoint fraction = true := fun c digit => digit
  rw [Literal.text, List.append_assoc]
  refine Accepts.append_of_enters integralStays enters literal.integral_decimal
    literal.integral_ne_nil ?_
  split
  · exact behind integral rfl
  · rename_i hasFraction
    have isPoint : leads operators '.' integral afterPoint = true := rfl
    have nonempty : literal.fraction ≠ [] := by simpa using hasFraction
    exact .cons isPoint ((behind fraction rfl).append_of_enters fractionStays fractionEnters
      literal.fraction_decimal nonempty)

/-- White space leads on from every phase in which a text may end. -/
theorem leads_afterNumber {phase : Phase} (final : phase.isFinal = true) (c : Char)
    (isBlank : Text.isBlank c = true) : leads operators c phase afterNumber = true := by
  cases phase <;> first | exact isBlank | cases final

/-- An operator leads on from every phase in which a text may end. -/
theorem leads_operator {phase : Phase} (final : phase.isFinal = true) (c : Char)
    (known : operators.contains c = true) : leads operators c phase operator = true := by
  cases phase <;> first | exact known | cases final

/-- What may stand behind a number is read from every phase in which a text may end. -/
theorem accepts_of_writesPairs {pairs : List (Text × Float)} {text : Text}
    (written : WritesPairs operators pairs text) :
    ∀ phase : Phase, phase.isFinal = true → Accepts operators phase text := by
  have blankStays : ∀ c, Text.isBlank c = true → leads operators c afterNumber afterNumber = true :=
    fun c isBlank => isBlank
  induction written with
  | @nil blank allBlank =>
    intro phase final
    have read := Accepts.append_of_both blankStays (leads_afterNumber final) allBlank (.nil final)
      (.nil rfl)
    rwa [List.append_nil] at read
  | @cons blank run between text c literal pairs allBlank allOperators allBetween others
      inductionHypothesis =>
    have digitEnters : ∀ c, Text.isDecimalDigit c = true → leads operators c operator integral = true :=
      fun c digit => digit
    have digitEntersBehind : ∀ c, Text.isDecimalDigit c = true →
        leads operators c beforeNumber integral = true := fun c digit => digit
    have betweenStays : ∀ c, Text.isBlank c = true →
        leads operators c beforeNumber beforeNumber = true := fun c isBlank => isBlank
    have betweenEnters : ∀ c, Text.isBlank c = true → leads operators c operator beforeNumber = true :=
      fun c isBlank => isBlank
    have operatorStays : ∀ c, operators.contains c = true → leads operators c operator operator = true :=
      fun c known => known
    have number : Accepts operators operator (between ++ (literal.text ++ text)) :=
      Accepts.append_of_both betweenStays betweenEnters allBetween
        (accepts_literal_append literal digitEnters inductionHypothesis)
        (accepts_literal_append literal digitEntersBehind inductionHypothesis)
    have operation : ∀ phase : Phase, phase.isFinal = true →
        Accepts operators phase (c :: run ++ (between ++ (literal.text ++ text))) := fun phase final =>
      number.append_of_enters operatorStays (leads_operator final) allOperators (by simp)
    intro phase final
    exact Accepts.append_of_both blankStays (leads_afterNumber final) allBlank (operation phase final)
      (operation afterNumber rfl)

/-- White space, a number and what may stand behind it are read from the first phase. -/
theorem accepts_of_writesNumber {first : Float} {pairs : List (Text × Float)} {text : Text}
    (written : WritesNumber operators first pairs text) : Accepts operators beforeFirst text := by
  obtain ⟨blank, literal, after, allBlank, rfl, -, others⟩ := written
  have blankStays : ∀ c, Text.isBlank c = true → leads operators c beforeFirst beforeFirst = true :=
    fun c isBlank => isBlank
  have digitEnters : ∀ c, Text.isDecimalDigit c = true →
      leads operators c beforeFirst integral = true := fun c digit => digit
  exact (accepts_literal_append literal digitEnters (accepts_of_writesPairs others)).append_of_stays
    blankStays allBlank

end Phase

/-- A text has the plain form exactly when it is made of white space, a number and what may stand
behind a number. -/
theorem isPlain_iff_writesNumber {evaluator : Evaluator} {text : Text} (ascii : HasAsciiDigits text) :
    evaluator.isPlain text = true ↔
      ∃ first pairs, WritesNumber evaluator.operators first pairs text := by
  rw [Evaluator.isPlain, any_isFinal_after_iff]
  constructor
  · rintro ⟨phase, member, accepted⟩
    cases List.mem_singleton.1 member
    exact accepted.expects ascii
  · rintro ⟨first, pairs, written⟩
    exact ⟨beforeFirst, List.mem_singleton_self _, accepts_of_writesNumber written⟩

/-- The plain form and the scan agree: a text has the plain form exactly when the scan skips nothing
of it and finds a number and pairs of an operator run and a number. -/
theorem isPlain_iff_scan {evaluator : Evaluator} (apart : SetApart evaluator.operators) {text : Text}
    (ascii : HasAsciiDigits text) :
    evaluator.isPlain text = true ↔
      ∃ first pairs, evaluator.scan text = .ok ⟨plainTokens first pairs, 0⟩ := by
  rw [isPlain_iff_writesNumber ascii]
  constructor
  · rintro ⟨first, pairs, written⟩
    exact ⟨first, pairs, scan_writesNumber apart written ascii⟩
  · rintro ⟨first, pairs, scanned⟩
    exact ⟨first, pairs, (writes_of_scan ascii scanned).1 first pairs rfl⟩

/-- The characters of numbers and operator runs, and white space. -/
def IsPlainChar (operators : List Char) (c : Char) : Prop :=
  Text.isDecimalDigit c = true ∨ c = '.' ∨ operators.contains c = true ∨ Text.isBlank c = true

/-- Only such characters lead from phase to phase. -/
theorem isPlainChar_of_leads {source target : Phase} {c : Char}
    (step : leads operators c source target = true) : IsPlainChar operators c := by
  cases target with
  | integral | fraction => exact .inl (Bool.and_eq_true_iff.1 step).2
  | afterPoint => exact .inr (.inl (by simpa using (Bool.and_eq_true_iff.1 step).2))
  | operator => exact .inr (.inr (.inl (Bool.and_eq_true_iff.1 step).2))
  | beforeFirst | afterNumber | beforeNumber => exact .inr (.inr (.inr (Bool.and_eq_true_iff.1 step).2))

/-- A way through the phases takes such characters only. -/
theorem Phase.Accepts.isPlainChar {phase : Phase} {text : Text} (accepted : Accepts operators phase text) :
    ∀ c ∈ text, IsPlainChar operators c := by
  induction accepted with
  | nil final => simp
  | cons step others inductionHypothesis =>
    exact List.forall_mem_cons.2 ⟨isPlainChar_of_leads step, inductionHypothesis⟩

/-- The plain form is made of such characters, whatever the script of its digits. -/
theorem isPlainChar_of_isPlain {evaluator : Evaluator} {text : Text}
    (isPlain : evaluator.isPlain text = true) : ∀ c ∈ text, IsPlainChar evaluator.operators c := by
  obtain ⟨phase, -, accepted⟩ := any_isFinal_after_iff.1 isPlain
  exact accepted.isPlainChar

end ProseTree.Arithmetic
