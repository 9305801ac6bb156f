import ProseTree.Proofs.Arithmetic.PlainValue
import ProseTree.Proofs.Decimal.RoundTrip
import ProseTree.Proofs.Reading.Exchange
import ProseTree.Proofs.Reading.TokenFate

/-!
# Numbers that are read again

Under a built-in grammar an expression leaf is built exactly of a plain expression that has a value. The
text of the leaf is the literal of its value, and this is such an expression, unless the value carries a
sign: numbers are written unsigned, so that nothing that starts with a minus sign is an expression.
-/

namespace ProseTree.Reading

open ProseTree.Language (BuiltIn CharClass Grammar)
open ProseTree.Tree (Node)

variable {grammar : Grammar} {letters wordLetters : CharClass}

/-- From the lexeme stage on, the standard chain builds an expression leaf with this source and value. -/
def BuildsExpression (grammar : Grammar) (schedule : Schedule) (text source : Text) (value : Float) : Prop :=
  ∃ outcome node, (standardChain grammar schedule).readFrom lexemeName text = .ok outcome ∧
    outcome.node = some node ∧ Node.expression source value ∈ partsOf node

/-- An expression among the parts of a token is the whole token and its value. -/
theorem TokenParts.of_expression_mem {token source : Text} {value : Float} {children : List Node}
    {gaps : List Gap} (parts : TokenParts grammar token children gaps)
    (member : Node.expression source value ∈ children) :
    source = token ∧ grammar.evaluator.isPlain token = true ∧ grammar.evaluator.value token = .ok value := by
  cases parts with
  | word isWord => simp at member
  | decorated isWord opens closes trails whole => simp at member
  | @expression evaluated isPlain known =>
    obtain ⟨rfl, rfl⟩ := Node.expression.inj (List.mem_singleton.1 member)
    exact ⟨rfl, isPlain, known⟩
  | run nonempty => simp at member

/-- The lexeme stage keeps the parts of what the stages behind it make of a text. -/
theorem exists_read_tokenChain {text : Text} {outcome : Outcome}
    (read : (coreChain grammar).read text = .ok outcome) :
    ∃ wrapped, (tokenChain grammar).read text = .ok wrapped ∧
      wrapped.node.map partsOf = outcome.node.map partsOf := by
  obtain ⟨node, gaps⟩ := outcome
  rw [tokenChain, Chain.read_cons]
  simp only [lexemeStage, Chain.toNext, read]
  split
  · refine ⟨_, rfl, ?_⟩
    cases node with
    | none => rfl
    | some node =>
      simp only [Option.map_some, wrapToken_eq]
      rfl
  · exact ⟨⟨node, gaps⟩, rfl, rfl⟩

section BuiltInGrammars

variable {language : BuiltIn} (accepted : Grammar.ofConfiguration language.configuration = .ok grammar)
  {schedule : Schedule}

include accepted

/-- Under a built-in grammar an expression leaf is built exactly of a plain expression with a value; its
source is the text, and no other leaf is built of it. -/
theorem buildsExpression_iff {text source : Text} {value : Float} :
    BuildsExpression grammar schedule text source value ↔
      source = text ∧ grammar.evaluator.isPlain text = true ∧ grammar.evaluator.value text = .ok value := by
  obtain ⟨letters, wordLetters, classes⟩ := Grammar.exists_classes accepted language.hasPlainLetters
  obtain ⟨outcome, read, core⟩ := read_coreChain classes text
  obtain ⟨wrapped, readToken, sameParts⟩ := exists_read_tokenChain read
  constructor
  · rintro ⟨other, node, readOther, isNode, member⟩
    rw [readFrom_lexemeName, readToken] at readOther
    cases readOther
    rw [isNode] at sameParts
    cases core with
    | unrecognized nothing => cases sameParts
    | recognized inner parts =>
      obtain same := Option.some.inj sameParts
      rw [same] at member
      exact parts.of_expression_mem member
  · rintro ⟨rfl, isPlain, known⟩
    have hasValue : HasValue grammar source := by
      refine ⟨isPlain, value, ?_⟩
      rw [Arithmetic.Evaluator.evaluate, known]
      rfl
    have forwards := forwards_wordStage (wordNode?_eq_none_of_hasValue accepted hasValue)
    have taken : (coreChain grammar).read source = .ok (.clean (.expression source value)) := by
      rw [coreChain, forwards.read_cons, Chain.read_cons]
      simp only [expressionStage, isPlain, if_true, known]
    rw [taken] at read
    cases read
    obtain ⟨node, isNode, parts⟩ := Option.map_eq_some_iff.1 sameParts
    refine ⟨wrapped, node, readToken, isNode, ?_⟩
    rw [parts]
    exact List.mem_singleton_self _

/-- The text of an expression leaf with a finite value is read as an expression again exactly when the value
carries no sign. Then it is the whole text, with the same value. -/
theorem buildsExpression_text {token source : Text} {value : Float}
    (built : BuildsExpression grammar schedule token source value) (finite : value.isFinite = true) :
    source = token ∧
      ((∃ again other, BuildsExpression grammar schedule (Node.expression source value).text again other) ↔
        value.toBits.toNat < 2 ^ 63) ∧
      ∀ again other, BuildsExpression grammar schedule (Node.expression source value).text again other →
        again = (Node.expression source value).text ∧ other = value := by
  have text : (Node.expression source value).text = Decimal.ofDouble value := rfl
  simp only [text, buildsExpression_iff accepted]
  by_cases unsigned : value.toBits.toNat < 2 ^ 63
  · obtain ⟨literal, spelled, isValue⟩ := Decimal.exists_literal_ofDouble finite unsigned
    have evaluated := Arithmetic.value_of_literal grammar.evaluator literal
    rw [spelled, isValue] at evaluated
    refine ⟨((buildsExpression_iff accepted).1 built).1, ?_, ?_⟩
    · exact iff_of_true ⟨_, value, rfl, evaluated⟩ unsigned
    · rintro again other ⟨rfl, -, known⟩
      rw [evaluated.2] at known
      cases known
      exact ⟨rfl, rfl⟩
  · obtain ⟨magnitude, signed⟩ := Decimal.ofDouble_eq_cons finite (Nat.not_lt.1 unsigned)
    have notPlain : grammar.evaluator.isPlain (Decimal.ofDouble value) = false := by
      rw [signed, ← Bool.not_eq_true]
      intro isPlain
      obtain blank | digit := Arithmetic.Evaluator.blank_or_digit_of_isPlain isPlain
      · cases blank
      · exact absurd digit (by decide)
    refine ⟨((buildsExpression_iff accepted).1 built).1, ?_, ?_⟩
    · exact iff_of_false (by simp [notPlain]) unsigned
    · simp [notPlain]

end BuiltInGrammars

/-- An English quotient is rendered as a fraction, which has the same value. -/
theorem buildsExpression_text_english :
    ∃ grammar value, Grammar.ofConfiguration .english = .ok grammar ∧
      BuildsExpression grammar .sequential "7/2" "7/2" value ∧ value.isFinite = true ∧
      (Node.expression "7/2" value).text = "3.5" ∧
      BuildsExpression grammar .sequential "3.5" "3.5" value := by
  obtain ⟨grammar, accepted⟩ := BuiltIn.english.exists_ofConfiguration
  have isPlain : grammar.evaluator.isPlain "7/2" = true :=
    Grammar.eq_of_computed accepted (fun grammar => grammar.evaluator.isPlain "7/2") (by decide +kernel)
  have known : grammar.evaluator.value "7/2" = .ok 3.5 :=
    Grammar.eq_of_computed accepted (fun grammar => grammar.evaluator.value "7/2") (by decide +kernel)
  have built : BuildsExpression grammar .sequential "7/2" "7/2" 3.5 :=
    (buildsExpression_iff accepted).2 ⟨rfl, isPlain, known⟩
  have finite : Float.isFinite 3.5 = true := by decide +kernel
  have rendered : (Node.expression "7/2" 3.5).text = "3.5" := by decide +kernel
  obtain ⟨-, readAgain, same⟩ := buildsExpression_text accepted built finite
  obtain ⟨again, other, builtAgain⟩ := readAgain.2 (by decide +kernel)
  obtain ⟨rfl, rfl⟩ := same again other builtAgain
  rw [rendered] at builtAgain
  exact ⟨grammar, 3.5, accepted, built, finite, rendered, builtAgain⟩

/-- A difference below zero is rendered with a minus sign, and is no expression then. -/
theorem buildsExpression_difference_lost :
    ¬ ∀ (language : BuiltIn) (grammar : Grammar),
      Grammar.ofConfiguration language.configuration = .ok grammar →
      ∀ (schedule : Schedule) (token source : Text) (value : Float),
        BuildsExpression grammar schedule token source value → value.isFinite = true →
          ∃ again, BuildsExpression grammar schedule (Node.expression source value).text again value := by
  intro survives
  obtain ⟨grammar, accepted⟩ := BuiltIn.english.exists_ofConfiguration
  have isPlain : grammar.evaluator.isPlain "1-2" = true :=
    Grammar.eq_of_computed accepted (fun grammar => grammar.evaluator.isPlain "1-2") (by decide +kernel)
  have known : grammar.evaluator.value "1-2" = .ok (-1) :=
    Grammar.eq_of_computed accepted (fun grammar => grammar.evaluator.value "1-2") (by decide +kernel)
  have rendered : (Node.expression "1-2" (-1)).text = "-1" := by decide +kernel
  have notPlain : grammar.evaluator.isPlain "-1" = false :=
    Grammar.eq_of_computed accepted (fun grammar => grammar.evaluator.isPlain "-1") (by decide +kernel)
  have built : BuildsExpression grammar .sequential "1-2" "1-2" (-1) :=
    (buildsExpression_iff accepted).2 ⟨rfl, isPlain, known⟩
  obtain ⟨again, lost⟩ := survives .english grammar accepted .sequential _ _ _ built (by decide +kernel)
  rw [rendered, buildsExpression_iff accepted, notPlain] at lost
  cases lost.2.1

end ProseTree.Reading
