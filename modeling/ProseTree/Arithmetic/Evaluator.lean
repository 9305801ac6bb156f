import ProseTree.Arithmetic.Conversion

/-!
# Evaluators

An evaluator knows which characters are operators. It answers two questions about a text: whether it
has the plain form of numbers with operator runs between them, and what its value is. The plain
form has no parentheses; it is recognised by following all phases that reading could be in.
-/

namespace ProseTree.Arithmetic

/-- An evaluator over a non-empty set of operator characters. -/
structure Evaluator where
  operators : List Char
  operators_ne_nil : operators ≠ []

/-- Where the reading of a plain expression stands. -/
inductive Phase where
  | beforeFirst
  | integral
  | afterPoint
  | fraction
  | afterNumber
  | operator
  | beforeNumber
  deriving DecidableEq

namespace Phase

/-- Every phase. -/
def all : List Phase :=
  [beforeFirst, integral, afterPoint, fraction, afterNumber, operator, beforeNumber]

/-- Whether reading the character can lead from one phase to the other. -/
def leads (operators : List Char) (c : Char) (source target : Phase) : Bool :=
  match target with
  | beforeFirst => source == beforeFirst && Text.isBlank c
  | integral =>
    (source == beforeFirst || source == integral || source == operator || source == beforeNumber) &&
      Text.isDecimalDigit c
  | afterPoint => source == integral && c == '.'
  | fraction => (source == afterPoint || source == fraction) && Text.isDecimalDigit c
  | afterNumber =>
    (source == integral || source == fraction || source == afterNumber) && Text.isBlank c
  | operator =>
    (source == integral || source == fraction || source == afterNumber || source == operator) &&
      operators.contains c
  | beforeNumber => (source == operator || source == beforeNumber) && Text.isBlank c

/-- Whether a text may end in this phase. -/
def isFinal (phase : Phase) : Bool :=
  phase == integral || phase == fraction || phase == afterNumber

/-- The phases that the text can lead to from one of the given phases. -/
def after (operators : List Char) : List Phase → Text → List Phase
  | phases, [] => phases
  | phases, c :: rest =>
    after operators (all.filter fun target => phases.any fun source => leads operators c source target)
      rest

end Phase

namespace Evaluator

/-- The evaluator over the four operators that have a meaning. -/
def standard : Evaluator :=
  ⟨['+', '-', '*', '/'], by decide⟩

/-- Whether the text is a number, or numbers with operator runs between them, white space being
free around both. -/
def isPlain (evaluator : Evaluator) (text : Text) : Bool :=
  (Phase.after evaluator.operators [.beforeFirst] text).any Phase.isFinal

/-- The scan of a text with this evaluator's operators. -/
def scan (evaluator : Evaluator) (text : Text) : Except EvalError Scan :=
  Arithmetic.scan evaluator.operators text

/-- The value of a text, or the cause for which it has none. -/
def value (evaluator : Evaluator) (text : Text) : Except EvalError Float :=
  match evaluator.scan text with
  | .error cause => .error cause
  | .ok scanned =>
    if scanned.tokens.isEmpty then .error .empty
    else
      match evaluationOrder scanned.tokens with
      | .error cause => .error cause
      | .ok steps => evaluateSteps steps

/-- The value of a text; a failure names the text. -/
def evaluate (evaluator : Evaluator) (text : Text) : Except ExpressionError Float :=
  (evaluator.value text).mapError (⟨text, ·⟩)

end Evaluator

end ProseTree.Arithmetic
