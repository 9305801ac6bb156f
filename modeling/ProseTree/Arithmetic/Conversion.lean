import ProseTree.Arithmetic.Operator
import ProseTree.Arithmetic.Token

/-!
# From written order to evaluation order

Written order puts an operator between its operands, evaluation order puts it after them. The
conversion keeps operators waiting until an operator that binds no tighter, a closing parenthesis
or the end releases them; operators of equal precedence are left-associative. Evaluation keeps a
stack of values.
-/

namespace ProseTree.Arithmetic

/-- One step of an evaluation: a value is put on the stack, or an operator takes two from it. -/
inductive Step where
  | number (value : Float)
  | operator (operator : Operator)

/-- What waits during the conversion. -/
inductive Waiting where
  | opening
  | operator (operator : Operator)
  deriving DecidableEq

/-- The waiting operators that an incoming operator releases, and what goes on waiting. -/
def release (incoming : Operator) : List Waiting → List Step × List Waiting
  | .operator top :: waiting =>
    if top.precedence < incoming.precedence then ([], .operator top :: waiting)
    else
      let (released, rest) := release incoming waiting
      (.operator top :: released, rest)
  | waiting => ([], waiting)

/-- The operators that wait above the last open parenthesis, and what waits below it. -/
def close : List Waiting → Except EvalError (List Step × List Waiting)
  | [] => .error .mismatchedParentheses
  | .opening :: waiting => .ok ([], waiting)
  | .operator top :: waiting =>
    (close waiting).map fun (released, rest) => (.operator top :: released, rest)

/-- All operators that still wait at the end, none of them inside a parenthesis. -/
def drain : List Waiting → Except EvalError (List Step)
  | [] => .ok []
  | .opening :: _ => .error .mismatchedParentheses
  | .operator top :: waiting => (drain waiting).map (.operator top :: ·)

/-- The evaluation order of the remaining tokens, given what waits. -/
def convert (waiting : List Waiting) : List Token → Except EvalError (List Step)
  | [] => drain waiting
  | .number value :: tokens => (convert waiting tokens).map (.number value :: ·)
  | .operator run :: tokens =>
    match Operator.ofRun run with
    | .error cause => .error cause
    | .ok incoming =>
      let (released, rest) := release incoming waiting
      (convert (.operator incoming :: rest) tokens).map (released ++ ·)
  | .opening :: tokens => convert (.opening :: waiting) tokens
  | .closing :: tokens =>
    match close waiting with
    | .error cause => .error cause
    | .ok (released, rest) => (convert rest tokens).map (released ++ ·)

/-- The evaluation order of tokens in written order. -/
def evaluationOrder (tokens : List Token) : Except EvalError (List Step) :=
  convert [] tokens

/-- The result of the remaining steps on a stack of values, the last one first. -/
def runSteps : List Float → List Step → Except EvalError Float
  | [value], [] => .ok value
  | stack, [] => .error (.unbalanced stack.length)
  | stack, .number value :: steps => runSteps (value :: stack) steps
  | right :: left :: stack, .operator operator :: steps =>
    match operator.apply left right with
    | .error cause => .error cause
    | .ok value => runSteps (value :: stack) steps
  | _, .operator operator :: _ => .error (.missingOperand operator.symbol)

/-- The value of steps in evaluation order. -/
def evaluateSteps (steps : List Step) : Except EvalError Float :=
  runSteps [] steps

end ProseTree.Arithmetic
