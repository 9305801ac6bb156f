import ProseTree.Arithmetic.Error
import ProseTree.Decimal.Nearest
import ProseTree.Text.DecimalDigit

/-!
# Tokens of arithmetic text

A scan reads a text from the left into numbers, runs of operator characters and parentheses. At
each place a number is tried first, then an operator run, then a parenthesis; any other character
is skipped, and counted unless it is white space. A number is made of decimal digits of any script,
but has a value only when all of them are ASCII digits.
-/

namespace ProseTree.Arithmetic

/-- One token of arithmetic text. -/
inductive Token where
  | number (value : Float)
  | operator (run : Text)
  | opening
  | closing

/-- The tokens of a text in order, and how many characters that are not white space were skipped. -/
structure Scan where
  tokens : List Token
  skipped : Nat

namespace Scan

/-- A scan that found no token and skipped nothing. -/
def empty : Scan :=
  ⟨[], 0⟩

/-- The scan of a text that starts with one more token. -/
def withToken (token : Token) (scan : Scan) : Scan :=
  { scan with tokens := token :: scan.tokens }

/-- The scan of a text that starts with one more character outside all tokens. -/
def withSkipped (c : Char) (scan : Scan) : Scan :=
  if Text.isBlank c then scan else { scan with skipped := scan.skipped + 1 }

end Scan

/-- The decimal digits at the start of a text, and what follows them. -/
def splitDigits (text : Text) : Text × Text :=
  (text.takeWhile Text.isDecimalDigit, text.dropWhile Text.isDecimalDigit)

/-- The longest number literal at the start of a text: digits, and a point with more digits. -/
def splitLiteral (text : Text) : Text × Text :=
  let (integral, rest) := splitDigits text
  match rest with
  | '.' :: afterPoint =>
    let (fraction, afterFraction) := splitDigits afterPoint
    if fraction.isEmpty then (integral, rest)
    else (integral ++ '.' :: fraction, afterFraction)
  | _ => (integral, rest)

/-- The number that a sequence of ASCII digits spells. -/
def digitsValue? (digits : Text) : Option Nat :=
  digits.foldlM
    (fun value c => if c.isDigit then some (value * 10 + (c.toNat - '0'.toNat)) else none) 0

/-- The double nearest to what a literal spells, if all its digits are ASCII digits. -/
def literalValue? (literal : Text) : Option Float :=
  let integral := literal.takeWhile (· != '.')
  let fraction := (literal.dropWhile (· != '.')).drop 1
  (digitsValue? (integral ++ fraction)).map fun significand =>
    Decimal.nearestDouble false significand (-(fraction.length : Int))

/-- What follows the digits at the start is no longer than the text. -/
theorem length_splitDigits_le (text : Text) : (splitDigits text).2.length ≤ text.length :=
  (List.dropWhile_suffix _).length_le

/-- What follows a literal is shorter than a text that starts with a digit. -/
theorem length_splitLiteral_lt {c : Char} {rest : Text} (digit : Text.isDecimalDigit c = true) :
    (splitLiteral (c :: rest)).2.length < (c :: rest).length := by
  have first : (splitDigits (c :: rest)).2.length < (c :: rest).length := by
    have shorter := length_splitDigits_le rest
    simp only [splitDigits, List.dropWhile_cons, digit, if_true, List.length_cons] at shorter ⊢
    omega
  unfold splitLiteral
  generalize splitDigits (c :: rest) = parts at first ⊢
  obtain ⟨integral, after⟩ := parts
  dsimp only at first ⊢
  split
  · rename_i afterPoint
    have shorter := length_splitDigits_le afterPoint
    split
    · exact first
    · simp only [List.length_cons] at first ⊢
      omega
  · exact first

/-- The scan of a text, where `operators` are the characters that make operator runs. -/
def scan (operators : List Char) (text : Text) : Except EvalError Scan :=
  match text with
  | [] => .ok .empty
  | c :: rest =>
    if digit : Text.isDecimalDigit c = true then
      have := @length_splitLiteral_lt c rest digit
      match literalValue? (splitLiteral (c :: rest)).1 with
      | none => .error (.invalidNumber (splitLiteral (c :: rest)).1)
      | some value => (scan operators (splitLiteral (c :: rest)).2).map (.withToken (.number value))
    else if operators.contains c then
      have : (rest.dropWhile operators.contains).length < (c :: rest).length :=
        Nat.lt_succ_of_le (List.dropWhile_suffix _).length_le
      (scan operators (rest.dropWhile operators.contains)).map
        (.withToken (.operator (c :: rest.takeWhile operators.contains)))
    else if c == '(' then (scan operators rest).map (.withToken .opening)
    else if c == ')' then (scan operators rest).map (.withToken .closing)
    else (scan operators rest).map (.withSkipped c)
termination_by text.length
decreasing_by all_goals (simp only [List.length_cons] at *; omega)

end ProseTree.Arithmetic
