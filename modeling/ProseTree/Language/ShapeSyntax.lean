import ProseTree.Language.CharSetSyntax
import ProseTree.Language.Shape

/-!
# The written form of shapes

Characters stand for themselves, sets stand in brackets, and a point is any character but the line
feed. Vertical bars separate alternatives, parentheses make numbered groups, or groups without a
number when a question mark and a colon follow. A star, a plus, a question mark or bounds in braces
repeat what stands before them, reluctantly when another question mark follows. A circumflex and a
dollar sign stand for the two ends of the text.
-/

namespace ProseTree.Language.Shape

variable [ClassTables]

/-- The shape of an escape. -/
def ofEscape : Escape → Shape
  | .char c => char c
  | .set set => oneOf set
  | .textStart => textStart
  | .textEnd => textEnd

/-- The text without a question mark at its start, and whether there was one. -/
def reluctance : Text → Bool × Text
  | '?' :: rest => (true, rest)
  | text => (false, text)

/-- A number with white space around it, and what follows it. It has 32 bits. -/
def number? (text : Text) : Option (Nat × Text) :=
  let start := Text.trimStart text
  let digits := start.takeWhile Char.isDigit
  let value := Text.valueOf 10 digits
  if digits.isEmpty || Nat.pow 2 32 ≤ value then none
  else some (value, Text.trimStart (start.drop digits.length))

/-- The bounds of a repetition after an opening brace, and what follows the closing one. -/
def bounds? (text : Text) : Option ((Nat × Option Nat) × Text) := do
  let (least, rest) ← number? text
  match rest with
  | '\x7d' :: after => some ((least, some least), after)
  | ',' :: '\x7d' :: after => some ((least, none), after)
  | ',' :: upper => do
    let (most, final) ← number? upper
    match final with
    | '\x7d' :: after => if least ≤ most then some ((least, some most), after) else none
    | _ => none
  | _ => none

/-- The parts of a sequence, last one first, after its last part was repeated. -/
def repeatLast? (least : Nat) (most : Option Nat) (isReluctant : Bool) :
    List Shape → Option (List Shape)
  | [] => none
  | last :: before => some (repeated least most isReluctant last :: before)

mutual

/-- The alternatives up to a closing parenthesis or the end, the number of groups so far, and what
follows. -/
def alternatives? : Nat → Nat → Text → Option (Shape × Nat × Text)
  | 0, _, _ => none
  | bound + 1, groups, text => do
    let (first, count, rest) ← parts? bound groups [] text
    match rest with
    | '|' :: others => do
      let (second, final, after) ← alternatives? bound count others
      some (choice first second, final, after)
    | _ => some (first, count, rest)

/-- The rest of a sequence. Its parts so far are listed last one first. -/
def parts? : Nat → Nat → List Shape → Text → Option (Shape × Nat × Text)
  | 0, _, _, _ => none
  | bound + 1, groups, parts, text =>
    match text with
    | [] | ')' :: _ | '|' :: _ => some (ofSequence parts.reverse, groups, text)
    | '(' :: '?' :: ':' :: rest => do
      let (inner, count, after) ← alternatives? bound groups rest
      let final ← Text.dropBeginning? [')'] after
      parts? bound count (group none inner :: parts) final
    | '(' :: '?' :: _ => none
    | '(' :: rest => do
      let (inner, count, after) ← alternatives? bound (groups + 1) rest
      let final ← Text.dropBeginning? [')'] after
      parts? bound count (group (some (groups + 1)) inner :: parts) final
    | '[' :: rest => do
      let (set, after) ← CharSet.read? rest
      parts? bound groups (oneOf set :: parts) after
    | '*' :: rest => do
      let (isReluctant, after) := reluctance rest
      parts? bound groups (← repeatLast? 0 none isReluctant parts) after
    | '+' :: rest => do
      let (isReluctant, after) := reluctance rest
      parts? bound groups (← repeatLast? 1 none isReluctant parts) after
    | '?' :: rest => do
      let (isReluctant, after) := reluctance rest
      parts? bound groups (← repeatLast? 0 (some 1) isReluctant parts) after
    | '\x7b' :: rest => do
      let ((least, most), closed) ← bounds? rest
      let (isReluctant, after) := reluctance closed
      parts? bound groups (← repeatLast? least most isReluctant parts) after
    | '.' :: rest => parts? bound groups (oneOf .withinLine :: parts) rest
    | '^' :: rest => parts? bound groups (textStart :: parts) rest
    | '$' :: rest => parts? bound groups (textEnd :: parts) rest
    | '\\' :: rest => do
      let (escape, after) ← Escape.read? rest
      parts? bound groups (ofEscape escape :: parts) after
    | c :: rest => parts? bound groups (char c :: parts) rest

end

/-- The number of levels on which the parts of a shape may stand in each other. -/
def depthLimit : Nat :=
  250

/-- The shape that a text spells. -/
def ofText? (text : Text) : Option Shape :=
  match alternatives? (2 * text.length + 2) 0 text with
  | some (shape, _, []) => if shape.depth .alone ≤ depthLimit then some shape else none
  | _ => none

end ProseTree.Language.Shape
