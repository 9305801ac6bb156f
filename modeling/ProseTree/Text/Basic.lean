/-!
# Texts

A text is the list of its Unicode scalar values. This module has white space and the cuts that the
rest of the library makes along it: trimming, tokens, lines, and the removal of a known beginning
or end.
-/

namespace ProseTree

/-- A text is the sequence of its Unicode scalar values. -/
abbrev Text := List Char

/-- A string stands for the text of its characters. -/
instance : Coe String Text := ⟨String.toList⟩

namespace Text

/-- White space is exactly the Unicode property White_Space. -/
def isBlank (c : Char) : Bool :=
  (9 ≤ c.val && c.val ≤ 13) || c.val == 0x20 || c.val == 0x85 || c.val == 0xA0 ||
  c.val == 0x1680 || (0x2000 ≤ c.val && c.val ≤ 0x200A) || c.val == 0x2028 || c.val == 0x2029 ||
  c.val == 0x202F || c.val == 0x205F || c.val == 0x3000

/-- The text without its leading white space. -/
def trimStart (text : Text) : Text :=
  text.dropWhile isBlank

/-- The text without the longest end whose characters all satisfy `drop`. -/
def dropEnd (drop : Char → Bool) : Text → Text
  | [] => []
  | c :: rest =>
    match dropEnd drop rest with
    | [] => if drop c then [] else [c]
    | kept => c :: kept

/-- The text without its trailing white space. -/
def trimEnd (text : Text) : Text :=
  dropEnd isBlank text

/-- The text without white space at either end. -/
def trim (text : Text) : Text :=
  trimEnd (trimStart text)

/-- The pieces between the characters that satisfy `cut`, empty ones included. -/
def splitWhere (cut : Char → Bool) : Text → List Text
  | [] => [[]]
  | c :: rest =>
    match splitWhere cut rest with
    | [] => [[c]]
    | piece :: pieces => if cut c then [] :: piece :: pieces else (c :: piece) :: pieces

/-- The maximal pieces without white space, in order. -/
def tokens (text : Text) : List Text :=
  (splitWhere isBlank text).filter fun piece => !piece.isEmpty

/-- A line loses the carriage return that its line feed follows. -/
def dropReturn (line : Text) : Text :=
  match line.getLast? with
  | some '\r' => line.dropLast
  | _ => line

/-- The lines ended by the given pieces: the last piece has no line feed, and is no line when it is
empty. -/
def endLines : List Text → List Text
  | [] => []
  | [last] => if last.isEmpty then [] else [last]
  | piece :: pieces => dropReturn piece :: endLines pieces

/-- The lines of a text, without their line feeds or carriage return and line feed pairs. -/
def lines (text : Text) : List Text :=
  endLines (splitWhere (· == '\n') text)

/-- What follows `beginning` in the text, when the text starts with it. -/
def dropBeginning? : Text → Text → Option Text
  | [], text => some text
  | _ :: _, [] => none
  | b :: beginning, c :: text => if b == c then dropBeginning? beginning text else none

/-- What stands before `ending` in the text, when the text ends with it. -/
def dropEnding? (ending text : Text) : Option Text :=
  (dropBeginning? ending.reverse text.reverse).map List.reverse

/-- The pieces with `separator` between neighbours. -/
def join (separator : Text) : List Text → Text
  | [] => []
  | [piece] => piece
  | piece :: pieces => piece ++ separator ++ join separator pieces

/-- The decimal digits of a natural number. -/
def ofNat (n : Nat) : Text :=
  Nat.toDigits 10 n

/-- The number of bytes that a text takes in UTF-8. -/
def byteCount (text : Text) : Nat :=
  text.foldl (fun count c => count + c.utf8Size) 0

/-- A line of output is a text and its line feed. -/
def line (text : Text) : Text :=
  text ++ ['\n']

/-- The lexicographic order by scalar value, in which sorted words and keys are listed. -/
def precedes : Text → Text → Bool
  | [], _ => true
  | _ :: _, [] => false
  | c :: left, d :: right => c.toNat < d.toNat || (c == d && precedes left right)

/-- Trimming the start removes nothing but white space. -/
theorem takeWhile_append_trimStart (text : Text) :
    text.takeWhile isBlank ++ trimStart text = text :=
  List.takeWhile_append_dropWhile

/-- A text starts with `beginning` exactly when it is `beginning` and a rest. -/
theorem dropBeginning?_eq_some_iff {beginning text rest : Text} :
    dropBeginning? beginning text = some rest ↔ text = beginning ++ rest := by
  induction beginning generalizing text with
  | nil => simp [dropBeginning?, eq_comm]
  | cons b beginning ih =>
    cases text with
    | nil => simp [dropBeginning?]
    | cons c text =>
      by_cases same : b = c
      · simp [dropBeginning?, same, ih]
      · simp [dropBeginning?, same, Ne.symm same]

/-- What is left after a beginning is no longer than the text. -/
theorem length_of_dropBeginning? {beginning text rest : Text}
    (found : dropBeginning? beginning text = some rest) :
    text.length = beginning.length + rest.length := by
  rw [dropBeginning?_eq_some_iff.1 found, List.length_append]

/-- What is left after a beginning is shorter than the text, unless the beginning is empty. -/
theorem length_dropBeginning?_lt {beginning text rest : Text} (nonempty : beginning ≠ [])
    (found : dropBeginning? beginning text = some rest) : rest.length < text.length := by
  have whole := length_of_dropBeginning? found
  have positive := List.length_pos_iff.2 nonempty
  omega

end Text

end ProseTree
