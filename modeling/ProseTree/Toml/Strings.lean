import ProseTree.Text.Hexadecimal

/-!
# TOML strings

The four kinds of strings: basic ones with escapes and literal ones without, each on one line or on
several. A string reader takes what follows the opening quotes, and returns the value and what
follows the closing quotes.
-/

namespace ProseTree.Toml

/-- A control character that no string or comment may hold. -/
def isForbidden (c : Char) : Bool :=
  (c.toNat < 0x20 && c != '\t') || c.toNat == 0x7F

/-- The character that a letter after a backslash stands for. -/
def escaped? : Char → Option Char
  | 'b' => some '\x08'
  | 'e' => some '\x1b'
  | 't' => some '\t'
  | 'n' => some '\n'
  | 'f' => some '\x0c'
  | 'r' => some '\r'
  | '"' => some '"'
  | '\\' => some '\\'
  | _ => none

/-- A value with one more character in front. -/
def withChar (c : Char) (result : Text × Text) : Text × Text :=
  (c :: result.1, result.2)

/-- A basic string on one line. -/
def basic? : Text → Option (Text × Text)
  | [] => none
  | '"' :: rest => some ([], rest)
  | '\\' :: 'x' :: a :: b :: rest => do
    let char ← Text.scalarOfHex? [a, b]
    (basic? rest).map (withChar char)
  | '\\' :: 'u' :: a :: b :: c :: d :: rest => do
    let char ← Text.scalarOfHex? [a, b, c, d]
    (basic? rest).map (withChar char)
  | '\\' :: 'U' :: a :: b :: c :: d :: e :: f :: g :: h :: rest => do
    let char ← Text.scalarOfHex? [a, b, c, d, e, f, g, h]
    (basic? rest).map (withChar char)
  | '\\' :: letter :: rest => do
    let char ← escaped? letter
    (basic? rest).map (withChar char)
  | c :: rest => if isForbidden c || c == '\\' then none else (basic? rest).map (withChar c)

/-- A literal string on one line. -/
def literal? : Text → Option (Text × Text)
  | [] => none
  | '\'' :: rest => some ([], rest)
  | c :: rest => if isForbidden c then none else (literal? rest).map (withChar c)

/-- White space inside a line. -/
def isSpace (c : Char) : Bool :=
  c == ' ' || c == '\t'

/-- The end of a line at the start of a text, and what follows it. -/
def afterLineEnd? : Text → Option Text
  | '\n' :: rest | '\r' :: '\n' :: rest => some rest
  | _ => none

/-- The text without one end of a line at its start. -/
def dropLineEnd (text : Text) : Text :=
  (afterLineEnd? text).getD text

/-- The quotes at the end of a string on several lines: three close it, and up to two more before
them belong to the value. -/
def closing? (mark : Char) (text : Text) : Option (Text × Text) :=
  let marks := (text.takeWhile (· == mark)).length
  if 3 ≤ marks then some (List.replicate (min marks 5 - 3) mark, text.drop (min marks 5)) else none

/-- Whether a backslash that stands before this text ends its line. -/
def endsLine (text : Text) : Bool :=
  (afterLineEnd? (text.dropWhile isSpace)).isSome

/-- A basic string on several lines, after its opening quotes. While `isJoining` holds, white space
and ends of lines are skipped, as after a backslash at the end of a line. -/
def multilineBasic? (isJoining : Bool) : Text → Option (Text × Text)
  | [] => none
  | '\\' :: 'x' :: a :: b :: rest => do
    let char ← Text.scalarOfHex? [a, b]
    (multilineBasic? false rest).map (withChar char)
  | '\\' :: 'u' :: a :: b :: c :: d :: rest => do
    let char ← Text.scalarOfHex? [a, b, c, d]
    (multilineBasic? false rest).map (withChar char)
  | '\\' :: 'U' :: a :: b :: c :: d :: e :: f :: g :: h :: rest => do
    let char ← Text.scalarOfHex? [a, b, c, d, e, f, g, h]
    (multilineBasic? false rest).map (withChar char)
  | '\\' :: letter :: rest =>
    if endsLine (letter :: rest) then multilineBasic? true (letter :: rest)
    else do
      let char ← escaped? letter
      (multilineBasic? false rest).map (withChar char)
  | '\r' :: '\n' :: rest =>
    if isJoining then multilineBasic? true rest
    else (multilineBasic? false rest).map fun result => withChar '\r' (withChar '\n' result)
  | c :: rest =>
    match closing? '"' (c :: rest) with
    | some result => some result
    | none =>
      if isJoining && (isSpace c || c == '\n') then multilineBasic? true rest
      else if (isForbidden c && c != '\n') || c == '\\' then none
      else (multilineBasic? false rest).map (withChar c)

/-- A literal string on several lines, after its opening quotes. -/
def multilineLiteral? : Text → Option (Text × Text)
  | [] => none
  | '\r' :: '\n' :: rest =>
    (multilineLiteral? rest).map fun result => withChar '\r' (withChar '\n' result)
  | c :: rest =>
    match closing? '\'' (c :: rest) with
    | some result => some result
    | none =>
      if isForbidden c && c != '\n' then none else (multilineLiteral? rest).map (withChar c)

/-- The string at the start of a text, of any of the four kinds. -/
def string? : Text → Option (Text × Text)
  | '"' :: '"' :: '"' :: rest => multilineBasic? false (dropLineEnd rest)
  | '\'' :: '\'' :: '\'' :: rest => multilineLiteral? (dropLineEnd rest)
  | '"' :: rest => basic? rest
  | '\'' :: rest => literal? rest
  | _ => none

end ProseTree.Toml
