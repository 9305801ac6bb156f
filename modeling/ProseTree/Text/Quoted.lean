import ProseTree.Text.Basic
import ProseTree.Text.Printable

/-!
# Quoted texts

The quoted form of a text stands on one line between double quotes. A quote and a backslash are
written after a backslash, four controls have a letter of their own, and every other character that
is not printable is written by its code point in hexadecimal digits. A quoted text is handed on in
pieces, each quote and each escaped character by itself, which put together are its quoted form.
-/

namespace ProseTree.Text.Quoted

/-- The quoted form of one character. -/
def escape (c : Char) : Text :=
  if c == '"' || c == '\\' then ['\\', c]
  else if c == '\t' then ['\\', 't']
  else if c == '\r' then ['\\', 'r']
  else if c == '\n' then ['\\', 'n']
  else if c == '\x00' then ['\\', '0']
  else if isPrintable c then [c]
  else ['\\', 'u', '\x7b'] ++ Nat.toDigits 16 c.toNat ++ ['\x7d']

/-- The quoted form of a text. -/
def encode (text : Text) : Text :=
  '"' :: (text.flatMap escape ++ ['"'])

/-- A character in front of the first of some runs. -/
def extendRun (c : Char) : List Text → List Text
  | [] => [[c]]
  | run :: runs => (c :: run) :: runs

/-- The runs of characters that stand for themselves, and the escaped characters between them. -/
def runs : Text → List Text
  | [] => [[]]
  | c :: rest => if escape c = [c] then extendRun c (runs rest) else [] :: escape c :: runs rest

/-- The pieces in which a quoted text is handed on. -/
def pieces (text : Text) : List Text :=
  ['"'] :: (runs text ++ [['"']])

/-- A run that grows in front grows by that character only. -/
theorem flatten_extendRun (c : Char) (runs : List Text) :
    (extendRun c runs).flatten = c :: runs.flatten := by
  cases runs <;> rfl

/-- Put together, the runs are the characters in their quoted forms. -/
theorem flatten_runs (text : Text) : (runs text).flatten = text.flatMap escape := by
  induction text with
  | nil => rfl
  | cons c rest ih =>
    by_cases same : escape c = [c]
    · rw [runs, if_pos same, flatten_extendRun, ih, List.flatMap_cons, same, List.singleton_append]
    · rw [runs, if_neg same, List.flatten_cons, List.flatten_cons, ih, List.flatMap_cons,
        List.nil_append]

/-- Put together, the pieces are the quoted form. -/
theorem flatten_pieces (text : Text) : (pieces text).flatten = encode text := by
  rw [pieces, encode, List.flatten_cons, List.flatten_append, flatten_runs]
  rfl

end ProseTree.Text.Quoted
