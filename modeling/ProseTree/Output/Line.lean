import ProseTree.Text.Basic

/-!
# Lines of output

A line of output is fixed wording with values between. It is handed on in pieces: every part by
itself, and the line feed with the wording in front of it, or alone after a value. The pieces put
together are the line.
-/

namespace ProseTree.Output

/-- A part of a line. -/
inductive Part where
  | fixed (text : Text)
  | value (text : Text)
  deriving DecidableEq, Repr

/-- The text of a part. -/
def Part.text : Part → Text
  | fixed text | value text => text

/-- A line of output, without its line feed. -/
abbrev Line := List Part

namespace Line

/-- The text of a line. -/
def text (line : Line) : Text :=
  line.flatMap Part.text

/-- The pieces in which a line is handed on. -/
def pieces : Line → List Text
  | [] => [['\n']]
  | [.fixed text] => [Text.line text]
  | part :: parts => part.text :: pieces parts

/-- The pieces of several lines. -/
def allPieces (lines : List Line) : List Text :=
  lines.flatMap pieces

/-- Put together, the pieces are the text of the line and its line feed. -/
theorem flatten_pieces (line : Line) : line.pieces.flatten = Text.line line.text := by
  fun_induction pieces line with
  | case1 => rfl
  | case2 wording => simp [text, Part.text]
  | case3 part parts _ ih => simp [ih, text, Text.line]

/-- Put together, the pieces of several lines are the lines one below the other. -/
theorem flatten_allPieces (lines : List Line) :
    (allPieces lines).flatten = lines.flatMap fun line => Text.line line.text := by
  induction lines with
  | nil => rfl
  | cons line lines ih =>
    rw [allPieces] at ih
    rw [allPieces, List.flatMap_cons, List.flatten_append, flatten_pieces, ih, List.flatMap_cons]

end Line

end ProseTree.Output
