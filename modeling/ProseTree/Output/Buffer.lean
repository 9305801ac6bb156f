import ProseTree.Text.Basic

/-!
# Buffered output

A buffer gathers pieces of output up to a number of bytes, so that a file is written seldom. A piece
that does not fit into the space left over first sends off what is gathered; a piece as long as the
whole buffer is sent off by itself. Nothing is lost or reordered: what was sent off and what is held
are together all that came in.
-/

namespace ProseTree.Output

/-- The pieces that are held back, the last one first, and their length in bytes. -/
structure Buffer where
  held : List Text := []
  size : Nat := 0
  deriving DecidableEq, Repr

namespace Buffer

/-- The number of bytes that a buffer can hold. -/
def capacity : Nat :=
  8192

/-- The text that is held back. -/
def text (buffer : Buffer) : Text :=
  buffer.held.reverse.flatten

/-- What is sent off when a piece comes in, and the buffer afterwards. -/
def push (buffer : Buffer) (piece : Text) : Text × Buffer :=
  let length := Text.byteCount piece
  let sent := if buffer.size + length ≤ capacity then [] else buffer.text
  let rest := if buffer.size + length ≤ capacity then buffer else {}
  if length < capacity then (sent, ⟨piece :: rest.held, rest.size + length⟩)
  else (sent ++ rest.text ++ piece, {})

/-- What is sent off when several pieces come in one after the other, and the buffer afterwards. -/
def pushAll (buffer : Buffer) : List Text → Text × Buffer
  | [] => ([], buffer)
  | piece :: pieces =>
    let (sent, next) := buffer.push piece
    let (more, final) := next.pushAll pieces
    (sent ++ more, final)

/-- A piece joins what is sent off or what is held, at the end of it. -/
theorem push_append_text (buffer : Buffer) (piece : Text) :
    (buffer.push piece).1 ++ (buffer.push piece).2.text = buffer.text ++ piece := by
  unfold push
  by_cases fits : buffer.size + Text.byteCount piece ≤ capacity <;>
    by_cases short : Text.byteCount piece < capacity <;>
      simp [fits, short, text]

/-- Pieces join what is sent off or what is held, in their order. -/
theorem pushAll_append_text (buffer : Buffer) (pieces : List Text) :
    (buffer.pushAll pieces).1 ++ (buffer.pushAll pieces).2.text = buffer.text ++ pieces.flatten := by
  induction pieces generalizing buffer with
  | nil => simp [pushAll]
  | cons piece pieces ih =>
    simp only [pushAll, List.append_assoc, ih, List.flatten_cons]
    rw [← List.append_assoc, push_append_text, List.append_assoc]

end Buffer

end ProseTree.Output
