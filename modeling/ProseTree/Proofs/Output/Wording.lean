import ProseTree.Output.Line
import ProseTree.Output.Plural
import ProseTree.Proofs.Decimal.RoundTrip
import ProseTree.Proofs.Text.Lines

/-!
# The lines of an output

What is written as lines of output stands on the lines of their texts, one below the other, with nothing
behind the last line feed. A number and a counted noun have no line feed in them.
-/

namespace ProseTree.Output

open ProseTree.Text (splitAtFeeds)

/-- An empty line has no text. -/
theorem Line.text_nil : Line.text [] = [] :=
  rfl

/-- The text of a line starts with that of its first part. -/
theorem Line.text_cons (part : Part) (line : Line) : Line.text (part :: line) = part.text ++ line.text :=
  List.flatMap_cons

/-- The texts of two lines are put together with them. -/
theorem Line.text_append (left right : Line) : Line.text (left ++ right) = left.text ++ right.text :=
  List.flatMap_append

/-- Output stands on the lines of the texts that are written, and ends with a line feed. -/
theorem Line.splitAtFeeds_flatten_allPieces (lines : List Line) :
    splitAtFeeds (Line.allPieces lines).flatten = (lines.map Line.text).flatMap splitAtFeeds ++ [[]] := by
  have written : (Line.allPieces lines).flatten = (lines.map Line.text).flatMap Text.line ++ [] := by
    rw [Line.flatten_allPieces, List.flatMap_map, List.append_nil]
  rw [written, Text.splitAtFeeds_flatMap_line]
  rfl

/-- A text without line feeds has none when white space is trimmed. -/
theorem noFeed_trim {text : Text} (noFeed : '\n' ∉ text) : '\n' ∉ Text.trim text := by
  obtain ⟨before, after, whole⟩ := Text.exists_append_trim text
  rw [whole] at noFeed
  exact fun member => noFeed (List.mem_append_left after (List.mem_append_right before member))

/-- A text without line feeds has none when white space is trimmed at its start. -/
theorem noFeed_trimStart {text : Text} (noFeed : '\n' ∉ text) : '\n' ∉ Text.trimStart text :=
  fun member => noFeed ((List.dropWhile_sublist _).subset member)

/-- A number has no line feed in it. -/
theorem noFeed_ofNat (number : Nat) : '\n' ∉ Text.ofNat number := by
  intro member
  exact absurd (Decimal.isDigit_of_mem_ofNat member) (by decide)

/-- A counted noun has no line feed in it, if the noun has none. -/
theorem noFeed_plural (count : Nat) {noun : Text} (noFeed : '\n' ∉ noun) : '\n' ∉ plural count noun := by
  have ending : '\n' ∉ if count = 1 then [] else ['s'] := by split <;> decide
  simp only [plural, List.mem_append, not_or]
  exact ⟨⟨⟨noFeed_ofNat count, by decide⟩, noFeed⟩, ending⟩

end ProseTree.Output
