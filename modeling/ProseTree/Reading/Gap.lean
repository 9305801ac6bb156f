import ProseTree.Text.Quoted
import ProseTree.Tree.Node

/-!
# Gaps

A gap is a span of the input that is missing from the tree. It names the stage that left it out, and
says whether nothing recognised the span, whether it was recognised as a node of the wrong kind, or
whether it is a single character dropped from a run of symbols.
-/

namespace ProseTree.Reading

open ProseTree.Tree (Kind)

/-- Why a span was left out. -/
inductive GapReason where
  | unrecognized
  | unexpectedKind (kind : Kind)
  | droppedCharacter
  deriving DecidableEq, Repr

/-- The wording of a reason. -/
def GapReason.message : GapReason → Text
  | .unrecognized => "unrecognized"
  | .unexpectedKind kind => "unexpected " ++ kind.name
  | .droppedCharacter => "dropped character"

/-- The pieces in which the wording of a reason is handed on. -/
def GapReason.pieces : GapReason → List Text
  | .unexpectedKind kind => ["unexpected ", kind.name]
  | .unrecognized => [GapReason.unrecognized.message]
  | .droppedCharacter => [GapReason.droppedCharacter.message]

/-- A span of the input that is missing from the tree. -/
structure Gap where
  stage : Text
  text : Text
  reason : GapReason
  deriving DecidableEq, Repr

/-- The wording of a gap. -/
def Gap.message (gap : Gap) : Text :=
  gap.stage ++ " stage: " ++ gap.reason.message ++ " " ++ Text.Quoted.encode gap.text

/-- The pieces in which the wording of a gap is handed on. -/
def Gap.pieces (gap : Gap) : List Text :=
  gap.stage :: " stage: ".toList :: (gap.reason.pieces ++ [' '] :: Text.Quoted.pieces gap.text)

/-- Put together, the pieces of a reason are its wording. -/
theorem GapReason.flatten_pieces (reason : GapReason) : reason.pieces.flatten = reason.message := by
  unfold pieces message
  cases reason <;> dsimp only <;>
    simp only [List.flatten_cons, List.flatten_nil, List.append_nil]

/-- Put together, the pieces of a gap are its wording. -/
theorem Gap.flatten_pieces (gap : Gap) : gap.pieces.flatten = gap.message := by
  simp [pieces, message, GapReason.flatten_pieces, Text.Quoted.flatten_pieces]

end ProseTree.Reading
