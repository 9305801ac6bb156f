import ProseTree.Text.Basic

/-!
# Counted nouns
-/

namespace ProseTree.Output

/-- A number and its noun, which takes an `s` unless the number is one. -/
def plural (count : Nat) (noun : Text) : Text :=
  Text.ofNat count ++ " " ++ noun ++ (if count = 1 then [] else ['s'])

end ProseTree.Output
