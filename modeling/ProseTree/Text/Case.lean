import ProseTree.Text.Basic
import ProseTree.Text.CaseTable

/-!
# Case

Upper case as a property of characters, and the lower case of a text. A capital sigma is lowered
by its place: it becomes a final sigma after a cased letter when no cased letter follows,
characters without case being skipped on both sides.
-/

namespace ProseTree.Text

/-- Whether the character has the property Uppercase. -/
def isUppercase (c : Char) : Bool :=
  uppercaseSet.contains c

/-- The first character that counts for case is a cased one. -/
def startsCased (text : Text) : Bool :=
  match text.dropWhile caseIgnorableSet.contains with
  | [] => false
  | c :: _ => casedSet.contains c

/-- A capital sigma between what stands before it, nearest first, and what follows. -/
def lowerSigma (before after : Text) : Char :=
  if startsCased before && !startsCased after then 'ς' else 'σ'

/-- The lower case of a character outside of any context. -/
def lowerChar (c : Char) : Text :=
  if c == 'İ' then ['i', '\u0307']
  else
    match lowercaseRuns.findSome? (·.image? c.toNat) with
    | some image => [Char.ofNat image]
    | none => [c]

/-- The lower case of what follows `before`, whose characters are listed nearest first. -/
def lowerAfter (before : Text) : Text → Text
  | [] => []
  | c :: rest =>
    (if c == 'Σ' then [lowerSigma before rest] else lowerChar c) ++ lowerAfter (c :: before) rest

/-- The text in lower case. -/
def toLower (text : Text) : Text :=
  lowerAfter [] text

end ProseTree.Text
