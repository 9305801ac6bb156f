import ProseTree.Language.CharClass
import ProseTree.Text.DecimalDigit

/-!
# Sets of characters

The sets that a class in brackets can denote when it is more than a list of ranges: classes stand in
classes, and whole lists are intersected or taken from each other. A set also knows how deep its
written form is nested.
-/

namespace ProseTree.Language

/-- How two sets are combined. -/
inductive SetOperation where
  | intersection
  | difference
  | symmetricDifference
  deriving DecidableEq, Repr

/-- Membership in a combination, given membership in both sets. -/
def SetOperation.apply : SetOperation → Bool → Bool → Bool
  | intersection, left, right => left && right
  | difference, left, right => left && !right
  | symmetricDifference, left, right => left != right

/-- A set of characters, in the form in which it is written. -/
inductive CharSet where
  | ranges (ranges : List CharRange)
  | digits
  | blanks
  | negated (inner : CharSet)
  | union (first second : CharSet)
  | combined (operation : SetOperation) (left right : CharSet)
  | bracketed (inner : CharSet)
  deriving DecidableEq, Repr

namespace CharSet

/-- Whether the character is in the set. -/
def contains : CharSet → Char → Bool
  | ranges list, c => list.any (·.contains c)
  | digits, c => Text.isDecimalDigit c
  | blanks, c => Text.isBlank c
  | negated inner, c => !inner.contains c
  | union first second, c => first.contains c || second.contains c
  | combined operation left right, c => operation.apply (left.contains c) (right.contains c)
  | bracketed inner, c => inner.contains c

/-- The set of one character. -/
def single (c : Char) : CharSet :=
  ranges [⟨c, c⟩]

/-- The set of all characters but the line feed. -/
def withinLine : CharSet :=
  negated (single '\n')

/-- The union of some sets. -/
def ofList : List CharSet → CharSet
  | [] => ranges []
  | [only] => only
  | first :: others => union first (ofList others)

/-- The levels on which brackets, lists and combinations stand in each other. A set that follows
another in a list adds no level of its own. -/
def depth (inList : Bool) : CharSet → Nat
  | ranges _ | digits | blanks => 0
  | negated inner => inner.depth false
  | union first second =>
    max (first.depth false) (second.depth true) + (if inList then 0 else 1)
  | combined _ left right => max (left.depth false) (right.depth false) + 1
  | bracketed inner => inner.depth false + 1

/-- The ranges of the classes that have a name, all of them within ASCII. -/
def named? (name : Text) : Option (List CharRange) :=
  let classes : List (String × List CharRange) := [
    ("alnum", [⟨'0', '9'⟩, ⟨'A', 'Z'⟩, ⟨'a', 'z'⟩]),
    ("alpha", [⟨'A', 'Z'⟩, ⟨'a', 'z'⟩]),
    ("ascii", [⟨'\x00', '\x7f'⟩]),
    ("blank", [⟨'\t', '\t'⟩, ⟨' ', ' '⟩]),
    ("cntrl", [⟨'\x00', '\x1f'⟩, ⟨'\x7f', '\x7f'⟩]),
    ("digit", [⟨'0', '9'⟩]),
    ("graph", [⟨'!', '~'⟩]),
    ("lower", [⟨'a', 'z'⟩]),
    ("print", [⟨' ', '~'⟩]),
    ("punct", [⟨'!', '/'⟩, ⟨':', '@'⟩, ⟨'[', '\x60'⟩, ⟨'\x7b', '~'⟩]),
    ("space", [⟨'\t', '\r'⟩, ⟨' ', ' '⟩]),
    ("upper", [⟨'A', 'Z'⟩]),
    ("word", [⟨'0', '9'⟩, ⟨'A', 'Z'⟩, ⟨'_', '_'⟩, ⟨'a', 'z'⟩]),
    ("xdigit", [⟨'0', '9'⟩, ⟨'A', 'F'⟩, ⟨'a', 'f'⟩])]
  (classes.find? fun entry => entry.1.toList == name).map (·.2)

end CharSet

end ProseTree.Language
