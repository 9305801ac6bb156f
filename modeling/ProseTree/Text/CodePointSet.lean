/-!
# Sets of code points

A set of code points is kept as the sorted list of the places where membership changes: the first
member, the first code point after it that is no member, and so on. Properties of the Unicode
standard are given in this form.
-/

namespace ProseTree

/-- A set of code points, as the ascending list of the points at which membership changes. -/
structure CodePointSet where
  changes : List Nat

namespace CodePointSet

/-- Membership in the set whose changes are listed, starting from `inside`. -/
def holds (inside : Bool) (point : Nat) : List Nat → Bool
  | [] => inside
  | change :: changes => if point < change then inside else holds (!inside) point changes

/-- Whether the character is in the set. -/
def contains (set : CodePointSet) (c : Char) : Bool :=
  holds false c.toNat set.changes

/-- Nothing below the first change is in the set. -/
theorem contains_eq_false_of_lt {first : Nat} {changes : List Nat} {c : Char}
    (below : c.toNat < first) : (CodePointSet.mk (first :: changes)).contains c = false := by
  simp [contains, holds, below]

end CodePointSet

end ProseTree
