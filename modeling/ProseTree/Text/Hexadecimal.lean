import ProseTree.Text.Basic

/-!
# Digits and code points

The value of digits up to hexadecimal ones, and the character with a given code point.
-/

namespace ProseTree.Text

/-- A hexadecimal digit. -/
def isHexDigit (c : Char) : Bool :=
  c.isDigit || ('a' ≤ c && c ≤ 'f') || ('A' ≤ c && c ≤ 'F')

/-- The value of a hexadecimal digit. -/
def hexValue (c : Char) : Nat :=
  if c.isDigit then c.toNat - 48
  else if 'a' ≤ c then c.toNat - 87
  else c.toNat - 55

/-- The number that digits of a base spell. -/
def valueOf (base : Nat) (digits : Text) : Nat :=
  digits.foldl (fun value c => value * base + hexValue c) 0

/-- The character with a code point; surrogates have none. -/
def scalar? (point : Nat) : Option Char :=
  if point < 0xD800 || (0xE000 ≤ point && point < 0x110000) then some (Char.ofNat point) else none

/-- The character whose code point hexadecimal digits spell. -/
def scalarOfHex? (digits : Text) : Option Char :=
  if digits.all isHexDigit then scalar? (valueOf 16 digits) else none

end ProseTree.Text
