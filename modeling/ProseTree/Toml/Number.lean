import ProseTree.Text.Hexadecimal

/-!
# TOML numbers

Recognisers for integers and floats. A language definition has no use for their values, so only
their form is checked, and whether a machine number can hold them: an integer has 128 bits, with or
without sign, and a float must not round to infinity unless it is spelt as infinity.
-/

namespace ProseTree.Toml

/-- Whether the text is digits of a kind with single underscores between them. -/
def isDigits (digit : Char → Bool) : Text → Bool
  | [] => false
  | [c] => digit c
  | c :: '_' :: rest => digit c && isDigits digit rest
  | c :: rest => digit c && isDigits digit rest

/-- A decimal integer without sign: no zero stands before other digits. -/
def isNatural : Text → Bool
  | ['0'] => true
  | '0' :: _ => false
  | text => isDigits Char.isDigit text

/-- The text without a sign at its start. -/
def dropSign : Text → Text
  | '+' :: rest | '-' :: rest => rest
  | text => text

/-- Whether the text starts with a minus. -/
def isNegative (text : Text) : Bool :=
  text.head? == some '-'

/-- The number that digits of a base spell with underscores between them. -/
def magnitudeOf (base : Nat) (digits : Text) : Nat :=
  Text.valueOf base (digits.filter (· != '_'))

/-- Whether 128 bits hold an integer of this sign and magnitude. -/
def fitsInteger (isNegated : Bool) (magnitude : Nat) : Bool :=
  if isNegated then magnitude ≤ Nat.pow 2 127 else magnitude < Nat.pow 2 128

/-- The base that a mark after a leading zero stands for, and its digits. -/
def base? : Char → Option (Nat × (Char → Bool))
  | 'x' => some (16, Text.isHexDigit)
  | 'o' => some (8, fun c => '0' ≤ c && c ≤ '7')
  | 'b' => some (2, fun c => c == '0' || c == '1')
  | _ => none

/-- Whether an integer fits; nothing for a text that is no integer, in decimal notation or behind the
mark of another base. -/
def integerFits? (text : Text) : Option Bool :=
  if isNatural (dropSign text) then
    some (fitsInteger (isNegative text) (magnitudeOf 10 (dropSign text)))
  else
    match text with
    | '0' :: mark :: digits => do
      let (base, digit) ← base? mark
      if isDigits digit digits then some (fitsInteger false (magnitudeOf base digits)) else none
    | _ => none

/-- The least magnitude that rounds to infinity as a float: half a unit above the greatest finite
one. -/
def overflowLimit : Nat :=
  (Nat.pow 2 54 - 1) * Nat.pow 2 970

/-- Whether `significand · 10 ^ exponent` stays below the limit. Its number of digits before the point
decides, unless that number is the limit's own. -/
def fitsFloat (significand : Nat) (exponent : Int) : Bool :=
  let size : Int := (Nat.toDigits 10 significand).length + exponent
  if significand == 0 || size < 309 then true
  else if 309 < size then false
  else if 0 ≤ exponent then significand * Nat.pow 10 exponent.toNat < overflowLimit
  else significand < overflowLimit * Nat.pow 10 (-exponent).toNat

/-- The integral part, the fraction and the exponent of a float that is spelt in digits. -/
structure FloatParts where
  integral : Text
  fraction : Option Text
  exponent : Option Text

/-- The parts of a magnitude, cut at its point and at the letter of its exponent. -/
def FloatParts.ofText (magnitude : Text) : FloatParts :=
  let mantissa := magnitude.takeWhile fun c => c != 'e' && c != 'E'
  let integral := mantissa.takeWhile (· != '.')
  { integral := integral
    fraction := (mantissa.drop integral.length).tail?
    exponent := (magnitude.drop mantissa.length).tail? }

namespace FloatParts

/-- Whether the parts make a float: a fraction, an exponent or both follow the integral part. -/
def areValid (parts : FloatParts) : Bool :=
  (parts.fraction.isSome || parts.exponent.isSome) && isNatural parts.integral &&
    (parts.fraction.map (isDigits Char.isDigit)).getD true &&
    (parts.exponent.map fun exponent => isDigits Char.isDigit (dropSign exponent)).getD true

/-- Whether the float of some parts is finite. -/
def fit (parts : FloatParts) : Bool :=
  let fraction := (parts.fraction.getD []).filter (· != '_')
  let exponent := parts.exponent.getD []
  let magnitude : Int := magnitudeOf 10 (dropSign exponent)
  fitsFloat (magnitudeOf 10 (parts.integral ++ fraction))
    ((if isNegative exponent then -magnitude else magnitude) - fraction.length)

end FloatParts

/-- Whether a float is finite or spelt as a word; nothing for a text that is no float. -/
def floatFits? (text : Text) : Option Bool :=
  let magnitude := dropSign text
  let parts := FloatParts.ofText magnitude
  if magnitude == "inf".toList || magnitude == "nan".toList then some true
  else if parts.areValid then some parts.fit
  else none

/-- Whether a number can be held; nothing for a text that is no number. -/
def numberFits? (text : Text) : Option Bool :=
  integerFits? text <|> floatFits? text

end ProseTree.Toml
