/-!
# The double nearest to a ratio

A double is an integral multiple of a power of two. The double nearest to a ratio of natural numbers
is found in exact arithmetic: the ratio is scaled until it has 53 binary digits before the point, or
fewer when the scale would fall below the least one, and is then rounded with ties to even. One sum
makes the bits from scale and rounded part, carries into the next exponent included.
-/

namespace ProseTree.Decimal

/-- The quotient rounded to the nearest natural number, a tie to the even one. -/
def divideToEven (numerator denominator : Nat) : Nat :=
  let quotient := numerator / denominator
  let twiceRest := 2 * (numerator % denominator)
  if twiceRest < denominator || (twiceRest == denominator && quotient % 2 == 0) then quotient
  else quotient + 1

/-- The largest exponent whose power of two is at most the ratio, for a positive ratio. -/
def binaryExponent (numerator denominator : Nat) : Int :=
  let guess : Int := (Nat.log2 numerator : Int) - (Nat.log2 denominator : Int)
  let reached : Bool :=
    if 0 ≤ guess then decide (denominator * Nat.pow 2 guess.toNat ≤ numerator)
    else decide (denominator ≤ numerator * Nat.pow 2 (-guess).toNat)
  if reached then guess else guess - 1

/-- The bits of positive infinity, the first pattern above all finite doubles. -/
def infinityBits : Nat :=
  0x7FF * Nat.pow 2 52

/-- The bits of the double nearest to the ratio, ties to even; too large a ratio gives infinity. -/
def nearestBits (numerator denominator : Nat) : Nat :=
  if numerator == 0 then 0
  else
    let scale : Int := max (-1074) (binaryExponent numerator denominator - 52)
    let significand :=
      if 0 ≤ scale then divideToEven numerator (denominator * Nat.pow 2 scale.toNat)
      else divideToEven (numerator * Nat.pow 2 (-scale).toNat) denominator
    min infinityBits ((scale + 1074).toNat * Nat.pow 2 52 + significand)

/-- The double nearest to `significand · 10 ^ exponent`, negated on demand. -/
def nearestDouble (isNegative : Bool) (significand : Nat) (exponent : Int) : Float :=
  let bits :=
    if 0 ≤ exponent then nearestBits (significand * Nat.pow 10 exponent.toNat) 1
    else nearestBits significand (Nat.pow 10 (-exponent).toNat)
  Float.ofBits (UInt64.ofNat (if isNegative then bits + Nat.pow 2 63 else bits))

end ProseTree.Decimal
