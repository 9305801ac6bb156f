import ProseTree.Text.Basic

/-!
# The shortest decimal text of a double

A finite double stands for the interval of reals that round to it. Of the decimal grids, from one
significant digit upwards, the first that has a point in this interval gives the digits: of the two
grid points around the value the nearer one, the upper one on a tie. The text is positional
whatever the magnitude, without a point when the value is integral.
-/

namespace ProseTree.Decimal

/-- The exact value `significand · 2 ^ exponent` of a finite double without its sign. -/
structure Binary where
  significand : Nat
  exponent : Int
  /-- The next smaller double is only half as far away as the next larger one. -/
  narrowBelow : Bool

/-- The exact magnitude of the finite double with the given bits. -/
def Binary.ofBits (bits : Nat) : Binary :=
  let fraction : Nat := bits % Nat.pow 2 52
  let biased : Nat := bits / Nat.pow 2 52 % Nat.pow 2 11
  if biased == 0 then ⟨fraction, -1074, false⟩
  else ⟨Nat.pow 2 52 + fraction, Int.ofNat biased - 1075, fraction == 0 && biased != 1⟩

/-- A decimal number `digits · 10 ^ exponent`. -/
structure Number where
  digits : Nat
  exponent : Int
  deriving DecidableEq, Repr

/-- `2 ^ exponent` as a ratio of natural numbers. -/
def powerOfTwo (exponent : Int) : Nat × Nat :=
  if 0 ≤ exponent then (Nat.pow 2 exponent.toNat, 1) else (1, Nat.pow 2 (-exponent).toNat)

/-- `10 ^ exponent` as a ratio of natural numbers. -/
def powerOfTen (exponent : Int) : Nat × Nat :=
  if 0 ≤ exponent then (Nat.pow 10 exponent.toNat, 1) else (1, Nat.pow 10 (-exponent).toNat)

/-- The grid of the multiples of `10 ^ gridExponent`, with everything in units of a common divisor:
the value, its distances to the ends of its interval, and one step of the grid. -/
structure Grid where
  value : Nat
  below : Nat
  above : Nat
  step : Nat
  closed : Bool

/-- The grid of the multiples of `10 ^ gridExponent` around a value. -/
def Binary.grid (binary : Binary) (gridExponent : Int) : Grid :=
  let (twoNumerator, twoDenominator) := powerOfTwo (binary.exponent - 2)
  let (tenNumerator, tenDenominator) := powerOfTen gridExponent
  let quarter := twoNumerator * tenDenominator
  { value := 4 * binary.significand * quarter
    below := (if binary.narrowBelow then 1 else 2) * quarter
    above := 2 * quarter
    step := tenNumerator * twoDenominator
    closed := binary.significand % 2 == 0 }

/-- Whether a point at this distance still rounds to the value. -/
def Grid.within (grid : Grid) (distance limit : Nat) : Bool :=
  if grid.closed then distance ≤ limit else distance < limit

/-- The grid point that stands for the value, if one of its two neighbours rounds to it. -/
def Grid.choose? (grid : Grid) : Option Nat :=
  let lower := grid.value / grid.step
  let down := grid.value % grid.step
  let up := grid.step - down
  let lowerFits := grid.within down grid.below
  let upperFits := grid.within up grid.above
  if lowerFits && (!upperFits || down < up) then some lower
  else if upperFits then some (lower + 1)
  else none

/-- The first of the grids, from `gridExponent` downwards, that has a point for the value. -/
def Binary.search (binary : Binary) : Nat → Int → Number
  | 0, gridExponent => ⟨(binary.grid gridExponent).value / (binary.grid gridExponent).step, gridExponent⟩
  | grids + 1, gridExponent =>
    match (binary.grid gridExponent).choose? with
    | some digits => ⟨digits, gridExponent⟩
    | none => binary.search grids (gridExponent - 1)

/-- An exponent of ten that is not below the magnitude of a positive value, and above it by less
than two. -/
def Binary.topExponent (binary : Binary) : Int :=
  let bitExponent : Int := (Nat.log2 binary.significand : Int) + binary.exponent + 1
  (bitExponent * 30103).fdiv 100000 + 1

/-- The shortest decimal number that rounds to the value. -/
def Binary.shortest (binary : Binary) : Number :=
  binary.search 20 binary.topExponent

/-- The positional text of a decimal number, without a point unless a fraction needs one. -/
def Number.positional (number : Number) : Text :=
  let digits := Text.ofNat number.digits
  if 0 ≤ number.exponent then
    if number.digits == 0 then ['0'] else digits ++ List.replicate number.exponent.toNat '0'
  else
    let places := (-number.exponent).toNat
    let padded := List.replicate (places + 1 - digits.length) '0' ++ digits
    padded.take (padded.length - places) ++ '.' :: padded.drop (padded.length - places)

/-- The text of a double: the shortest digits that read back, a minus sign when the sign bit is set,
and words for what is not finite. -/
def ofDouble (value : Float) : Text :=
  let bits := value.toBits.toNat
  if value.isNaN then "NaN".toList
  else
    let magnitude :=
      if value.isInf then "inf".toList
      else if bits % Nat.pow 2 63 == 0 then ['0']
      else (Binary.ofBits bits).shortest.positional
    if Nat.pow 2 63 ≤ bits then '-' :: magnitude else magnitude

end ProseTree.Decimal
