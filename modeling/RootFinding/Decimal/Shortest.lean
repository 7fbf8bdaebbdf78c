import RootFinding.Decimal.Binary

/-!
# The fewest digits that read back

A positive double owns the reals that round to it, an interval around its value. Among the decimals
with one digit, then two, and so on, the first that fall into the interval are the shortest texts
that read back to the double; of two candidates with the same number of digits the nearer one is
taken, and the larger one if both are equally near.

On a decimal grid only the two neighbours of the value can be such candidates: if any grid point
lies in the interval, one of the two does. Seventeen digits always suffice.

All arithmetic is exact. A `Span` carries the value and the two ends of its interval as numerators
over one denominator.
-/

namespace RootFinding.Decimal

/-- The decimal `0.d₁d₂…dₙ · 10 ^ point`, where `digits` is the number `d₁d₂…dₙ` and neither its
first nor its last digit is zero. -/
structure Digits where
  digits : String
  point : Int
deriving DecidableEq, Repr

/-- The reals that round to one double: those strictly between `low / den` and `high / den`, with
the two ends if `closed`. The double itself is `value / den`. -/
structure Span where
  low : Nat
  value : Nat
  high : Nat
  den : Nat
  closed : Bool

namespace Span

/-- The interval of `mantissa · 2 ^ exponent`. It ends half a unit above and half a unit below, but
only a quarter below where the doubles become twice as dense; the ends round to an even mantissa. -/
def ofBinary (mantissa : Nat) (exponent : Int) : Span :=
  let below := if mantissa = Binary.leadingBit ∧ exponent ≠ Binary.minExponent then 1 else 2
  let scale := Nat.pow 2 (exponent - 2).toNat
  { low := (4 * mantissa - below) * scale
    value := 4 * mantissa * scale
    high := (4 * mantissa + 2) * scale
    den := Nat.pow 2 (2 - exponent).toNat
    closed := mantissa % 2 = 0 }

/-- Whether `10 ^ e` is at most the value. -/
def reaches (s : Span) (e : Int) : Bool :=
  s.den * Nat.pow 10 e.toNat ≤ s.value * Nat.pow 10 (-e).toNat

/-- The number of digits before the decimal point, or minus the number of zeros after it: the value
lies in the decade from `10 ^ (point - 1)` to `10 ^ point`. The lengths in bits leave two decades
to choose from. -/
def point (s : Span) : Int :=
  let bits : Int := s.value.log2 - s.den.log2 - 1
  let low := bits * 30103 / 100000 + 1
  if s.reaches low then low + 1 else low

/-- The greatest multiple of `10 ^ k` that is not above the value, in units of `10 ^ k`. -/
def floorAt (s : Span) (k : Int) : Nat :=
  s.value * Nat.pow 10 (-k).toNat / (s.den * Nat.pow 10 k.toNat)

/-- The multiple of `10 ^ k` in the interval that is nearest to the value, in units of
`10 ^ k`. -/
def nearest? (s : Span) (k : Int) : Option Nat :=
  let scale := Nat.pow 10 (-k).toNat
  let unit := s.den * Nat.pow 10 k.toNat
  let floor := s.floorAt k
  let inside (c : Nat) : Bool :=
    if s.closed then s.low * scale ≤ c * unit ∧ c * unit ≤ s.high * scale
    else s.low * scale < c * unit ∧ c * unit < s.high * scale
  if inside floor then
    if inside (floor + 1) ∧ unit ≤ 2 * (s.value * scale - floor * unit) then some (floor + 1)
    else some floor
  else if inside (floor + 1) then some (floor + 1)
  else none

/-- The first hit on the grids with `count`, `count + 1`, … digits, and the place of its last
digit. Without a hit on any of the `grids`, the digits are cut off. -/
def firstHit (s : Span) (point : Int) : (grids count : Nat) → Nat × Int
  | 0, count => (s.floorAt (point - count), point - count)
  | grids + 1, count =>
    let k := point - count
    match s.nearest? k with
    | some hit => (hit, k)
    | none => firstHit s point grids (count + 1)

end Span

/-- A list of digits without the zeros at its end. -/
def dropZeros (digits : List Char) : List Char :=
  (digits.reverse.dropWhile (· = '0')).reverse

/-- The shortest digits that read back to the positive double `mantissa · 2 ^ exponent`. -/
def shortest (mantissa : Nat) (exponent : Int) : Digits :=
  let span := Span.ofBinary mantissa exponent
  let (hit, k) := span.firstHit span.point 17 1
  let digits := (toString hit).toList
  { digits := String.ofList (dropZeros digits)
    point := digits.length + k }

end RootFinding.Decimal
