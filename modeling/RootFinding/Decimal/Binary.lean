/-!
# Doubles as binary fractions

`Binary.ofFloat` reads the fields of a double off its bits. All decimal text starts here, so that
the digits come from exact arithmetic on natural numbers.
-/

namespace RootFinding.Decimal

/-- A double taken apart: not a number, an infinity, or a signed whole multiple of a power of two.
The two zeros are the finite values of mantissa zero. -/
inductive Binary where
  | nan
  | infinite (negative : Bool)
  | finite (negative : Bool) (mantissa : Nat) (exponent : Int)
deriving DecidableEq, Repr

namespace Binary

/-- The exponent of the subnormal doubles, the least of all. -/
def minExponent : Int := -1074

/-- The mantissa of a normal double that is a power of two. -/
def leadingBit : Nat := Nat.pow 2 52

/-- The sign bit, eleven bits of biased exponent and fifty-two bits of fraction. -/
def ofBits (bits : Nat) : Binary :=
  let negative := decide (Nat.pow 2 63 ≤ bits)
  let biased := bits / leadingBit % Nat.pow 2 11
  let fraction := bits % leadingBit
  if biased = 2047 then
    if fraction = 0 then .infinite negative else .nan
  else if biased = 0 then
    .finite negative fraction minExponent
  else
    .finite negative (leadingBit + fraction) (Int.ofNat biased - 1075)

/-- The value of a double. -/
def ofFloat (x : Float) : Binary := ofBits x.toBits.toNat

end Binary

end RootFinding.Decimal
