import RootFinding.Decimal.Binary

/-!
# A fixed number of decimal places

The exact binary value is rounded to a whole number of units in the last place; a half goes to the
even neighbour.
-/

namespace RootFinding.Decimal

/-- The whole number nearest to `num / den`; of two equally near ones the even one. -/
def roundHalfEven (num den : Nat) : Nat :=
  let floor := num / den
  let twice := 2 * (num % den)
  if den < twice ∨ (twice = den ∧ floor % 2 = 1) then floor + 1 else floor

/-- `mantissa · 2 ^ exponent` in units of `10 ^ -places`, rounded. -/
def units (places mantissa : Nat) (exponent : Int) : Nat :=
  roundHalfEven (mantissa * Nat.pow 2 exponent.toNat * Nat.pow 10 places)
    (Nat.pow 2 (-exponent).toNat)

/-- A count of units of `10 ^ -places` with its point: at least one digit before it, exactly
`places` behind it, and no point when there are none. -/
def placePoint (places count : Nat) : String :=
  let digits := (toString count).toList
  let padded := List.replicate (places + 1 - digits.length) '0' ++ digits
  let whole := padded.take (padded.length - places)
  let rest := padded.drop (padded.length - places)
  if places = 0 then String.ofList whole else String.ofList (whole ++ '.' :: rest)

/-- The text of the nonnegative number `mantissa · 2 ^ exponent` with `places` decimal places. -/
def fixed (places mantissa : Nat) (exponent : Int) : String :=
  placePoint places (units places mantissa exponent)

end RootFinding.Decimal
