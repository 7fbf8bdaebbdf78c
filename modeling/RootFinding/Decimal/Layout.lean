import RootFinding.Decimal.Shortest

/-!
# How digits are laid out

A `Layout` says for which sizes a number is written without an exponent and what ends a whole
number. The library uses two: `plain` in running text and in delimited files, `literal` where a
number has to read as a floating-point literal.
-/

namespace RootFinding.Decimal

/-- The choices of a text format for finite numbers. -/
structure Layout where
  /-- Whether a number whose decimal point lies at this place is written without an exponent. -/
  positional : Int → Bool
  /-- What follows the digits of a whole number. -/
  wholeEnd : String

namespace Layout

/-- Never an exponent, and nothing after a whole number. -/
def plain : Layout where
  positional _ := true
  wholeEnd := ""

/-- Positional from `0.0001` up to below `10 ^ 16`, with at least one decimal place. -/
def literal : Layout where
  positional point := -3 ≤ point ∧ point ≤ 16
  wholeEnd := ".0"

/-- The digits around the decimal point, with zeros where it lies outside of them. -/
def positionalText (l : Layout) (d : Digits) : String :=
  let count : Int := d.digits.length
  if d.point ≤ 0 then
    "0." ++ "".pushn '0' (-d.point).toNat ++ d.digits
  else if count ≤ d.point then
    d.digits ++ "".pushn '0' (d.point - count).toNat ++ l.wholeEnd
  else
    let digits := d.digits.toList
    String.ofList (digits.take d.point.toNat ++ '.' :: digits.drop d.point.toNat)

/-- One digit before the point, the others behind it, and the power of ten. -/
def exponentText (d : Digits) : String :=
  let mantissa := match d.digits.toList with
    | [] => ""
    | [c] => String.singleton c
    | c :: rest => String.ofList (c :: '.' :: rest)
  mantissa ++ "e" ++ toString (d.point - 1)

/-- The text of a positive number. -/
def text (l : Layout) (d : Digits) : String :=
  if l.positional d.point then l.positionalText d else exponentText d

/-- The text of a zero. -/
def zeroText (l : Layout) : String := "0" ++ l.wholeEnd

end Layout

end RootFinding.Decimal
