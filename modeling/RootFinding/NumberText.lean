import RootFinding.Decimal.Fixed
import RootFinding.Decimal.Layout

/-!
# Numbers as text

A number is written in one of three ways: `plain` in messages, log lines and delimited files,
`literal` where it has to read as a floating-point literal, and `fixed` in the columns of a table.
-/

namespace RootFinding

/-- The texts of a number. -/
class NumberText (α : Type) where
  /-- The shortest digits that read back, never with an exponent. -/
  plain : α → String
  /-- The shortest digits that read back, as a floating-point literal. -/
  literal : α → String
  /-- A given number of decimal places. -/
  fixed : Nat → α → String

namespace NumberText

/-- The text of a double, given the text of its magnitude when that is finite. An infinity keeps
its sign; a value that is not a number has none. -/
def ofBinary (magnitude : Nat → Int → String) : Decimal.Binary → String
  | .nan => "NaN"
  | .infinite negative => if negative then "-inf" else "inf"
  | .finite negative mantissa exponent =>
    if negative then "-" ++ magnitude mantissa exponent else magnitude mantissa exponent

/-- The shortest digits of a nonnegative double, laid out. -/
def laidOut (layout : Decimal.Layout) (mantissa : Nat) (exponent : Int) : String :=
  if mantissa = 0 then layout.zeroText else layout.text (Decimal.shortest mantissa exponent)

instance : NumberText Float where
  plain x := ofBinary (laidOut .plain) (.ofFloat x)
  literal x := ofBinary (laidOut .literal) (.ofFloat x)
  fixed places x := ofBinary (Decimal.fixed places) (.ofFloat x)

/-- A rational is written as a fraction, whatever the context. -/
def fraction (x : Rat) : String := toString x.num ++ "/" ++ toString x.den

instance : NumberText Rat where
  plain := fraction
  literal := fraction
  fixed _ := fraction

end NumberText

end RootFinding
