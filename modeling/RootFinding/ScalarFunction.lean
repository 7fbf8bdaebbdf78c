import RootFinding.Derivative
import RootFinding.Interval
import RootFinding.Text.Quoted

/-!
# Functions of one variable

A `ScalarFunction` is a function with a label. Its derivatives are estimates from samples, and
`hasOneRoot` is a sufficient test, not a necessary one: a negative answer says nothing.
-/

namespace RootFinding

open Number

/-- A function of one variable and the label it is shown by. -/
structure ScalarFunction (α : Type) where
  label : String
  eval : α → α

namespace ScalarFunction

variable {α : Type} [Number α]

/-- The estimate of the first derivative. -/
def derivative (f : ScalarFunction α) (x : α) (precision : α := Derivative.defaultPrecision) : α :=
  Derivative.blended f.eval x precision

/-- The estimate of the second derivative: the same scheme, applied to estimates of the first. -/
def secondDerivative (f : ScalarFunction α) (x : α)
    (precision : α := Derivative.defaultPrecision) : α :=
  Derivative.blended (fun t => f.derivative t precision) x precision

/-- The number of steps of `hasOneRoot` when none is given. -/
def defaultSplits : Nat := 1000

/-- The longest step `hasOneRoot` accepts. -/
def maxSplitStep : α := decimal 5 1

/-- Whether `f` certainly has one root between `left` and `right`: its values there do not have one
common sign, and at each of `splits` equal steps the derivative does not have the sign opposite to
the one it has at `left`. -/
def hasOneRoot (f : ScalarFunction α) (left right : α) (splits : Nat := defaultSplits) :
    Except (IntervalError α) Bool := do
  let interval ← Interval.ofBounds left right
  let step := interval.width / ofNat splits
  if maxSplitStep < step then
    throw (.tooCoarse step maxSplitStep)
  if zero < f.eval left * f.eval right then
    return false
  let initial := f.derivative left
  return splits.all fun i _ =>
    decide (zero ≤ f.derivative (interval.sample step (i + 1)) * initial)

/-- The function as text: its label. -/
def describe (f : ScalarFunction α) : String :=
  "ScalarFunction \x7b label: " ++ Text.quoted f.label ++ ", .. \x7d"

end ScalarFunction

end RootFinding
