import RootFinding.Scalar.Error
import RootFinding.ScalarFunction

/-!
# Guarded evaluation

The scalar methods look at a function only through the operations of this module. Each of them
returns a value that is fit for the next formula, or the cause of failure with the values at fault.
-/

namespace RootFinding.Scalar.Guard

open Number

variable {α : Type} [Number α]

/-- A value that belongs to the point `x`, if it is finite. -/
def finite (x value : α) : Except (Error α) α :=
  if isFinite value then .ok value else .error (.nonFinite x value)

/-- The value of `f` at `x`, if it is finite. -/
def value (f : ScalarFunction α) (x : α) : Except (Error α) α := finite x (f.eval x)

/-- The derivative of `f` at `x`, if it is finite. -/
def derivative (f : ScalarFunction α) (x : α) : Except (Error α) α := finite x (f.derivative x)

/-- A divisor that belongs to the point `x`, if it is not too small. -/
def divisor (limits : Limits α) (x value : α) : Except (Error α) α :=
  if abs value < limits.minDenominator then .error (.degenerateDenominator x value) else .ok value

/-- The bracket as an interval, and the precision checked. A bad bracket is reported first. -/
def inputs (left right precision : α) : Except (Error α) (Interval α) :=
  match Interval.ofBounds left right with
  | .error cause => .error (.invalidInterval cause)
  | .ok interval =>
    if isTolerance precision then .ok interval else .error (.invalidPrecision precision)

/-- Refuses values at the ends of a bracket whose product is positive. -/
def signChange (interval : Interval α) (leftValue rightValue : α) : Except (Error α) Unit :=
  if zero < leftValue * rightValue then
    .error (.noSignChange interval.left interval.right leftValue rightValue)
  else .ok ()

/-- The two ends of an interval. -/
inductive Side where
  | left
  | right
deriving DecidableEq, Repr

/-- The endpoint on a side. -/
def Side.endpoint (side : Side) (interval : Interval α) : α :=
  match side with
  | .left => interval.left
  | .right => interval.right

/-- The side on which Newton's method starts: the left one if the function and its second derivative
have the same sign there, and otherwise the right one. From the chosen end of a convex piece the
iterates approach the root from one side. -/
def startingSide (f : ScalarFunction α) (interval : Interval α) : Except (Error α) Side := do
  let curvature ← finite interval.left (f.secondDerivative interval.left)
  let leftValue ← value f interval.left
  return if zero < leftValue * curvature then .left else .right

end RootFinding.Scalar.Guard
