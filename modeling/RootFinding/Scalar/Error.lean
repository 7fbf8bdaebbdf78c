import RootFinding.Interval
import RootFinding.Scalar.Limits

/-!
# Failures of the scalar methods

Each constructor names one cause and carries the values that show it.
-/

namespace RootFinding.Scalar

/-- The parameters that single methods have besides the common ones. -/
inductive Parameter where
  /-- The distance between the first two points of the secant method. -/
  | firstOffset
  /-- The number of steps in which simple iteration looks for the steepest slope. -/
  | samples
deriving DecidableEq, Repr

namespace Parameter

/-- The name a parameter is reported by. -/
def name : Parameter → String
  | firstOffset => "first_offset"
  | samples => "samples"

/-- What a parameter has to satisfy. -/
def requirement : Parameter → String
  | firstOffset => "must be finite and positive"
  | samples => "must be at least 1"

end Parameter

/-- Why a scalar method fails. -/
inductive Error (α : Type) where
  /-- The bracket is not an interval. -/
  | invalidInterval (cause : IntervalError α)
  /-- The limits are not sensible. -/
  | invalidLimits (cause : LimitError)
  /-- The precision is not finite and positive. -/
  | invalidPrecision (precision : α)
  /-- A parameter of the method does not satisfy its requirement. -/
  | invalidParameter (parameter : Parameter)
  /-- The function has the same strict sign at both ends of the bracket. -/
  | noSignChange (left right leftValue rightValue : α)
  /-- A value that belongs to the point `x` is infinite or not a number. -/
  | nonFinite (x value : α)
  /-- The divisor at the point `x` is smaller than the limits allow. -/
  | degenerateDenominator (x value : α)
  /-- The ceiling was reached before the stopping rule held. -/
  | maxIters (iters : Nat)
  /-- The iteration left the bracket with either sign of its coefficient, last at `x`. -/
  | diverged (left right x : α)
deriving DecidableEq

/-- The text of a failure. -/
def Error.message {α : Type} [NumberText α] : Error α → String
  | .invalidInterval cause => "invalid interval: " ++ cause.message
  | .invalidLimits cause => "invalid config: " ++ cause.message
  | .invalidPrecision precision =>
    "precision must be finite and positive, got " ++ NumberText.plain precision
  | .invalidParameter parameter => "invalid " ++ parameter.name ++ ": " ++ parameter.requirement
  | .noSignChange left right leftValue rightValue =>
    "no sign change on [" ++ NumberText.plain left ++ ", " ++ NumberText.plain right ++
      "]: f(left)=" ++ NumberText.plain leftValue ++ ", f(right)=" ++ NumberText.plain rightValue
  | .nonFinite x value =>
    "non-finite value " ++ NumberText.plain value ++ " at x = " ++ NumberText.plain x
  | .degenerateDenominator x value =>
    "denominator " ++ NumberText.plain value ++ " at x = " ++ NumberText.plain x ++
      " is too close to zero"
  | .maxIters iters => "did not converge within " ++ toString iters ++ " iterations"
  | .diverged left right x =>
    "iteration left [" ++ NumberText.plain left ++ ", " ++ NumberText.plain right ++
      "] with both transforms (last x = " ++ NumberText.plain x ++ ")"

end RootFinding.Scalar
