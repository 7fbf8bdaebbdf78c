import RootFinding.Interval
import RootFinding.Systems.Limits
import RootFinding.VectorFunction

/-!
# Failures of the system solver

Each constructor names one cause and carries the values that show it.
-/

namespace RootFinding.Systems

/-- Why the system solver fails. -/
inductive Error (α : Type) [Number α] where
  /-- The limits are not sensible. -/
  | invalidLimits (cause : LimitError)
  /-- The precision is not finite and positive. -/
  | invalidPrecision (precision : α)
  /-- The numbers of unknowns, intervals and start values differ. -/
  | dimensionMismatch (expected intervals start : Nat)
  /-- A start value lies outside its interval. -/
  | startOutsideInterval (variableIndex : Nat) (value : α) (interval : Interval α)
  /-- A function of the system refuses its arguments. -/
  | argument (cause : ArgumentError)
  /-- A side of the search box cannot be sampled. -/
  | grid (cause : IntervalError α)
  /-- The search box has too many grid points. -/
  | gridTooLarge (points : α) (limit : Nat)
  /-- At a grid point, the partial derivatives of a function are too large. -/
  | notContraction (functionIndex : Nat) (sum : α) (point : Point α)
  /-- A coordinate of an iterate lies outside its interval. -/
  | leftInterval (variableIndex : Nat) (value : α) (interval : Interval α)
  /-- The ceiling was reached before the stopping rule held. -/
  | maxIters (iters : Nat)

variable {α : Type} [Number α] [NumberText α]

/-- A point as text, with its coordinates as floating-point literals. -/
def pointText (x : Point α) : String :=
  "[" ++ ", ".intercalate (x.map NumberText.literal) ++ "]"

/-- The text of a failure. -/
def Error.message : Error α → String
  | .invalidLimits cause => "invalid config: " ++ cause.message
  | .invalidPrecision precision =>
    "precision must be finite and positive, got " ++ NumberText.plain precision
  | .dimensionMismatch expected intervals start =>
    "system has " ++ toString expected ++ " unknowns but got " ++ toString intervals ++
      " intervals and " ++ toString start ++ " start values"
  | .startOutsideInterval index value interval =>
    "start value " ++ NumberText.plain value ++ " of x_" ++ toString index ++ " is outside " ++
      interval.describe
  | .argument cause => cause.message
  | .grid cause => "cannot sample the search box: " ++ cause.message
  | .gridTooLarge points limit =>
    "usability grid would visit " ++ NumberText.plain points ++ " points, more than the limit " ++
      toString limit
  | .notContraction index sum point =>
    "sum of |partial derivatives| of f_" ++ toString index ++ " is " ++ NumberText.plain sum ++
      ", not <= 1, at " ++ pointText point
  | .leftInterval index value interval =>
    "iterated out of the search box: x_" ++ toString index ++ " = " ++ NumberText.plain value ++
      " is outside " ++ interval.describe
  | .maxIters iters => "did not converge within " ++ toString iters ++ " iterations"

end RootFinding.Systems
