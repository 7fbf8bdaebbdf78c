import RootFinding.Number

/-!
# Limits of the system solver

The ceiling on the number of iterations, and the distance between the points at which the
contraction condition is looked at. `Limits.of` refuses limits without sense.
-/

namespace RootFinding.Systems

open Number

variable {α : Type} [Number α]

/-- The longest distance between grid points. -/
def maxGridStep : α := decimal 1 1

/-- Why limits are refused. -/
inductive LimitError where
  /-- There would be no iteration. -/
  | maxIters
  /-- The grid step is not positive, not finite or too long. -/
  | gridStep
deriving DecidableEq, Repr

/-- The text of a refusal. -/
def LimitError.message : LimitError → String
  | .maxIters => "max_iters must be at least 1"
  | .gridStep => "grid_step must be finite, positive, and at most 0.1"

/-- The ceiling on the iterations and the grid step. -/
structure Limits (α : Type) [Number α] where
  maxIters : Nat
  gridStep : α
  maxIters_pos : 0 < maxIters
  tolerance : isTolerance gridStep = true
  le_max : gridStep ≤ maxGridStep

namespace Limits

/-- The limits, if they are sensible. -/
def of (maxIters : Nat) (gridStep : α) : Except LimitError (Limits α) :=
  if iters : 0 < maxIters then
    if bound : isTolerance gridStep = true ∧ gridStep ≤ maxGridStep then
      .ok ⟨maxIters, gridStep, iters, bound.1, bound.2⟩
    else .error .gridStep
  else .error .maxIters

/-- The ceiling when none is given. -/
def defaultMaxIters : Nat := 10000

/-- The grid step when none is given. -/
def defaultGridStep : α := decimal 1 2

end Limits

end RootFinding.Systems
