import RootFinding.Number

/-!
# Limits of the scalar methods

Two limits hold for every method: a ceiling on the number of iterations, and the least magnitude a
divisor may have. `Limits.of` refuses limits without sense, so a method can rely on a positive
ceiling and on a finite nonnegative bound.
-/

namespace RootFinding.Scalar

open Number

/-- Why limits are refused. -/
inductive LimitError where
  /-- There would be no iteration. -/
  | maxIters
  /-- The bound on divisors is negative, infinite or not a number. -/
  | minDenominator
deriving DecidableEq, Repr

/-- The text of a refusal. -/
def LimitError.message : LimitError → String
  | .maxIters => "max_iters must be at least 1"
  | .minDenominator => "min_denominator must be finite and non-negative"

/-- The ceiling on the iterations and the least magnitude of a divisor. -/
structure Limits (α : Type) [Number α] where
  maxIters : Nat
  minDenominator : α
  maxIters_pos : 0 < maxIters
  finite : isFinite minDenominator = true
  nonneg : ¬minDenominator < zero

namespace Limits

variable {α : Type} [Number α]

/-- The limits, if they are sensible. -/
def of (maxIters : Nat) (minDenominator : α) : Except LimitError (Limits α) :=
  if iters : 0 < maxIters then
    if bound : isFinite minDenominator = true ∧ ¬minDenominator < zero then
      .ok ⟨maxIters, minDenominator, iters, bound.1, bound.2⟩
    else .error .minDenominator
  else .error .maxIters

/-- The ceiling when none is given. -/
def defaultMaxIters : Nat := 10000

/-- The bound on divisors when none is given. -/
def defaultMinDenominator : α := decimal 1 12

end Limits

end RootFinding.Scalar
