import RootFinding.Number

/-!
# Derivative estimates

A derivative is estimated from three samples that lie a step apart, as the mean of the backward, the
central and the forward difference quotient.
-/

namespace RootFinding.Derivative

open Number

variable {α : Type} [Number α]

/-- The span of the samples when none is asked for. -/
def defaultPrecision : α := decimal 1 5

/-- The mean of the three difference quotients of samples that lie `step` apart. -/
def blend (left center right step : α) : α :=
  let backward := (center - left) / step
  let central := (right - left) / (two * step)
  let forward := (right - center) / step
  (backward + central + forward) / three

/-- The estimate of the derivative of `f` at `x` from samples that span `precision`. -/
def blended (f : α → α) (x precision : α) : α :=
  let step := precision / two
  blend (f (x - step)) (f x) (f (x + step)) step

end RootFinding.Derivative
