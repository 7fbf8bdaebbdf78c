import Mathlib.Tactic.FieldSimp
import Mathlib.Tactic.NormNum
import Mathlib.Tactic.Ring
import RootFinding.Proofs.Rational.Arithmetic
import RootFinding.ScalarFunction

/-!
# Difference quotients over the rational numbers

Without rounding, the mean of the three difference quotients is the central one
(`Derivative.blended_eq_central`), and the estimate of the second derivative is the second central
difference (`ScalarFunction.secondDerivative_eq_central`). So the estimates of the derivatives of an
affine function are exact.
-/

namespace RootFinding

open Number Rational

/-- The backward and the forward quotient have the central one as their mean. -/
theorem Derivative.blended_eq_central (f : ℚ → ℚ) (x : ℚ) {p : ℚ} (nonzero : p ≠ 0) :
    blended f x p = (f (x + p / 2) - f (x - p / 2)) / p := by
  simp only [blended, blend, two_eq, three_eq]
  field_simp
  ring

theorem Derivative.defaultPrecision_ne_zero : (defaultPrecision : ℚ) ≠ 0 := by decide +kernel

namespace ScalarFunction

/-- The two estimates of the first derivative lie a precision apart, so the value in the middle is
taken twice. -/
theorem secondDerivative_eq_central (f : ScalarFunction ℚ) (x : ℚ) {p : ℚ} (nonzero : p ≠ 0) :
    f.secondDerivative x p = (f.eval (x + p) - 2 * f.eval x + f.eval (x - p)) / p ^ 2 := by
  have right : x + p / 2 + p / 2 = x + p := by ring
  have middle : x + p / 2 - p / 2 = x := by ring
  have middle' : x - p / 2 + p / 2 = x := by ring
  have left : x - p / 2 - p / 2 = x - p := by ring
  simp only [secondDerivative, derivative, Derivative.blended_eq_central _ _ nonzero]
  rw [right, middle, middle', left]
  field_simp
  ring

/-- The function is `x ↦ a x + b`. -/
def IsAffine (f : ScalarFunction ℚ) (a b : ℚ) : Prop := ∀ x, f.eval x = a * x + b

namespace IsAffine

variable {f : ScalarFunction ℚ} {a b : ℚ}

theorem eval_root (h : f.IsAffine a b) (slope : a ≠ 0) : f.eval (-b / a) = 0 := by
  rw [h, mul_div_cancel₀ _ slope, neg_add_cancel]

theorem sub_eq (h : f.IsAffine a b) (x y : ℚ) : f.eval x - f.eval y = a * (x - y) := by
  rw [h, h, add_sub_add_right_eq_sub, mul_sub]

theorem derivative_eq (h : f.IsAffine a b) (x : ℚ) : f.derivative x = a := by
  have nonzero := Derivative.defaultPrecision_ne_zero
  rw [derivative, Derivative.blended_eq_central _ _ nonzero, h.sub_eq, div_eq_iff nonzero]
  ring

theorem secondDerivative_eq (h : f.IsAffine a b) (x : ℚ) : f.secondDerivative x = 0 := by
  rw [secondDerivative, Derivative.blended_eq_central _ _ Derivative.defaultPrecision_ne_zero,
    h.derivative_eq, h.derivative_eq, sub_self, zero_div]

/-- The values at the ends of a bracket around the root do not have one common sign. -/
theorem mul_nonpos (h : f.IsAffine a b) (slope : a ≠ 0) {left right : ℚ} (above : left ≤ -b / a)
    (below : -b / a ≤ right) : f.eval left * f.eval right ≤ 0 := by
  have product : f.eval left * f.eval right = a ^ 2 * ((left - -b / a) * (right - -b / a)) := by
    rw [h, h]
    field_simp
    ring
  rw [product]
  exact mul_nonpos_of_nonneg_of_nonpos (sq_nonneg a)
    (mul_nonpos_of_nonpos_of_nonneg (sub_nonpos.2 above) (sub_nonneg.2 below))

end IsAffine

end ScalarFunction

end RootFinding
