import Mathlib.Algebra.Polynomial.Derivative
import Mathlib.Algebra.Polynomial.Eval.Degree
import Mathlib.Tactic.ComputeDegree
import RootFinding.Proofs.Rational.Differences

/-!
# Estimates of the derivatives of polynomials

Over the rational numbers the estimates are central differences, whose error is known for a
polynomial of low degree. The first derivative is exact up to degree two, and of a cubic it is too
large by a quarter of the leading coefficient times the square of the precision. The second
derivative is exact up to degree three (`estimates_are_central`).

A polynomial of degree three is written out by its coefficients (`IsPolynomial.eval_eq`), and so are
its two derivatives. The rest is a calculation with the four coefficients.
-/

namespace RootFinding

open Number Rational Polynomial

namespace ScalarFunction

/-- The values of the function are those of a polynomial. -/
def IsPolynomial (f : ScalarFunction ℚ) (P : ℚ[X]) : Prop := ∀ x, f.eval x = P.eval x

variable {f : ScalarFunction ℚ} {P : ℚ[X]}

/-! ## Cubics, by their coefficients -/

section Cubic

variable (degree : P.natDegree ≤ 3)

include degree

theorem IsPolynomial.eval_eq (h : f.IsPolynomial P) (x : ℚ) :
    f.eval x = P.coeff 0 + P.coeff 1 * x + P.coeff 2 * x ^ 2 + P.coeff 3 * x ^ 3 := by
  rw [h, eval_eq_sum_range' (Nat.lt_succ_of_le degree)]
  simp [Finset.sum_range_succ]

theorem eval_derivative_eq (x : ℚ) :
    P.derivative.eval x = P.coeff 1 + 2 * P.coeff 2 * x + 3 * P.coeff 3 * x ^ 2 := by
  have degree' : P.derivative.natDegree < 3 := by
    have := natDegree_derivative_le P
    omega
  rw [eval_eq_sum_range' degree']
  simp only [Finset.sum_range_succ, Finset.sum_range_zero, coeff_derivative]
  push_cast
  ring

theorem eval_derivative_derivative_eq (x : ℚ) :
    P.derivative.derivative.eval x = 2 * P.coeff 2 + 6 * P.coeff 3 * x := by
  have degree' : P.derivative.derivative.natDegree < 2 := by
    have := natDegree_derivative_le P
    have := natDegree_derivative_le P.derivative
    omega
  rw [eval_eq_sum_range' degree']
  simp only [Finset.sum_range_succ, Finset.sum_range_zero, coeff_derivative]
  push_cast
  ring

end Cubic

/-! ## The estimates -/

/-- What the estimates of the derivatives of `f` at `x` are. -/
structure IsEstimatedCentrally (f : ScalarFunction ℚ) (x precision : ℚ) : Prop where
  /-- The first derivative is a central difference quotient over the precision. -/
  first : f.derivative x precision =
    (f.eval (x + precision / 2) - f.eval (x - precision / 2)) / precision
  /-- The second derivative is the second central difference over the square of the precision. -/
  second : f.secondDerivative x precision =
    (f.eval (x + precision) - 2 * f.eval x + f.eval (x - precision)) / precision ^ 2
  /-- Up to degree two, the first derivative is exact. -/
  first_exact : ∀ P : ℚ[X], f.IsPolynomial P → P.natDegree ≤ 2 →
    f.derivative x precision = P.derivative.eval x
  /-- Up to degree three, the second derivative is exact. -/
  second_exact : ∀ P : ℚ[X], f.IsPolynomial P → P.natDegree ≤ 3 →
    f.secondDerivative x precision = P.derivative.derivative.eval x
  /-- A cubic term makes the first derivative too large. -/
  overshoot : ∀ P : ℚ[X], f.IsPolynomial P → P.natDegree ≤ 3 →
    f.derivative x precision = P.derivative.eval x + P.coeff 3 * precision ^ 2 / 4

theorem derivative_of_cubic (h : f.IsPolynomial P) (degree : P.natDegree ≤ 3) (x : ℚ) {p : ℚ}
    (nonzero : p ≠ 0) : f.derivative x p = P.derivative.eval x + P.coeff 3 * p ^ 2 / 4 := by
  rw [derivative, Derivative.blended_eq_central _ _ nonzero, h.eval_eq degree, h.eval_eq degree,
    eval_derivative_eq degree]
  field_simp
  ring

theorem secondDerivative_of_cubic (h : f.IsPolynomial P) (degree : P.natDegree ≤ 3) (x : ℚ) {p : ℚ}
    (nonzero : p ≠ 0) : f.secondDerivative x p = P.derivative.derivative.eval x := by
  rw [secondDerivative_eq_central _ _ nonzero, h.eval_eq degree, h.eval_eq degree,
    h.eval_eq degree, eval_derivative_derivative_eq degree]
  field_simp
  ring

/-- For every function, every point and every precision other than zero, the estimates are central
differences. -/
theorem estimates_are_central (f : ScalarFunction ℚ) (x p : ℚ) (nonzero : p ≠ 0) :
    f.IsEstimatedCentrally x p where
  first := Derivative.blended_eq_central f.eval x nonzero
  second := f.secondDerivative_eq_central x nonzero
  first_exact P h degree := by
    have quadratic : P.coeff 3 = 0 := coeff_eq_zero_of_natDegree_lt (Nat.lt_succ_of_le degree)
    rw [derivative_of_cubic h (degree.trans (Nat.le_succ 2)) x nonzero, quadratic]
    ring
  second_exact P h degree := secondDerivative_of_cubic h degree x nonzero
  overshoot P h degree := derivative_of_cubic h degree x nonzero

/-- A cubic with two turning points. -/
def wave : ScalarFunction ℚ where
  label := "x^3 - 2x"
  eval x := x ^ 3 - 2 * x

/-- At one, where its slope is one, a precision of one fifth makes the estimate too large by one
hundredth; the second derivative is exact. -/
theorem wave_estimated_centrally :
    (1 / 5 : ℚ) ≠ 0 ∧ wave.IsPolynomial (X ^ 3 - 2 * X) ∧ wave.IsEstimatedCentrally 1 (1 / 5) ∧
      wave.derivative 1 (1 / 5) = 101 / 100 ∧ wave.secondDerivative 1 (1 / 5) = 6 := by
  have nonzero : (1 / 5 : ℚ) ≠ 0 := by norm_num
  have polynomial : wave.IsPolynomial (X ^ 3 - 2 * X) := fun x => by simp [wave]
  have degree : (X ^ 3 - 2 * X : ℚ[X]).natDegree ≤ 3 := by compute_degree
  have central := estimates_are_central wave 1 (1 / 5) nonzero
  refine ⟨nonzero, polynomial, central, ?_, ?_⟩
  · rw [central.overshoot _ polynomial degree]
    norm_num [coeff_X]
  · rw [central.second_exact _ polynomial degree]
    norm_num

end ScalarFunction

end RootFinding
