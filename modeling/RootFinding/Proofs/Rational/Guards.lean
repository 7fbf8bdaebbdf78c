import RootFinding.Proofs.Methods.Steps
import RootFinding.Proofs.Rational.Arithmetic

/-!
# Guards on rational numbers

Every rational number is finite. So the guards of a value and of a derivative let everything pass,
and what is left of the others is a comparison.
-/

namespace RootFinding

open Number Rational

/-- Any two rational numbers in order are the ends of an interval. -/
def Interval.between {left right : ℚ} (order : left < right) : Interval ℚ :=
  ⟨left, right, rfl, rfl, order⟩

namespace Scalar

variable {f : ScalarFunction ℚ} {left right precision : ℚ} {limits : Limits ℚ}

namespace Guard

@[simp] theorem finite_eq (x v : ℚ) : finite x v = .ok v := rfl

@[simp] theorem value_eq (f : ScalarFunction ℚ) (x : ℚ) : value f x = .ok (f.eval x) := rfl

@[simp] theorem derivative_eq (f : ScalarFunction ℚ) (x : ℚ) :
    derivative f x = .ok (f.derivative x) := rfl

theorem divisor_of_le {x v : ℚ} (large : limits.minDenominator ≤ |v|) :
    divisor limits x v = .ok v :=
  divisor_eq_ok.2 ⟨not_lt.2 (abs_eq v ▸ large), rfl⟩

theorem inputs_of_lt (order : left < right) (positive : 0 < precision) :
    inputs left right precision = .ok (.between order) :=
  inputs_eq_ok.2 ⟨Interval.ofBounds_bounds (.between order), isTolerance_iff.2 positive⟩

end Guard

/-- A bracket is accepted if the product of the values at its ends is not positive. -/
theorem Bracket.of_of_mul_nonpos (order : left < right) (positive : 0 < precision)
    (change : f.eval left * f.eval right ≤ 0) :
    Bracket.of f left right precision = .ok ⟨left, right, f.eval left, f.eval right⟩ :=
  Bracket.of_eq_ok.2 ⟨.between order, _, _, Guard.inputs_of_lt order positive, rfl, rfl,
    not_lt.2 change, rfl⟩

end Scalar

end RootFinding
