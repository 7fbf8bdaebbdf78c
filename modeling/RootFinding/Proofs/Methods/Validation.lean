import RootFinding.Proofs.Scalar.Validation
import RootFinding.Proofs.Systems.Validation

/-!
# Validation comes first

The inputs of all six methods are looked at before the function is. Where they are unfit, the call
is the same whatever the function is, and the observer is left alone. Doubles that are not finite
are among the unfit inputs: no bracket has them as bounds, no precision is one, and no interval
contains one.
-/

namespace RootFinding

open Number

/-- Where a double that is not finite stands, it is refused. -/
structure IsRefused (x : Float) : Prop where
  bound : ∀ y : Float, Interval.ofBounds x y = .error .nonFinite ∧
    Interval.ofBounds y x = .error .nonFinite
  tolerance : isTolerance x = false
  coordinate : ∀ interval : Interval Float, interval.contains x = false

theorem isRefused_of_not_finite {x : Float} (h : x.isNaN = true ∨ x.isInf = true) :
    IsRefused x := by
  have infinite : x.isFinite = false := Double.isFinite_eq_false_iff.2 h
  have not_finite : ¬Number.isFinite x = true := Bool.eq_false_iff.1 infinite
  refine ⟨?_, ?_, fun interval => Double.not_contains_of_not_isFinite interval infinite⟩
  · intro y
    exact ⟨Interval.ofBounds_eq_error_iff.2 (.inl ⟨fun both => not_finite both.1, rfl⟩),
      Interval.ofBounds_eq_error_iff.2 (.inl ⟨fun both => not_finite both.2, rfl⟩)⟩
  · rw [isTolerance, Bool.eq_false_iff.2 not_finite, Bool.false_and]

/-- Each method looks at its inputs before it looks at the function, and finds the fault that comes
first in a fixed order. What is not finite is refused everywhere. -/
theorem validation_comes_first {τ : Type} (left right precision offset : Float) (samples : Nat)
    (dimension : Nat) (intervals : List (Interval Float)) (point : Point Float) :
    Scalar.ValidatesFirst left right precision (fun _ => False)
        (fun f limits (o : Observer τ (Scalar.Bisection.Row Float)) =>
          Scalar.Bisection.solve f left right precision limits o) ∧
      Scalar.ValidatesFirst left right precision (fun _ => False)
        (fun f limits (o : Observer τ (Scalar.Chord.Row Float)) =>
          Scalar.Chord.solve f left right precision limits o) ∧
      Scalar.ValidatesFirst left right precision (fun _ => False)
        (fun f limits (o : Observer τ (Scalar.Newton.Row Float)) =>
          Scalar.Newton.solve f left right precision limits o) ∧
      Scalar.ValidatesFirst left right precision
        (fun p => p = .firstOffset ∧ isTolerance offset = false)
        (fun f limits (o : Observer τ (Scalar.Secant.Row Float)) =>
          Scalar.Secant.solve f left right precision offset limits o) ∧
      Scalar.ValidatesFirst left right precision (fun p => p = .samples ∧ samples = 0)
        (fun f limits (o : Observer τ (Scalar.SimpleIteration.Row Float)) =>
          Scalar.SimpleIteration.solve f left right precision samples limits o) ∧
      (∀ o : Observer τ (Systems.Row Float),
        Systems.FixedPoint.ValidatesFirst dimension intervals point precision o) ∧
      ∀ x : Float, x.isNaN = true ∨ x.isInf = true → IsRefused x :=
  ⟨Scalar.Bisection.solve_validatesFirst, Scalar.Chord.solve_validatesFirst,
    Scalar.Newton.solve_validatesFirst, Scalar.Secant.solve_validatesFirst,
    Scalar.SimpleIteration.solve_validatesFirst,
    Systems.FixedPoint.solve_validatesFirst dimension intervals point precision,
    fun _ => isRefused_of_not_finite⟩

end RootFinding
