import RootFinding.Proofs.Scalar.Failures
import RootFinding.Proofs.Systems.Failures

/-!
# What failures say

Whatever a call of one of the six methods fails with is true of the call. The scalar methods differ
in what they divide by: the divisor that a failure shows is the one of the textbook iteration after
as many steps as the observer has received events.
-/

namespace RootFinding

open Number

/-- Whatever a call fails with is true: the values that a failure carries are those of the call, of
the iteration under way or of the point at fault, and they show the fault. -/
theorem failures_are_true {τ : Type} (f : ScalarFunction Float)
    (left right precision offset : Float) (samples : Nat) (limits : Scalar.Limits Float)
    (system : EquationSystem Float) (intervals : List (Interval Float)) (point : Point Float)
    (bounds : Systems.Limits Float) :
    (∀ o : Observer τ (Scalar.Bisection.Row Float),
        Scalar.FailsTruly f left right precision limits (fun _ => False) (fun _ _ => False)
          (Scalar.Bisection.solve f left right precision limits o).result) ∧
      (∀ o : Observer τ (Scalar.Chord.Row Float),
        Scalar.FailsTruly f left right precision limits (fun _ => False)
          (fun x v =>
            let s := (Scalar.Chord.textbook f).state ⟨⟨left, right⟩, left⟩
              (Scalar.Chord.solve f left right precision limits o).events.length
            x = s.left ∧ v = f.eval s.right - f.eval s.left)
          (Scalar.Chord.solve f left right precision limits o).result) ∧
      (∀ o : Observer τ (Scalar.Newton.Row Float),
        Scalar.FailsTruly f left right precision limits (fun _ => False)
          (fun x v =>
            x = (Scalar.Newton.textbook f).state (Scalar.startingPoint f left right)
              (Scalar.Newton.solve f left right precision limits o).events.length ∧
              v = f.derivative x)
          (Scalar.Newton.solve f left right precision limits o).result) ∧
      (∀ o : Observer τ (Scalar.Secant.Row Float),
        Scalar.FailsTruly f left right precision limits
          (fun p => p = .firstOffset ∧ isTolerance offset = false)
          (fun x v =>
            let p := (Scalar.Secant.textbook f).state
              (Scalar.Secant.startingPoints f left right offset)
              (Scalar.Secant.solve f left right precision offset limits o).events.length
            x = p.x ∧ v = f.eval p.x - f.eval p.prev)
          (Scalar.Secant.solve f left right precision offset limits o).result) ∧
      (∀ o : Observer τ (Scalar.SimpleIteration.Row Float),
        Scalar.FailsTruly f left right precision limits
          (fun p => p = .samples ∧ samples = 0)
          (Scalar.SimpleIteration.IsDivisor f left right samples)
          (Scalar.SimpleIteration.solve f left right precision samples limits o).result) ∧
      ∀ o : Observer τ (Systems.Row Float),
        Systems.FailsTruly system intervals point precision bounds
          (Systems.FixedPoint.solve system intervals point precision bounds o).rows
          (Systems.FixedPoint.solve system intervals point precision bounds o).result :=
  ⟨Scalar.Bisection.solve_failsTruly, Scalar.Chord.solve_failsTruly,
    Scalar.Newton.solve_failsTruly, Scalar.Secant.solve_failsTruly,
    Scalar.SimpleIteration.solve_failsTruly, Systems.solve_failsTruly⟩

end RootFinding
