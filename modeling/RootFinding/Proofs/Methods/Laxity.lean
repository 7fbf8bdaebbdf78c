import RootFinding.Catalog
import RootFinding.Proofs.Run.Laxity
import RootFinding.Proofs.Scalar.Retry

/-!
# Laxer limits change no success

The six methods read their limits in two places: the ceiling of a pass, and the guard of a divisor.
So a call that succeeds, or fails for a reason that is not a limit, is the same call when the
ceiling is higher and the bound on divisors is lower (`laxer_limits_change_no_success`).

In simple iteration the limits are read once more: the result of a pass that reaches the ceiling is
an error, and not a second pass. A pass that is not cut short ends in the same way under laxer
limits, so the second pass follows in both calls or in neither.
-/

namespace RootFinding

open Number

variable {α τ : Type} [Number α]

/-! ## Scalar methods -/

namespace Scalar

/-- The failures that tell of a limit. -/
def Error.IsLimit : Error α → Prop
  | .maxIters _ => True
  | .degenerateDenominator _ _ => True
  | _ => False

variable {f : ScalarFunction α} {left right precision : α} {strict lax : Limits α}
  (lower : ∀ v : α, v < lax.minDenominator → v < strict.minDenominator)
  (le : strict.maxIters ≤ lax.maxIters)

section Steps

include lower

/-- A divisor that is large enough is large enough for a lower bound. -/
theorem divisor_sameUnless (x v : α) :
    SameUnless Error.IsLimit (Guard.divisor strict x v) (Guard.divisor lax x v) := by
  intro avoids
  have large : ¬abs v < strict.minDenominator := fun small =>
    avoids (.degenerateDenominator x v) (if_pos small) trivial
  rw [Guard.divisor, Guard.divisor, if_neg large, if_neg fun small => large (lower _ small)]

theorem Chord.scheme_sameUnless (s : Chord.State α) :
    SameUnless Error.IsLimit (Chord.scheme f precision strict s)
      (Chord.scheme f precision lax s) :=
  (divisor_sameUnless lower _ _).bind fun _ => .refl _

theorem Newton.scheme_sameUnless (x : α) :
    SameUnless Error.IsLimit (Newton.scheme f precision strict x)
      (Newton.scheme f precision lax x) :=
  .bind (.refl _) fun _ => .bind (.refl _) fun _ =>
    (divisor_sameUnless lower _ _).bind fun _ => .refl _

theorem Secant.scheme_sameUnless (s : Secant.Pair α) :
    SameUnless Error.IsLimit (Secant.scheme f precision strict s)
      (Secant.scheme f precision lax s) :=
  .bind (.refl _) fun _ => (divisor_sameUnless lower _ _).bind fun _ => .refl _

theorem SimpleIteration.start_sameUnless (samples : Nat) :
    SameUnless Error.IsLimit (SimpleIteration.start f left right precision samples strict)
      (SimpleIteration.start f left right precision samples lax) := by
  refine .bind (.refl _) fun interval => ?_
  dsimp only
  split
  · exact .refl _
  · exact .bind (.refl _) fun _ => (divisor_sameUnless lower _ _).bind fun _ => .refl _

end Steps

include le

theorem Bisection.solve_outlasts (o : Observer τ (Bisection.Row α)) :
    Run.Outlasts Error.IsLimit (Bisection.solve f left right precision strict o)
      (Bisection.solve f left right precision lax o) :=
  Scheme.call_outlasts (fun _ => .refl _) (.refl _) le (by trivial) _ o 1

include lower

theorem Chord.solve_outlasts (o : Observer τ (Chord.Row α)) :
    Run.Outlasts Error.IsLimit (Chord.solve f left right precision strict o)
      (Chord.solve f left right precision lax o) :=
  Scheme.call_outlasts (Chord.scheme_sameUnless lower) (.refl _) le (by trivial) _ o 1

theorem Newton.solve_outlasts (o : Observer τ (Newton.Row α)) :
    Run.Outlasts Error.IsLimit (Newton.solve f left right precision strict o)
      (Newton.solve f left right precision lax o) :=
  Scheme.call_outlasts (Newton.scheme_sameUnless lower) (.refl _) le (by trivial) _ o 1

theorem Secant.solve_outlasts (offset : α) (o : Observer τ (Secant.Row α)) :
    Run.Outlasts Error.IsLimit (Secant.solve f left right precision offset strict o)
      (Secant.solve f left right precision offset lax o) :=
  Scheme.call_outlasts (Secant.scheme_sameUnless lower) (.refl _) le (by trivial) _ o 1

end Scalar

/-! ## Simple iteration -/

namespace Scalar.SimpleIteration

variable {f : ScalarFunction α} {interval : Interval α} {left right precision : α}
  {strict lax : Limits α}

/-- A pass that is the last one and whose result does not tell of a limit is not cut short, and it
has the same result under other limits. -/
theorem lastResult_of_avoids {ending : Ending (Row α) (Error α) (Outcome α)}
    (h : Avoids Error.IsLimit (lastResult interval strict ending)) :
    ¬ending.IsCutShort Error.IsLimit ∧
      lastResult interval lax ending = lastResult interval strict ending := by
  cases ending with
  | halted trace iters outcome => cases outcome <;> exact ⟨id, rfl⟩
  | stopped trace iters => exact ⟨id, rfl⟩
  | exhausted => exact absurd trivial (h _ rfl)
  | failed cause => exact ⟨h cause rfl, rfl⟩

variable (le : strict.maxIters ≤ lax.maxIters)

include le

/-- A pass that is not cut short is the same pass under laxer limits. -/
theorem pass_eq_of_laxer {coefficient : α} {o : Observer τ (Row α)}
    (h : ¬(pass f interval precision strict coefficient o).ending.IsCutShort Error.IsLimit) :
    pass f interval precision lax coefficient o = pass f interval precision strict coefficient o :=
  Scheme.run_eq_of_laxer (fun _ => .refl _) le o 1 interval.left h

theorem solve_outlasts [NumberText α]
    (lower : ∀ v : α, v < lax.minDenominator → v < strict.minDenominator) (samples : Nat)
    (o : Observer τ (Row α)) :
    Run.Outlasts Error.IsLimit (solve f left right precision samples strict o)
      (solve f left right precision samples lax o) := by
  refine Run.outlasts_of_eq fun avoids => ?_
  have starts : SameUnless Error.IsLimit (start f left right precision samples strict)
      (start f left right precision samples lax) := start_sameUnless lower samples
  cases hstart : start f left right precision samples strict with
  | error cause =>
    have other : ¬cause.IsLimit := avoids cause (by rw [solve, hstart]; rfl)
    rw [solve, solve, hstart, starts.eq_error hstart other]
  | ok ready =>
    obtain ⟨interval, coefficient⟩ := ready
    have hstart' := starts.eq_ok hstart
    by_cases escape : ∃ trace iters x, (pass f interval precision strict coefficient o).ending =
        .halted trace iters (.escaped x)
    · -- the first pass is not cut short, and the second one makes the result
      obtain ⟨trace, iters, x, escaped⟩ := escape
      have whole : ¬(pass f interval precision strict coefficient o).ending.IsCutShort
          Error.IsLimit := by
        rw [escaped]
        exact id
      have first := pass_eq_of_laxer le whole
      rw [solve_of_escaped hstart rfl rfl escaped] at avoids ⊢
      obtain ⟨whole', result_eq⟩ := lastResult_of_avoids avoids
      rw [solve_of_escaped hstart' first (pass_eq_of_laxer le whole') escaped, result_eq]
    · push Not at escape
      rw [solve_of_not_escaped hstart rfl escape] at avoids ⊢
      obtain ⟨whole, result_eq⟩ := lastResult_of_avoids avoids
      have first := pass_eq_of_laxer le whole
      rw [solve_of_not_escaped hstart' first escape, result_eq]

end Scalar.SimpleIteration

/-! ## Fixed-point iteration -/

namespace Systems.FixedPoint

variable {system : EquationSystem α} {intervals : List (Interval α)} {point : Point α}
  {precision : α} {strict lax : Limits α}

/-- Of the limits, the checks before the first iteration read only the grid step. -/
theorem start_eq_of_gridStep_eq (same : lax.gridStep = strict.gridStep) :
    start system intervals point precision lax = start system intervals point precision strict := by
  rw [start, start, checkContraction_eq, checkContraction_eq, same]

theorem solve_outlasts (le : strict.maxIters ≤ lax.maxIters)
    (same : lax.gridStep = strict.gridStep) (o : Observer τ (Row α)) :
    Run.Outlasts Error.IsCeiling (solve system intervals point precision strict o)
      (solve system intervals point precision lax o) := by
  have starts : SameUnless Error.IsCeiling (start system intervals point precision strict)
      (start system intervals point precision lax) := fun _ => start_eq_of_gridStep_eq same
  exact Scheme.call_outlasts (fun _ => .refl _) starts (Nat.succ_le_succ le) (by trivial) _ o 0

end Systems.FixedPoint

/-- Calls that differ only in their limits, the second of which are at least as lax: if the first
call succeeds, the second one has the same solution; if it fails for another reason than the ceiling
or a small divisor, the second one fails in the same way. -/
theorem laxer_limits_change_no_success (f : ScalarFunction Float)
    (left right precision offset : Float) (samples : Nat) (strict lax : Scalar.Limits Float)
    (more : strict.maxIters ≤ lax.maxIters) (lower : lax.minDenominator ≤ strict.minDenominator)
    (system : EquationSystem Float) (intervals : List (Interval Float)) (point : Point Float)
    (bounds laxBounds : Systems.Limits Float) (moreBounds : bounds.maxIters ≤ laxBounds.maxIters)
    (sameGrid : laxBounds.gridStep = bounds.gridStep) :
    (∀ o : Observer τ (Scalar.Bisection.Row Float),
        Run.Outlasts Scalar.Error.IsLimit
          (Scalar.Bisection.solve f left right precision strict o)
          (Scalar.Bisection.solve f left right precision lax o)) ∧
      (∀ o : Observer τ (Scalar.Chord.Row Float),
        Run.Outlasts Scalar.Error.IsLimit
          (Scalar.Chord.solve f left right precision strict o)
          (Scalar.Chord.solve f left right precision lax o)) ∧
      (∀ o : Observer τ (Scalar.Newton.Row Float),
        Run.Outlasts Scalar.Error.IsLimit
          (Scalar.Newton.solve f left right precision strict o)
          (Scalar.Newton.solve f left right precision lax o)) ∧
      (∀ o : Observer τ (Scalar.Secant.Row Float),
        Run.Outlasts Scalar.Error.IsLimit
          (Scalar.Secant.solve f left right precision offset strict o)
          (Scalar.Secant.solve f left right precision offset lax o)) ∧
      (∀ o : Observer τ (Scalar.SimpleIteration.Row Float),
        Run.Outlasts Scalar.Error.IsLimit
          (Scalar.SimpleIteration.solve f left right precision samples strict o)
          (Scalar.SimpleIteration.solve f left right precision samples lax o)) ∧
      ∀ o : Observer τ (Systems.Row Float),
        Run.Outlasts Systems.Error.IsCeiling
          (Systems.FixedPoint.solve system intervals point precision bounds o)
          (Systems.FixedPoint.solve system intervals point precision laxBounds o) := by
  have less : ∀ v : Float, v < lax.minDenominator → v < strict.minDenominator := fun _ =>
    Double.lt_of_bound_le lax.finite strict.finite lower
  exact ⟨Scalar.Bisection.solve_outlasts more, Scalar.Chord.solve_outlasts less more,
    Scalar.Newton.solve_outlasts less more, Scalar.Secant.solve_outlasts less more offset,
    Scalar.SimpleIteration.solve_outlasts more less samples,
    Systems.FixedPoint.solve_outlasts moreBounds sameGrid⟩

/-- Two rows a pass are enough for the falling line, whose first pass escapes; a thousand rows and
no bound on divisors give the same solution. -/
theorem fallingLine_outlasts_two_rows :
    ∃ (strict lax : Scalar.Limits Float) (bounds : Systems.Limits Float),
      strict.maxIters = 2 ∧ lax.maxIters = 1000 ∧ strict.maxIters ≤ lax.maxIters ∧
      lax.minDenominator ≤ strict.minDenominator ∧ bounds.maxIters ≤ bounds.maxIters ∧
      Run.Outlasts Scalar.Error.IsLimit
        (Scalar.SimpleIteration.solve Scalar.SimpleIteration.fallingLine 0 4 1e-6 1 strict .silent)
        (Scalar.SimpleIteration.solve Scalar.SimpleIteration.fallingLine 0 4 1e-6 1 lax .silent) ∧
      (Scalar.SimpleIteration.solve Scalar.SimpleIteration.fallingLine 0 4 1e-6 1 lax
        .silent).result.toOption.map Solution.iters = some 2 := by
  let strict : Scalar.Limits Float := ⟨2, 1e-6, by decide, by decide, by decide⟩
  let lax : Scalar.Limits Float := ⟨1000, 0, by decide, by decide, by decide⟩
  let bounds : Systems.Limits Float := ⟨10, 0.1, by decide, by decide, by decide⟩
  have more : strict.maxIters ≤ lax.maxIters := by decide
  have lower : lax.minDenominator ≤ strict.minDenominator := by decide
  let system : EquationSystem Float :=
    Catalog.pairSystem "swap" "x_0 = x_1 / 2" "x_1 = x_0 / 2" (fun _ y => y / 2) fun x _ => x / 2
  exact ⟨strict, lax, bounds, rfl, rfl, more, lower, le_rfl,
    (laxer_limits_change_no_success Scalar.SimpleIteration.fallingLine 0 4 1e-6 0.1 1 strict lax
      more lower system [] [] bounds bounds le_rfl rfl).2.2.2.2.1 .silent,
    by decide +kernel⟩

end RootFinding
