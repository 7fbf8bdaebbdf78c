import RootFinding.Proofs.Double.Extended
import RootFinding.Proofs.Double.Operations
import RootFinding.Proofs.Methods.Counting
import RootFinding.Proofs.Methods.Tightening
import RootFinding.Proofs.Run.LastStop
import RootFinding.Proofs.Systems.Orbit

/-!
# Stopping at short steps

An observer that asks to stop at steps shorter than a tolerance does not change the work of a method
if the tolerance is at most the precision: the method ends at such a row anyway. In the scalar
methods the step of a row is one of the quantities that the stopping rule compares with the
precision.

The step of the system solver is the largest change, and its rule looks at each change. The largest
one is at least as large as each because all changes are numbers: the points lie in the box, so
their coordinates are finite. A difference of two of them may be infinite, but it is a number.
-/

namespace RootFinding

open Number

/-- The row has a step, and it is shorter than the tolerance. -/
def isShort {ρ ω : Type} [TraceRow ρ Float ω] (tolerance : Float) (row : ρ) : Bool :=
  (TraceRow.step row).any fun x => decide (x < tolerance)

/-- A method goes on from no short step if its test succeeds at all steps that are shorter than the
precision. -/
theorem isShort_eq_false_of_next {ρ ω σ : Type} [TraceRow ρ Float ω]
    {precision tolerance step : Float} {row : ρ} {test : Bool} {s t : σ}
    (le : tolerance ≤ precision) (hstep : TraceRow.step row = some step)
    (final : step < precision → test = true)
    (verdict : Verdict.next s = if test then .halt () else .next t) :
    isShort tolerance row = false := by
  have long : ¬step < tolerance := by
    intro short
    rw [final (Double.lt_of_lt_of_le short le)] at verdict
    cases verdict
  simp [isShort, hstep, long]

/-! ## Scalar methods -/

namespace Scalar

variable {f : ScalarFunction Float} {precision tolerance : Float} {limits : Limits Float}
  (le : tolerance ≤ precision)

include le

theorem Bisection.goes_on {s t : Bracket Float} {row : Bisection.Row Float}
    (h : Bisection.scheme f precision s = .ok (row, .next t)) : isShort tolerance row = false := by
  obtain ⟨fX, -, -, verdict⟩ := Bisection.scheme_eq_ok.1 h
  exact isShort_eq_false_of_next le rfl
    (fun short => (Bisection.isFinal_iff precision).2 (.inl short)) verdict

theorem Chord.goes_on {s t : Chord.State Float} {row : Chord.Row Float}
    (h : Chord.scheme f precision limits s = .ok (row, .next t)) :
    isShort tolerance row = false := by
  obtain ⟨slope, fX, -, -, -, verdict⟩ := Chord.scheme_eq_ok.1 h
  exact isShort_eq_false_of_next le rfl
    (fun short => (Chord.isFinal_iff precision).2 (.inr (.inl short))) verdict

theorem Newton.goes_on {x t : Float} {row : Newton.Row Float}
    (h : Newton.scheme f precision limits x = .ok (row, .next t)) :
    isShort tolerance row = false := by
  obtain ⟨fX, slope, derivative, next, -, -, -, -, -, verdict⟩ := Newton.scheme_eq_ok.1 h
  exact isShort_eq_false_of_next le rfl
    (fun short => (Newton.isFinal_iff precision).2 (.inl short)) verdict

theorem Secant.goes_on {s t : Secant.Pair Float} {row : Secant.Row Float}
    (h : Secant.scheme f precision limits s = .ok (row, .next t)) :
    isShort tolerance row = false := by
  obtain ⟨fX, slope, next, fNext, -, -, -, -, -, verdict⟩ := Secant.scheme_eq_ok.1 h
  exact isShort_eq_false_of_next le rfl
    (fun short => (Secant.isFinal_iff precision).2 (.inl short)) verdict

end Scalar

/-! ## Fixed-point iteration -/

namespace Systems.FixedPoint

variable {system : EquationSystem Float} {intervals : List (Interval Float)}
  {precision tolerance : Float}

/-- The changes between two points with finite coordinates are numbers. -/
theorem isNaN_of_mem_changesBetween {x y : Point Float} (hx : ∀ value ∈ x, value.isFinite = true)
    (hy : ∀ value ∈ y, value.isFinite = true) :
    ∀ change ∈ changesBetween x y, change.isNaN = false := by
  intro change mem
  rw [changesBetween, ← List.map_uncurry_zip_eq_zipWith, List.mem_map] at mem
  obtain ⟨⟨old, new⟩, pair, rfl⟩ := mem
  obtain ⟨old_mem, new_mem⟩ := List.of_mem_zip pair
  have difference := Double.isRounding_sub (hx old old_mem) (hy new new_mem)
  exact (Double.isNaN_abs (old - new)).trans difference.isNaN

/-- Numbers whose running maximum is less than the precision are all at most the precision. -/
theorem isSettled_of_foldl_lt {changes : List Float}
    (numbers : ∀ change ∈ changes, change.isNaN = false)
    (below : changes.foldl maxWith zero < precision) : isSettled precision changes = true := by
  refine isSettled_iff.2 fun change mem => Double.le_of_lt ?_
  have le := Double.le_foldl_maxWith rfl numbers change (List.mem_cons_of_mem zero mem)
  exact Double.lt_of_le_of_lt le below

theorem goes_on (le : tolerance ≤ precision) {s t : State Float} {row : Row Float}
    (box : InBox system intervals s.point)
    (h : scheme system intervals precision s = .ok (row, .next t)) :
    isShort tolerance row = false := by
  have next_box := inBox_of_step box h
  cases s with
  | seed start =>
    obtain ⟨rfl, -⟩ := scheme_seed_eq_ok.1 h
    rfl
  | iterate point =>
    obtain ⟨next, -, -, rfl, verdict⟩ := scheme_iterate_eq_ok.1 h
    have numbers :=
      isNaN_of_mem_changesBetween (isFinite_of_inBox box) (isFinite_of_inBox next_box)
    exact isShort_eq_false_of_next le rfl (isSettled_of_foldl_lt numbers) verdict

theorem solve_sameWork (le : tolerance ≤ precision) {point : Point Float}
    (limits : Limits Float) :
    Run.SameWork (isShort tolerance) (solve system intervals point precision limits .silent)
      (solve system intervals point precision limits (.stepBelow tolerance)) := by
  -- the invariant is that the point lies in the box
  have accepted {s : State Float} (h : start system intervals point precision limits = .ok s) :
      InBox system intervals s.point := by
    obtain ⟨inputs, -, rfl⟩ := start_eq_ok.1 h
    exact (checkInputs_eq_ok_iff.1 inputs).2
  refine Scheme.call_sameWork accepted ?_ Observer.isPassive_silent _ _ _
  intro s row t box h
  exact ⟨inBox_next box h, goes_on le box h⟩

end Systems.FixedPoint

/-- Who stops at steps shorter than a tolerance that is at most the precision does not change the
work of a method. Whatever the tolerance is, the start point of the system solver is no step, so no
call is stopped before the first iteration. -/
theorem short_steps_change_no_work {precision tolerance : Float} (le : tolerance ≤ precision)
    (f : ScalarFunction Float) (left right offset : Float) (limits : Scalar.Limits Float)
    (system : EquationSystem Float) (intervals : List (Interval Float)) (point : Point Float)
    (bounds : Systems.Limits Float) :
    Run.SameWork (isShort tolerance)
        (Scalar.Bisection.solve f left right precision limits .silent)
        (Scalar.Bisection.solve f left right precision limits (.stepBelow tolerance)) ∧
      Run.SameWork (isShort tolerance)
        (Scalar.Chord.solve f left right precision limits .silent)
        (Scalar.Chord.solve f left right precision limits (.stepBelow tolerance)) ∧
      Run.SameWork (isShort tolerance)
        (Scalar.Newton.solve f left right precision limits .silent)
        (Scalar.Newton.solve f left right precision limits (.stepBelow tolerance)) ∧
      Run.SameWork (isShort tolerance)
        (Scalar.Secant.solve f left right precision offset limits .silent)
        (Scalar.Secant.solve f left right precision offset limits (.stepBelow tolerance)) ∧
      Run.SameWork (isShort tolerance)
        (Systems.FixedPoint.solve system intervals point precision bounds .silent)
        (Systems.FixedPoint.solve system intervals point precision bounds
          (.stepBelow tolerance)) ∧
      ∀ (tolerance' : Float) (solution : Solution (Systems.Row Float)),
        (Systems.FixedPoint.solve system intervals point precision bounds
          (.stepBelow tolerance')).result = .ok solution → 0 < solution.iters := by
  refine ⟨?_, ?_, ?_, ?_, ?_, ?_⟩
  · exact Scheme.call_sameWork_of_next (Scalar.Bisection.goes_on le) Observer.isPassive_silent
      _ _ _ _
  · exact Scheme.call_sameWork_of_next (Scalar.Chord.goes_on le) Observer.isPassive_silent
      _ _ _ _
  · exact Scheme.call_sameWork_of_next (Scalar.Newton.goes_on le) Observer.isPassive_silent
      _ _ _ _
  · exact Scheme.call_sameWork_of_next (Scalar.Secant.goes_on le) Observer.isPassive_silent
      _ _ _ _
  · exact Systems.FixedPoint.solve_sameWork le bounds
  · intro tolerance' solution success
    refine Nat.pos_of_ne_zero fun none_made => ?_
    cases (Systems.FixedPoint.iters_eq_zero_iff success).1 none_made

/-- With a tolerance that is the precision, the observer stops two methods in their last rows. -/
theorem equal_tolerance_stops_parabola_and_halving :
    ∃ (limits : Scalar.Limits Float) (bounds : Systems.Limits Float), (0.065 : Float) ≤ 0.065 ∧
      Run.SameWork (isShort 0.065)
        (Scalar.Bisection.solve parabola 0 2 0.065 limits .silent)
        (Scalar.Bisection.solve parabola 0 2 0.065 limits (.stepBelow 0.065)) ∧
      (Scalar.Bisection.solve parabola 0 2 0.065 limits
        (.stepBelow 0.065)).result.toOption.map Solution.status = some .stoppedByObserver ∧
      Run.SameWork (isShort 0.065)
        (Systems.FixedPoint.solve halving [aroundZero] [0.25] 0.065 bounds .silent)
        (Systems.FixedPoint.solve halving [aroundZero] [0.25] 0.065 bounds (.stepBelow 0.065)) ∧
      (Systems.FixedPoint.solve halving [aroundZero] [0.25] 0.065 bounds
        (.stepBelow 0.065)).result.toOption.map Solution.status = some .stoppedByObserver := by
  have le : (0.065 : Float) ≤ 0.065 := by decide
  obtain ⟨bisection, -, -, -, system, -⟩ := short_steps_change_no_work le parabola 0 2 0.1
    ⟨10, 1e-12, by decide, by decide, by decide⟩ halving [aroundZero] [0.25]
    ⟨10, 0.1, by decide, by decide, by decide⟩
  exact ⟨_, _, le, bisection, by decide +kernel, system, by decide +kernel⟩

end RootFinding
