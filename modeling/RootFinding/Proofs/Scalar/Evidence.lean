import RootFinding.Proofs.Methods.Stopping
import RootFinding.Proofs.Scalar.Textbook

/-!
# What a converged call rests on

The stopping rules of the chord method and of Newton's method look at fields of the last row. Here
the fields are traced back to the function and to the points before: what was small when the call
stopped, and at which point.

* The chord method compares a crossing with the one before, except the first one, which is compared
  with the left end of the bracket (`chord_converged_cases`).
* Newton's method looks at the value at a point, but answers with the next point, where it has not
  evaluated the function (`newton_converged_cases`).

So there are functions for which the call stops far from the root: `flatCubic` for the chord method,
and `shallowCubic` for Newton's method.

## Shape of the arguments

The rows are those of a recurrence, so the last one is the row of a state that the recurrence has
come to (`Run.Unrolls.exists_state`). What the stopping rule says of its fields is then said of the
state, and the cases of the chord method are whether that state is the first one.
-/

namespace RootFinding.Scalar

open Number

variable {α τ : Type} [Number α]

/-- A result of which a test holds is a solution. -/
theorem exists_solution_of_any {ε ρ : Type} {result : Except ε (Solution ρ)}
    {test : Solution ρ → Bool} (h : result.toOption.any test = true) :
    ∃ solution, result = .ok solution ∧ test solution = true := by
  cases result with
  | error cause => cases h
  | ok solution => exact ⟨solution, rfl, h⟩

/-! ## The chord method -/

/-- The last two crossings of a trace are less than `precision` apart. -/
def Chord.IsSettled (precision : α) (t : Trace (Chord.Row α)) : Prop :=
  ∃ before row, t.rows = before ++ [row, t.last] ∧ abs (row.x - t.last.x) < precision

/-- After the first row, the change is the distance from the crossing before. -/
theorem Chord.change_succ (f : ScalarFunction α) (e : Chord.Ends α) (n : Nat) :
    ((textbook f).row ((textbook f).state e (n + 1))).change =
      abs (((textbook f).row ((textbook f).state e n)).x -
        ((textbook f).row ((textbook f).state e (n + 1))).x) := rfl

/-- If the chord method converges, then the last bracket is narrower than the precision, or the
value at the last crossing is smaller, or the last two crossings are less than it apart, or there is
one crossing only, which is less than it away from the left end. -/
theorem chord_converged_cases (f : ScalarFunction α) (left right precision : α) (limits : Limits α)
    (o : Observer τ (Chord.Row α)) {solution : Solution (Chord.Row α)}
    (h : (Chord.solve f left right precision limits o).result = .ok solution)
    (converged : solution.status = .converged) :
    solution.trace.last.right - solution.trace.last.left < precision ∨
      abs solution.trace.last.fX < precision ∨
      Chord.IsSettled precision solution.trace ∨
      (solution.trace.rows = [solution.trace.last] ∧
        abs (left - solution.trace.last.x) < precision) := by
  have unrolls : (Chord.solve f left right precision limits o).Unrolls (Chord.textbook f)
      ⟨⟨left, right⟩, left⟩ :=
    Chord.computes_textbook.call_unrolls Chord.begins_textbook o _ _ _
  obtain ⟨n, earlier, last⟩ := unrolls.exists_state h
  rcases (Chord.solve_obeys f left right precision limits o).converged h converged with
    width | change | small
  · exact .inl width
  · refine .inr (.inr ?_)
    rw [Chord.IsSettled, Trace.rows, earlier]
    rw [last] at change ⊢
    generalize hs : Chord.Ends.mk (Scalar.Ends.mk left right) left = s at change ⊢
    cases n with
    | zero =>
      -- the left end stands for the crossing before
      subst hs
      exact .inr ⟨rfl, change⟩
    | succ n =>
      rw [Chord.change_succ] at change
      refine .inl ⟨(Chord.textbook f).rows s n, _, ?_, change⟩
      rw [Recurrence.rows_concat, List.append_assoc, List.singleton_append]
  · exact .inr (.inl small)

/-- A cubic that is flat around its root, which is at a hundredth. -/
def flatCubic : ScalarFunction Float where
  label := "1000 x^3 - 0.001"
  eval x := 1000 * x * x * x - 0.001

/-- The first crossing of `flatCubic` is close to the left end of the bracket. The call converges
there, with none of the evidence that the later iterations could give. -/
theorem chord_converges_at_first_crossing :
    ∃ (limits : Limits Float) (solution : Solution (Chord.Row Float)),
      (Chord.solve flatCubic 0 1 1e-4 limits .silent).result = .ok solution ∧
      solution.status = .converged ∧
      ¬(solution.trace.last.right - solution.trace.last.left < (1e-4 : Float) ∨
        Number.abs solution.trace.last.fX < (1e-4 : Float) ∨
        Chord.IsSettled 1e-4 solution.trace) := by
  let limits : Limits Float := ⟨1, 1e-12, by decide, by decide, by decide⟩
  have checked : ((Chord.solve flatCubic 0 1 1e-4 limits .silent).result.toOption.any
      fun s : Solution (Chord.Row Float) => s.status = .converged ∧ s.trace.earlier.size = 0 ∧
        ¬s.trace.last.right - s.trace.last.left < (1e-4 : Float) ∧
        ¬Number.abs s.trace.last.fX < (1e-4 : Float)) = true := by decide +kernel
  obtain ⟨solution, solved, facts⟩ := exists_solution_of_any checked
  obtain ⟨converged, single, wide, large⟩ := of_decide_eq_true facts
  refine ⟨limits, solution, solved, converged, ?_⟩
  rintro (narrow | small | ⟨before, row, rows_eq, -⟩)
  · exact wide narrow
  · exact large small
  · have count := congrArg List.length rows_eq
    rw [Trace.length_rows, Trace.size, single, List.length_append, List.length_cons,
      List.length_singleton] at count
    omega

theorem flatCubic_converged_cases :
    ∃ (limits : Limits Float) (solution : Solution (Chord.Row Float)),
      (Chord.solve flatCubic 0 1 1e-4 limits .silent).result = .ok solution ∧
      solution.status = .converged ∧
      (solution.trace.last.right - solution.trace.last.left < (1e-4 : Float) ∨
        Number.abs solution.trace.last.fX < (1e-4 : Float) ∨
        Chord.IsSettled 1e-4 solution.trace ∨
        (solution.trace.rows = [solution.trace.last] ∧
          Number.abs (0 - solution.trace.last.x) < (1e-4 : Float))) := by
  let limits : Limits Float := ⟨1, 1e-12, by decide, by decide, by decide⟩
  have checked : ((Chord.solve flatCubic 0 1 1e-4 limits .silent).result.toOption.any
      fun s : Solution (Chord.Row Float) => s.status = .converged) = true := by decide +kernel
  obtain ⟨solution, solved, status⟩ := exists_solution_of_any checked
  have converged := of_decide_eq_true status
  exact ⟨limits, solution, solved, converged,
    chord_converged_cases flatCubic 0 1 1e-4 limits .silent solved converged⟩

/-! ## Newton's method -/

/-- If Newton's method converges, then its answer is the point after the last one at which it
looked, and there the value, the step as it is computed, or the distance to the answer is less than
the precision. -/
theorem newton_converged_cases (f : ScalarFunction α) (left right precision : α)
    (limits : Limits α) (o : Observer τ (Newton.Row α)) {solution : Solution (Newton.Row α)}
    (h : (Newton.solve f left right precision limits o).result = .ok solution)
    (converged : solution.status = .converged) :
    let x := solution.trace.last.x
    solution.answer = x - f.eval x / f.derivative x ∧
      (abs (f.eval x) < precision ∨ abs (f.eval x / f.derivative x) < precision ∨
        abs (solution.answer - x) < precision) := by
  have unrolls : (Newton.solve f left right precision limits o).Unrolls (Newton.textbook f)
      (startingPoint f left right) :=
    Newton.computes_textbook.call_unrolls (fun h => ⟨trivial, Newton.begins_textbook h⟩) o _ _ _
  obtain ⟨n, -, last⟩ := unrolls.exists_state h
  have rule := (Newton.solve_obeys f left right precision limits o).converged h converged
  have answer_eq : solution.answer = solution.trace.last.next := rfl
  rw [answer_eq]
  rw [last] at rule ⊢
  refine ⟨rfl, ?_⟩
  rcases rule with change | step | small
  · exact .inr (.inr change)
  · exact .inr (.inl step)
  · exact .inl small

/-- A cubic whose values near zero are small, and whose root is far from there, at one. -/
def shallowCubic : ScalarFunction Float where
  label := "(x^2 + 5e-5)(x - 1)"
  eval x := (x * x + 5e-5) * (x - 1)

/-- A line whose root is so close to 1.5 that the step from there is rounded up to the distance of
the next double. -/
def steepLine : ScalarFunction Float where
  label := "1000 (x - 1.5) + 1.5e-13"
  eval x := 1000 * (x - 1.5) + 1.5e-13

/-- A small value or a short step is not evidence about the answer. For `shallowCubic` only the
value at the point before the answer is small, and for `steepLine` only the step from there, before
it is rounded: the value at the answer and the distance to it are not less than the precision. -/
theorem newton_converges_before_answer :
    (∃ (limits : Limits Float) (solution : Solution (Newton.Row Float)),
        (Newton.solve shallowCubic 1e-4 2 1e-4 limits .silent).result = .ok solution ∧
        solution.status = .converged ∧
        ¬(Number.abs (shallowCubic.eval solution.answer) < (1e-4 : Float) ∨
          Number.abs (solution.answer - solution.trace.last.x) < (1e-4 : Float))) ∧
      ∃ (limits : Limits Float) (solution : Solution (Newton.Row Float)),
        (Newton.solve steepLine 1 1.5 2e-16 limits .silent).result = .ok solution ∧
        solution.status = .converged ∧
        ¬(Number.abs (steepLine.eval solution.answer) < (2e-16 : Float) ∨
          Number.abs (solution.answer - solution.trace.last.x) < (2e-16 : Float)) ∧
        ¬Number.abs (steepLine.eval solution.trace.last.x) < (2e-16 : Float) := by
  let limits : Limits Float := ⟨1, 1e-12, by decide, by decide, by decide⟩
  have shallow : ((Newton.solve shallowCubic 1e-4 2 1e-4 limits .silent).result.toOption.any
      fun s : Solution (Newton.Row Float) => s.status = .converged ∧
        ¬(Number.abs (shallowCubic.eval s.answer) < (1e-4 : Float) ∨
          Number.abs (s.answer - s.trace.last.x) < (1e-4 : Float))) = true := by decide +kernel
  have steep : ((Newton.solve steepLine 1 1.5 2e-16 limits .silent).result.toOption.any
      fun s : Solution (Newton.Row Float) => s.status = .converged ∧
        ¬(Number.abs (steepLine.eval s.answer) < (2e-16 : Float) ∨
          Number.abs (s.answer - s.trace.last.x) < (2e-16 : Float)) ∧
        ¬Number.abs (steepLine.eval s.trace.last.x) < (2e-16 : Float)) = true := by decide +kernel
  obtain ⟨solution, solved, facts⟩ := exists_solution_of_any shallow
  obtain ⟨solution', solved', facts'⟩ := exists_solution_of_any steep
  exact ⟨⟨limits, solution, solved, of_decide_eq_true facts⟩,
    ⟨limits, solution', solved', of_decide_eq_true facts'⟩⟩

theorem shallowCubic_converged_cases :
    ∃ (limits : Limits Float) (solution : Solution (Newton.Row Float)),
      (Newton.solve shallowCubic 1e-4 2 1e-4 limits .silent).result = .ok solution ∧
      solution.status = .converged ∧
      (let x := solution.trace.last.x
      solution.answer = x - shallowCubic.eval x / shallowCubic.derivative x ∧
        (Number.abs (shallowCubic.eval x) < (1e-4 : Float) ∨
          Number.abs (shallowCubic.eval x / shallowCubic.derivative x) < (1e-4 : Float) ∨
          Number.abs (solution.answer - x) < (1e-4 : Float))) := by
  let limits : Limits Float := ⟨1, 1e-12, by decide, by decide, by decide⟩
  have checked : ((Newton.solve shallowCubic 1e-4 2 1e-4 limits .silent).result.toOption.any
      fun s : Solution (Newton.Row Float) => s.status = .converged) = true := by decide +kernel
  obtain ⟨solution, solved, status⟩ := exists_solution_of_any checked
  have converged := of_decide_eq_true status
  exact ⟨limits, solution, solved, converged,
    newton_converged_cases shallowCubic 1e-4 2 1e-4 limits .silent solved converged⟩

end RootFinding.Scalar
