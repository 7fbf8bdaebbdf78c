import RootFinding.Proofs.Scalar.Retry

/-!
# What is returned from outside the bracket

A step that leaves the bracket ends a pass of simple iteration. Its row is recorded and offered to
the observer before this is noticed, so an observer who asks to stop there is given a trace whose
last row, and with it the answer, is outside. This is the only way out: all points from which steps
are made lie in the bracket, all steps but the last one stay in it, and so does the last one of a
trace that is not broken off (`solution_staysInside`).

## Shape of the arguments

* Whatever the reason for which a pass ends, it is found in the iteration of its last row, so at all
  states but the last one there is none (`IsPass.exists_rows_eq`).
* A pass that is broken off is the beginning of a pass, and what precedes the row at which it is
  broken off does not contain the last row (`IsPass.inside_of_split`).
-/

namespace RootFinding.Scalar.SimpleIteration

open Number

variable {f : ScalarFunction Float} {interval : Interval Float} {precision c : Float}
  {ceiling : Nat}

/-- The rows of a pass are those of the recurrence, and no row but the last one has a reason to end
the pass. -/
theorem IsPass.exists_rows_eq {rows : List (Row Float)} {e : Option (End Float)}
    (h : IsPass f interval precision c ceiling rows e) :
    ∃ n, rows = (textbook f c).rows interval.left n ∧ ∀ j, j + 1 < n →
      reason? f interval precision c ((textbook f c).state interval.left j) = none := by
  cases h with
  | @ended k e _ before _ =>
    refine ⟨k + e.rowCount, rfl, fun j hj => before j ?_⟩
    have count_le : e.rowCount ≤ 1 := by cases e <;> simp [End.rowCount]
    omega
  | exhausted before => exact ⟨ceiling, rfl, fun j hj => before j (Nat.lt_of_succ_lt hj)⟩

/-- The points of a pass lie in the bracket as long as there is no reason to end it. -/
theorem contains_state {n : Nat} (before : ∀ j, j + 1 < n →
      reason? f interval precision c ((textbook f c).state interval.left j) = none) :
    ∀ j < n, interval.contains ((textbook f c).state interval.left j) = true := by
  intro j hj
  cases j with
  | zero => exact contains_left interval
  | succ j => exact (reason?_eq_none (before j hj)).2.1

/-- In the beginning of a pass, all points lie in the bracket, and all steps but the last one stay
in it. -/
theorem IsPass.inside_of_split {before rest : List (Row Float)} {row : Row Float}
    {e : Option (End Float)}
    (h : IsPass f interval precision c ceiling (before ++ row :: rest) e) :
    (∀ r ∈ before ++ [row], interval.contains r.x = true) ∧
      ∀ r ∈ before, interval.contains r.next = true := by
  obtain ⟨n, rows_eq, nothing⟩ := h.exists_rows_eq
  have count : before.length + (rest.length + 1) = n := by
    simpa using congrArg List.length rows_eq
  have shown_eq : before ++ [row] = (textbook f c).rows interval.left (before.length + 1) := by
    have start : before ++ [row] <+: (textbook f c).rows interval.left n :=
      rows_eq ▸ ⟨rest, by rw [List.append_assoc, List.singleton_append]⟩
    simpa using Recurrence.eq_rows_of_prefix _ start
  have before_eq : before = (textbook f c).rows interval.left before.length := by
    have start : before <+: (textbook f c).rows interval.left n :=
      rows_eq ▸ List.prefix_append before _
    exact Recurrence.eq_rows_of_prefix _ start
  constructor
  · intro r hr
    rw [shown_eq] at hr
    obtain ⟨j, hj, rfl⟩ := List.mem_map.1 hr
    have := List.mem_range.1 hj
    exact contains_state nothing j (by omega)
  · intro r hr
    rw [before_eq] at hr
    obtain ⟨j, hj, rfl⟩ := List.mem_map.1 hr
    have := List.mem_range.1 hj
    exact (reason?_eq_none (nothing j (by omega))).2.1

/-- A trace does not leave the bracket, except in the last step of one that is broken off. -/
structure StaysInside (left right : Float) (solution : Solution (Row Float)) : Prop where
  /-- All points from which steps are made lie in the bracket. -/
  points : ∀ row ∈ solution.trace.rows, left ≤ row.x ∧ row.x ≤ right
  /-- All steps but the last one stay in it. -/
  earlier : ∀ row ∈ solution.trace.earlier, left ≤ row.next ∧ row.next ≤ right
  /-- If the method has converged, the last one does too. -/
  converged : solution.status = .converged →
    (∀ row ∈ solution.trace.rows, left ≤ row.next ∧ row.next ≤ right) ∧
      left ≤ solution.answer ∧ solution.answer ≤ right

variable {left right : Float} {samples : Nat} {limits : Limits Float} {τ : Type}
  {o : Observer τ (Row Float)} {solution : Solution (Row Float)}

/-- The trace of a pass that converges stays in the bracket. -/
theorem staysInside_of_isPass (bounds : interval.left = left ∧ interval.right = right)
    (pass : IsPass f interval precision c ceiling solution.trace.rows (some .converged)) :
    StaysInside left right solution := by
  obtain ⟨rfl, rfl⟩ := bounds
  have next : ∀ row ∈ solution.trace.rows,
      interval.left ≤ row.next ∧ row.next ≤ interval.right :=
    fun row hrow => Interval.contains_iff.1 (pass.inside row hrow).2
  refine ⟨fun row hrow => Interval.contains_iff.1 (pass.inside row hrow).1, ?_,
    fun _ => ⟨next, next _ ?_⟩⟩
  · intro row hrow
    exact next row (List.mem_append_left _ (Array.mem_toList_iff.2 hrow))
  · exact List.mem_append_right _ (List.mem_singleton_self _)

/-- The trace of a pass that is broken off stays in the bracket, up to its last step. -/
theorem staysInside_brokenOff (bounds : interval.left = left ∧ interval.right = right)
    {before rest : List (Row Float)} {row : Row Float} {e : Option (End Float)} {first : Nat}
    (pass : IsPass f interval precision c ceiling (before ++ row :: rest) e) :
    StaysInside left right (Outline.brokenOff first before row) := by
  obtain ⟨rfl, rfl⟩ := bounds
  obtain ⟨points, steps⟩ := pass.inside_of_split
  refine ⟨fun r hr => Interval.contains_iff.1 (points r ?_),
    fun r hr => Interval.contains_iff.1 (steps r ?_), nofun⟩
  · simpa [Outline.brokenOff, Trace.rows] using hr
  · simpa [Outline.brokenOff] using hr

/-- Whatever the observer, a call of simple iteration that succeeds returns a trace in the bracket,
except that a trace may be broken off at a step out of it. -/
theorem solution_staysInside (f : ScalarFunction Float) (left right precision : Float)
    (samples : Nat) (limits : Limits Float) (o : Observer τ (Row Float))
    {solution : Solution (Row Float)}
    (success : (solve f left right precision samples limits o).result = .ok solution) :
    StaysInside left right solution := by
  have follows := solve_follows f left right precision samples limits o
  cases hstart : start f left right precision samples limits with
  | error cause =>
    rw [outline, hstart] at follows
    cases follows with
    | whole _ _ _ result => cases result.symm.trans success
    | broken done _ split => cases done <;> cases split
  | ok ready =>
    obtain ⟨interval, c⟩ := ready
    have bounds := bounds_of_start hstart
    obtain ⟨done, d, outline_eq, -, earlier⟩ := outlineFrom_cases f interval precision limits c
    rw [outline, hstart] at follows
    cases follows with
    | whole passes events _ _ =>
      obtain ⟨d, pass⟩ := isPass_of_solve hstart (events ▸ passes) success
      exact staysInside_of_isPass bounds pass
    | @broken _ _ before rest row split _ _ _ result =>
      obtain rfl := Except.ok.inj (result.symm.trans success)
      -- the pass that is broken off is one of the passes of the outline
      have mem : before ++ row :: rest ∈ (outlineFrom f interval precision limits c).passes :=
        split ▸ List.mem_append_right _ List.mem_cons_self
      rw [outline_eq] at mem
      obtain ⟨d', rows_eq⟩ :
          ∃ d', before ++ row :: rest = (passCourse f interval precision limits d').rows := by
        rcases List.mem_append.1 mem with mem | mem
        · exact earlier _ mem
        · exact ⟨d, List.mem_singleton.1 mem⟩
      have pass := isPass_passCourse f interval precision d' limits
      rw [← rows_eq] at pass
      exact staysInside_brokenOff bounds pass

/-- With the falling line, the first step leads out of the bracket. Who stops in the second row gets
two rows of the second pass, which are inside. -/
theorem fallingLine_staysInside : ∃ (limits : Limits Float) (solution : Solution (Row Float)),
    (solve fallingLine 0 4 1e-6 1 limits (.stopAt 2)).result = .ok solution ∧
      solution.status = .stoppedByObserver ∧ solution.trace.size = 2 ∧
      StaysInside 0 4 solution := by
  let limits : Limits Float := ⟨10000, 1e-12, by decide, by decide, by decide⟩
  have solved : ((solve fallingLine 0 4 1e-6 1 limits (.stopAt 2)).result.toOption.map
      fun s => (s.status, s.trace.size)) = some (.stoppedByObserver, 2) := by decide +kernel
  obtain ⟨solution, h, shown⟩ := exists_ok_of_map_eq_some solved
  obtain ⟨status, size⟩ := Prod.mk.inj shown
  exact ⟨limits, solution, h, status, size,
    solution_staysInside fallingLine 0 4 1e-6 1 limits (.stopAt 2) h⟩

/-- Who stops in the first row gets the step out of the bracket, and a negative answer. -/
theorem fallingLine_brokenOff_outside :
    ∃ (limits : Limits Float) (solution : Solution (Row Float)),
      limits.maxIters = Limits.defaultMaxIters ∧
      (solve fallingLine 0 4 1e-6 1 limits (.stopAt 1)).result = .ok solution ∧
      (∃ row ∈ solution.trace.rows, row.next < 0) ∧ solution.answer < 0 := by
  let limits : Limits Float := ⟨10000, 1e-12, by decide, by decide, by decide⟩
  have solved : ((solve fallingLine 0 4 1e-6 1 limits (.stopAt 1)).result.toOption.map
      fun s => decide (s.trace.last.next < 0)) = some true := by decide +kernel
  obtain ⟨solution, h, shown⟩ := exists_ok_of_map_eq_some solved
  have negative : solution.trace.last.next < 0 := of_decide_eq_true shown
  exact ⟨limits, solution, rfl, h,
    ⟨_, List.mem_append_right _ (List.mem_singleton_self _), negative⟩, negative⟩

end RootFinding.Scalar.SimpleIteration
