import RootFinding.Proofs.Double.Order
import RootFinding.Proofs.Methods.Stopping

/-!
# The orbit of the start point

The rows of the system solver are the orbit of the start point under the system, as far as it stays
in the box. They begin with the start point itself, which is offered whenever the inputs are
accepted. The first image that leaves the box is not recorded: it ends the call, with the first of
its coordinates that lies outside.

## Shape of the arguments

* The box is an invariant of the states (`inBox_of_step`), so every row lies in it.
* Two successive rows come from successive states, and the second state holds the point of the first
  row (`state_after`). So the second row is the image of the first.
* `solve_eq_leftInterval_iff` reads the last iteration of the course off the last row.
-/

namespace RootFinding.Systems.FixedPoint

open Number

variable {α τ : Type} [Number α]

/-! ## Boxes -/

/-- A point has a coordinate for each unknown, and each coordinate lies in its interval. -/
structure InBox (system : EquationSystem α) (intervals : List (Interval α)) (x : Point α) :
    Prop where
  length : x.length = system.dimension
  contained : List.Forall₂ (fun value interval => interval.contains value = true) x intervals

/-- Over the doubles, the coordinates of a point in the box are finite. -/
theorem isFinite_of_inBox {system : EquationSystem Float} {intervals : List (Interval Float)}
    {x : Point Float} (box : InBox system intervals x) : ∀ value ∈ x, value.isFinite = true := by
  have contained := box.contained
  clear box
  induction contained with
  | nil => simp
  | @cons value interval values intervals inside _ ih =>
    exact List.forall_mem_cons.2 ⟨Double.isFinite_of_contains inside, ih⟩

/-- The coordinate `i` of a point is the first one that lies outside its interval. -/
structure IsFirstOutside (x : Point α) (intervals : List (Interval α)) (i : Nat) (value : α)
    (interval : Interval α) : Prop where
  value_eq : x[i]? = some value
  interval_eq : intervals[i]? = some interval
  outside : interval.contains value = false
  inside_before : ∀ j < i, ∀ v ∈ x[j]?, ∀ s ∈ intervals[j]?, s.contains v = true

/-- Such a coordinate shows that the point does not lie in the box. -/
theorem IsFirstOutside.not_inBox {system : EquationSystem α} {x : Point α}
    {intervals : List (Interval α)} {i : Nat} {value : α} {interval : Interval α}
    (h : IsFirstOutside x intervals i value interval) : ¬InBox system intervals x := by
  intro box
  have inside : interval.contains value = true := by
    obtain ⟨hi, rfl⟩ := List.getElem?_eq_some_iff.1 h.value_eq
    obtain ⟨hi', rfl⟩ := List.getElem?_eq_some_iff.1 h.interval_eq
    exact List.forall₂_iff_get.1 box.contained |>.2 i hi hi'
  cases inside.symm.trans h.outside

section Outside

variable {x : Point α} {intervals : List (Interval α)}

theorem isFirstOutside_zero_iff {value v : α} {values : Point α} {interval s : Interval α} :
    IsFirstOutside (value :: values) (interval :: intervals) 0 v s ↔
      value = v ∧ interval = s ∧ s.contains v = false := by
  constructor
  · intro h
    exact ⟨Option.some.inj h.value_eq, Option.some.inj h.interval_eq, h.outside⟩
  · rintro ⟨rfl, rfl, outside⟩
    exact ⟨rfl, rfl, outside, nofun⟩

theorem isFirstOutside_succ_iff {i : Nat} {value v : α} {values : Point α}
    {interval s : Interval α} :
    IsFirstOutside (value :: values) (interval :: intervals) (i + 1) v s ↔
      interval.contains value = true ∧ IsFirstOutside values intervals i v s := by
  constructor
  · intro h
    refine ⟨h.inside_before 0 (Nat.succ_pos i) value rfl interval rfl, h.value_eq, h.interval_eq,
      h.outside, fun j hj => h.inside_before (j + 1) (Nat.succ_lt_succ hj)⟩
  · rintro ⟨inside, h⟩
    refine ⟨h.value_eq, h.interval_eq, h.outside, ?_⟩
    intro j hj
    cases j with
    | zero =>
      rintro v ⟨⟩ s ⟨⟩
      exact inside
    | succ j => exact h.inside_before j (Nat.lt_of_succ_lt_succ hj)

/-- The search finds the first coordinate outside, counted from `start` on. -/
theorem firstOutside?_eq_some_iff {start index : Nat} {value : α} {interval : Interval α} :
    firstOutside? x intervals start = some (index, value, interval) ↔
      ∃ i, index = start + i ∧ IsFirstOutside x intervals i value interval := by
  induction x generalizing intervals start with
  | nil =>
    refine ⟨nofun, ?_⟩
    rintro ⟨i, -, h⟩
    cases h.value_eq
  | cons v values ih =>
    cases intervals with
    | nil =>
      refine ⟨nofun, ?_⟩
      rintro ⟨i, -, h⟩
      cases h.interval_eq
    | cons s intervals =>
      rw [firstOutside?]
      by_cases inside : s.contains v = true
      · rw [if_pos inside, ih]
        constructor
        · rintro ⟨i, rfl, h⟩
          exact ⟨i + 1, by omega, isFirstOutside_succ_iff.2 ⟨inside, h⟩⟩
        · rintro ⟨i, rfl, h⟩
          cases i with
          | zero =>
            obtain ⟨rfl, rfl, outside⟩ := isFirstOutside_zero_iff.1 h
            cases inside.symm.trans outside
          | succ i => exact ⟨i, by omega, (isFirstOutside_succ_iff.1 h).2⟩
      · rw [if_neg inside, Option.some.injEq, Prod.mk.injEq, Prod.mk.injEq]
        constructor
        · rintro ⟨rfl, rfl, rfl⟩
          exact ⟨0, rfl, isFirstOutside_zero_iff.2 ⟨rfl, rfl, Bool.eq_false_iff.2 inside⟩⟩
        · rintro ⟨i, rfl, h⟩
          cases i with
          | zero =>
            obtain ⟨rfl, rfl, -⟩ := isFirstOutside_zero_iff.1 h
            exact ⟨rfl, rfl, rfl⟩
          | succ i => exact absurd (isFirstOutside_succ_iff.1 h).1 inside

/-- If the search finds nothing, all coordinates lie in their intervals. -/
theorem contained_of_firstOutside?_eq_none {start : Nat} (length : x.length = intervals.length)
    (h : firstOutside? x intervals start = none) :
    List.Forall₂ (fun value interval => interval.contains value = true) x intervals := by
  induction x generalizing intervals start with
  | nil => rw [List.eq_nil_of_length_eq_zero length.symm]; exact .nil
  | cons v values ih =>
    cases intervals with
    | nil => cases length
    | cons s intervals =>
      rw [firstOutside?] at h
      split at h
      · next inside => exact .cons inside (ih (Nat.succ.inj length) h)
      · cases h

end Outside

/-! ## Iterations -/

/-- The second row holds the image of the point in the first row, and how far its coordinates have
moved. -/
structure IsImage (system : EquationSystem α) (r r' : Row α) : Prop where
  values : system.apply r.values = .ok r'.values
  changes : r'.changes =
    some (List.zipWith (fun old new => Number.abs (old - new)) r.values r'.values)

/-- The point from which the next image is computed. -/
def State.point : State α → Point α
  | .seed start => start
  | .iterate point => point

section Steps

variable {system : EquationSystem α} {intervals : List (Interval α)} {point : Point α}
  {precision : α} {limits : Limits α} {s t : State α} {row row' : Row α}
  {verdict : Verdict (State α) Unit}

/-- A box with a point has a side for each unknown. -/
theorem InBox.sides (box : InBox system intervals point) : intervals.length = system.dimension :=
  box.contained.length_eq.symm.trans box.length

/-- The inputs are accepted if the precision is a tolerance and the start point lies in the box. -/
theorem checkInputs_eq_ok_iff : checkInputs system intervals point precision = .ok () ↔
    isTolerance precision = true ∧ InBox system intervals point := by
  rw [checkInputs]
  constructor
  · intro h
    split at h
    · cases h
    · next sizes =>
      push Not at sizes
      split at h
      · cases h
      · next tolerance =>
        split at h
        · cases h
        · next inside =>
          have same_length := sizes.2.trans sizes.1.symm
          exact ⟨by simpa using tolerance, sizes.2,
            contained_of_firstOutside?_eq_none same_length inside⟩
  · rintro ⟨tolerance, box⟩
    have inside : firstOutside? point intervals 0 = none := by
      rw [Option.eq_none_iff_forall_ne_some]
      rintro ⟨i, value, interval⟩ found
      obtain ⟨j, -, outside⟩ := firstOutside?_eq_some_iff.1 found
      exact outside.not_inBox box
    have sizes : ¬(intervals.length ≠ system.dimension ∨ point.length ≠ system.dimension) := by
      push Not
      exact ⟨box.sides, box.length⟩
    rw [if_neg sizes, tolerance, inside]
    rfl

/-- An iteration in the box records a point of the box. -/
theorem inBox_of_step (box : InBox system intervals s.point)
    (h : scheme system intervals precision s = .ok (row, verdict)) :
    InBox system intervals row.values := by
  cases s with
  | seed start =>
    obtain ⟨rfl, -⟩ := scheme_seed_eq_ok.1 h
    exact box
  | iterate point =>
    obtain ⟨next, happly, inside, rfl, -⟩ := scheme_iterate_eq_ok.1 h
    have length : next.length = system.dimension := (forall₂_of_mapM_eq_ok happly).length_eq.symm
    exact ⟨length, contained_of_firstOutside?_eq_none (length.trans box.sides.symm) inside⟩

/-- The iteration goes on from the point it has recorded. -/
theorem state_after (h : scheme system intervals precision s = .ok (row, .next t)) :
    t = .iterate row.values := by
  cases s with
  | seed start =>
    obtain ⟨rfl, hnext⟩ := scheme_seed_eq_ok.1 h
    exact Verdict.next.inj hnext
  | iterate point =>
    obtain ⟨next, -, -, rfl, hnext⟩ := scheme_iterate_eq_ok.1 h
    split at hnext
    · cases hnext
    · exact Verdict.next.inj hnext

theorem inBox_next (box : InBox system intervals s.point)
    (h : scheme system intervals precision s = .ok (row, .next t)) :
    InBox system intervals t.point := by
  obtain rfl := state_after h
  exact inBox_of_step box h

/-- Iterations that lead from the start point to a state that fails have recorded a row, and its
point is the one that the state holds. -/
theorem iterate_of_leads {rows : List (Row α)} {cause : Error α}
    (leads : (scheme system intervals precision).Leads (.seed point) rows t)
    (failed : scheme system intervals precision t = .error cause) :
    ∃ last, rows.getLast? = some last ∧ t = .iterate last.values := by
  rcases leads.last with ⟨-, rfl⟩ | ⟨before, last, u, rfl, hlast⟩
  · cases failed
  · exact ⟨last, List.getLast?_concat, state_after hlast⟩

/-- The row of the next iteration is the image of the row before. -/
theorem isImage_of_steps (h : scheme system intervals precision s = .ok (row, .next t))
    (h' : scheme system intervals precision t = .ok (row', verdict)) : IsImage system row row' := by
  obtain rfl := state_after h
  obtain ⟨next, happly, -, rfl, -⟩ := scheme_iterate_eq_ok.1 h'
  exact ⟨happly, rfl⟩

end Steps

/-! ## Courses -/

section Course

variable {system : EquationSystem α} {intervals : List (Interval α)} {point : Point α}
  {precision : α} {limits : Limits α}

/-- A course fails because an image leaves the box if the last row is not final, the ceiling is not
reached, and the image of the last row leaves the box. -/
theorem finish_eq_leftInterval_iff {i : Nat} {value : α} {interval : Interval α} :
    ((scheme system intervals precision).course (limits.maxIters + 1) (.seed point)).finish =
        .failed (.leftInterval i value interval) ↔
      ∃ before r next,
        ((scheme system intervals precision).course (limits.maxIters + 1) (.seed point)).rows =
          before ++ [r] ∧
        before.length < limits.maxIters ∧ ¬(stoppingRule precision limits).holds r ∧
        system.apply r.values = .ok next ∧ IsFirstOutside next intervals i value interval := by
  obtain ⟨t, leads, ends⟩ :=
    (scheme system intervals precision).course_spec (limits.maxIters + 1) (.seed point)
  generalize (scheme system intervals precision).course (limits.maxIters + 1) (.seed point) = c
    at leads ends ⊢
  obtain ⟨earlier, finish⟩ := c
  constructor
  · rintro rfl
    rcases leads.last with ⟨-, rfl⟩ | ⟨before, r, u, rfl, hlast⟩
    · cases ends.2
    · -- the failed iteration starts from the last row, which the scheme has not halted at
      have unsettled : ¬(stoppingRule precision limits).holds r := by
        intro holds
        cases (holds_iff_halts limits hlast).1 holds
      obtain rfl := state_after hlast
      have count := ends.1
      simp only [List.length_append, List.length_singleton] at count
      rcases scheme_iterate_eq_error.1 ends.2 with ⟨_, _, h⟩ | ⟨next, j, v, s, happly, outside, h⟩
      · cases h
      · obtain ⟨rfl, rfl, rfl⟩ := Error.leftInterval.inj h
        obtain ⟨k, hk, first⟩ := firstOutside?_eq_some_iff.1 outside
        rw [Nat.zero_add] at hk
        subst hk
        exact ⟨before, r, next, Course.rows_failed _ _, by omega, unsettled, happly, first⟩
  · rintro ⟨before, r, next, rows_eq, below, unsettled, happly, first⟩
    -- the course cannot halt at `r`, and the ceiling is not reached, so it fails after `r`
    cases finish with
    | halted last outcome =>
      obtain ⟨-, rfl⟩ := List.append_singleton_inj.1 rows_eq
      exact absurd ((holds_iff_halts limits ends.2).2 rfl) unsettled
    | exhausted =>
      obtain rfl : earlier = before ++ [r] := (Course.rows_exhausted earlier).symm.trans rows_eq
      have count : (before ++ [r]).length = limits.maxIters + 1 := ends
      simp only [List.length_append, List.length_singleton] at count
      omega
    | failed cause =>
      obtain rfl : earlier = before ++ [r] := (Course.rows_failed earlier cause).symm.trans rows_eq
      have here : t = .iterate r.values := by
        rcases leads.last with ⟨h, -⟩ | ⟨before', r', u, h, hlast⟩
        · cases before <;> cases h
        · obtain ⟨-, rfl⟩ := List.append_singleton_inj.1 h
          exact state_after hlast
      subst here
      rcases scheme_iterate_eq_error.1 ends.2 with
        ⟨refusal, h, -⟩ | ⟨next', j, v, s, h, outside, rfl⟩
      · cases happly.symm.trans h
      · obtain rfl := Except.ok.inj (happly.symm.trans h)
        have found := firstOutside?_eq_some_iff.2 ⟨i, (Nat.zero_add i).symm, first⟩
        obtain ⟨rfl, rfl, rfl⟩ : j = i ∧ v = value ∧ s = interval := by
          simpa using outside.symm.trans found
        rfl

end Course

/-- The result tells that an iterate has left the box only if the course fails with it. -/
theorem finish_of_resultOf {ρ : Type} {c : Course ρ (Error α) Unit} {first n i : Nat}
    {value : α} {interval : Interval α}
    (h : Scheme.resultOf (.maxIters n) (c.ending first) = .error (.leftInterval i value interval)) :
    c.finish = .failed (.leftInterval i value interval) := by
  obtain ⟨earlier, finish⟩ := c
  cases finish with
  | halted last outcome => cases h
  | exhausted => cases h
  | failed cause => rw [Except.error.inj h]

/-! ## Calls -/

/-- The rows of a call are the orbit of `point` under the system, as far as it stays in the box. -/
structure TracesOrbit (system : EquationSystem α) (intervals : List (Interval α)) (point : Point α)
    (precision : α) (limits : Limits α) (o : Observer τ (Row α)) (run : Run τ (Row α) (Error α)) :
    Prop where
  /-- Every row lies in the box. -/
  inBox : ∀ r ∈ run.rows, InBox system intervals r.values
  /-- The first row is the start point. -/
  first : ∀ r ∈ run.rows.head?, r = ⟨point, none⟩
  /-- There is a first row exactly if the inputs are accepted: the precision is a tolerance, the
  start point lies in the box, and the box passes the contraction check. -/
  begins : run.rows.head? = some ⟨point, none⟩ ↔
    isTolerance precision = true ∧ InBox system intervals point ∧
      checkContraction system intervals limits = .ok ()
  /-- Every later row is the image of the row before. -/
  later : run.rows.IsChain (IsImage system)
  /-- The call fails because an iterate leaves the box if the observer has let all rows pass, the
  last row is not final and the ceiling is not reached, and the image of the last row leaves the
  box. The first coordinate outside is reported. -/
  left : ∀ i value interval, run.result = .error (.leftInterval i value interval) ↔
    o.Passes run.events ∧ ∃ before r next, run.rows = before ++ [r] ∧
      before.length < limits.maxIters ∧ ¬(stoppingRule precision limits).holds r ∧
      system.apply r.values = .ok next ∧ IsFirstOutside next intervals i value interval
  /-- An image outside is no row. -/
  unrecorded : ∀ {next i value interval}, IsFirstOutside next intervals i value interval →
    ∀ r ∈ run.rows, r.values ≠ next
  /-- A trace has the rows that were offered. -/
  trace : ∀ {solution}, run.result = .ok solution → solution.trace.rows = run.rows
  /-- An answer lies in the box. -/
  answer : ∀ {solution}, run.result = .ok solution →
    InBox system intervals (extractAnswer solution.trace)

/-- A call traces the orbit of its start point, whoever watches it. -/
theorem solve_tracesOrbit (system : EquationSystem α) (intervals : List (Interval α))
    (point : Point α) (precision : α) (limits : Limits α) (o : Observer τ (Row α)) :
    TracesOrbit system intervals point precision limits o
      (solve system intervals point precision limits o) := by
  have trace {solution : Solution (Row α)}
      (h : (solve system intervals point precision limits o).result = .ok solution) :
      solution.trace.rows = (solve system intervals point precision limits o).rows :=
    Scheme.rows_trace_call h
  cases hstart : start system intervals point precision limits with
  | error cause =>
    have rows_eq : (solve system intervals point precision limits o).rows = [] :=
      Scheme.rows_call_of_error hstart
    refine ⟨?_, ?_, ?_, ?_, ?_, ?_, trace, ?_⟩
    · simp [rows_eq]
    · simp [rows_eq]
    · rw [rows_eq]
      refine iff_of_false nofun ?_
      rintro ⟨tolerance, box, contracts⟩
      have accepted := start_eq_ok.2 ⟨checkInputs_eq_ok_iff.2 ⟨tolerance, box⟩, contracts, rfl⟩
      cases hstart.symm.trans accepted
    · simp [rows_eq]
    · intro i value interval
      rw [rows_eq]
      constructor
      · intro h
        rw [solve, hstart] at h
        obtain rfl := Except.error.inj h
        exact absurd trivial (avoids_start _ hstart)
      · rintro ⟨-, before, r, next, h, -⟩
        cases before <;> cases h
    · simp [rows_eq]
    · intro solution h
      exact absurd ((trace h).trans rows_eq) solution.trace.rows_ne_nil
  | ok s =>
    obtain ⟨hinputs, contracts, rfl⟩ := start_eq_ok.1 hstart
    obtain ⟨tolerance, box⟩ := checkInputs_eq_ok_iff.1 hinputs
    have start_inBox : InBox system intervals (State.seed point).point := box
    have offered : (solve system intervals point precision limits o).rows <+:
        ((scheme system intervals precision).course (limits.maxIters + 1) (.seed point)).rows :=
      Scheme.rows_call_prefix hstart
    have inBox : ∀ r ∈ (solve system intervals point precision limits o).rows,
        InBox system intervals r.values := fun r hr =>
      Scheme.forall_mem_course_rows inBox_next inBox_of_step _ start_inBox r (offered.subset hr)
    refine ⟨inBox, ?_, ?_, ?_, ?_, ?_, trace, ?_⟩
    · intro r hr
      obtain ⟨rest, hrest⟩ := offered
      have first := hrest ▸ List.mem_head?_append_of_mem_head? hr
      obtain ⟨verdict, h⟩ := Scheme.head?_course_rows _ first
      exact (scheme_seed_eq_ok.1 h).1
    · have recorded : scheme system intervals precision (.seed point) =
          .ok (.seed point, .next (.iterate point)) := scheme_seed_eq_ok.2 ⟨rfl, rfl⟩
      exact iff_of_true (Scheme.head?_rows_call hstart recorded) ⟨tolerance, box, contracts⟩
    · have images : ((scheme system intervals precision).course (limits.maxIters + 1)
          (.seed point)).rows.IsChain (IsImage system) :=
        Scheme.isChain_course_rows (fun _ _ => trivial) (fun _ => isImage_of_steps) _ trivial
      exact images.prefix offered
    · intro i value interval
      constructor
      · intro h
        obtain ⟨passes, hresult⟩ := (Scheme.result_call_eq_error_iff hstart).1 h
        obtain ⟨before, r, next, hrows, rest⟩ :=
          finish_eq_leftInterval_iff.1 (finish_of_resultOf hresult)
        exact ⟨passes, before, r, next,
          (Scheme.rows_call_of_passes hstart passes).trans hrows, rest⟩
      · rintro ⟨passes, before, r, next, hrows, rest⟩
        have whole := Scheme.rows_call_of_passes hstart passes
        have finish := finish_eq_leftInterval_iff.2
          ⟨before, r, next, whole.symm.trans hrows, rest⟩
        refine (Scheme.result_call_eq_error_iff hstart).2 ⟨passes, ?_⟩
        rw [Course.ending, finish]
        rfl
    · intro next i value interval outside r hr heq
      exact outside.not_inBox (heq ▸ inBox r hr)
    · intro solution h
      refine inBox solution.trace.last ?_
      rw [← trace h, Trace.rows]
      exact List.mem_append_right _ (List.mem_singleton_self _)

/-- Over the doubles, a call traces the orbit of its start point in the box, and the box has no
point with a coordinate that is not a number. -/
theorem double_solve_traces_orbit (system : EquationSystem Float)
    (intervals : List (Interval Float)) (point : Point Float) (precision : Float)
    (limits : Limits Float) (o : Observer τ (Row Float)) :
    TracesOrbit system intervals point precision limits o
        (solve system intervals point precision limits o) ∧
      ∀ (interval : Interval Float) (value : Float), value.isNaN = true →
        interval.contains value = false :=
  ⟨solve_tracesOrbit system intervals point precision limits o,
    fun interval _ => Double.not_contains_of_isNaN interval⟩

end RootFinding.Systems.FixedPoint
