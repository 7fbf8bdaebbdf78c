import RootFinding.Proofs.Double.Operations
import RootFinding.Proofs.Methods.Steps
import RootFinding.Proofs.Run.Recurrence
import RootFinding.Proofs.Scalar.TwoPasses

/-!
# Two passes and one retry

A pass of simple iteration is the recurrence `x ↦ x + c · f(x)` from the left end of the bracket on,
until the first iteration at which there is a reason to end it, or until the ceiling is reached
(`IsPass`). It knows nothing of another pass.

A call that is not stopped is the pass with one coefficient, or, if and only if that one escapes
from the bracket, this pass followed by the one with the opposite coefficient, which alone gives the
result (`IsTwoPasses`).

## Shape of the arguments

* `scheme_eq` says what an iteration does in terms of what there is to be found at its point
  (`reason?`), so a course goes on from the points at which there is nothing (`reason?_of_leads`),
  and is a pass (`isPass_passCourse`).
* A row of both passes would have the same point and the same next one, so a step and its opposite
  would lead to the same double. Then the step leads nowhere, and both passes end there
  (`change_lt_of_opposite`).
-/

namespace RootFinding.Scalar.SimpleIteration

open Number

section Passes

variable {α τ : Type} [Number α]

/-- Simple iteration with one coefficient, as it is written down. -/
def textbook (f : ScalarFunction α) (c : α) : Recurrence α (Row α) where
  row x :=
    let next := x + c * f.eval x
    ⟨x, next, f.eval next, abs (next - x)⟩
  next x := x + c * f.eval x

/-- Why a pass ends in an iteration. -/
inductive End (α : Type) where
  /-- A value is not finite. -/
  | failed (cause : Error α)
  /-- The step leads out of the bracket, to `x`. -/
  | escaped (x : α)
  /-- The step stays in the bracket, and is shorter than the precision. -/
  | converged

/-- The number of rows that the last iteration of a pass records. -/
def End.rowCount : End α → Nat
  | .failed _ => 0
  | .escaped _ => 1
  | .converged => 1

variable (f : ScalarFunction α) (interval : Interval α) (precision c : α)

/-- The reason to end the pass in the iteration from the point `x`, if there is one. -/
def reason? (x : α) : Option (End α) :=
  let next := x + c * f.eval x
  if isFinite (f.eval x) = false then some (.failed (.nonFinite x (f.eval x)))
  else if isFinite next = false then some (.failed (.nonFinite x next))
  else if isFinite (f.eval next) = false then some (.failed (.nonFinite next (f.eval next)))
  else if interval.contains next = false then some (.escaped next)
  else if abs (next - x) < precision then some .converged
  else none

/-- The pass with the coefficient `c` and at most `ceiling` rows: its rows, and the reason for which
it ends. There is none if the ceiling is reached. -/
inductive IsPass (ceiling : Nat) : List (Row α) → Option (End α) → Prop
  /-- The first iteration with a reason to end the pass is the last one. -/
  | ended {k : Nat} {e : End α} (below : k < ceiling)
      (before : ∀ j < k,
        reason? f interval precision c ((textbook f c).state interval.left j) = none)
      (here : reason? f interval precision c ((textbook f c).state interval.left k) = some e) :
      IsPass ceiling ((textbook f c).rows interval.left (k + e.rowCount)) (some e)
  /-- There is no reason in as many iterations as are allowed. -/
  | exhausted
      (before : ∀ j < ceiling,
        reason? f interval precision c ((textbook f c).state interval.left j) = none) :
      IsPass ceiling ((textbook f c).rows interval.left ceiling) none

variable {f interval precision c} {ceiling : Nat}

/-- Where there is no reason to end a pass, the step stays in the bracket and is not short. -/
theorem reason?_eq_none {x : α} (h : reason? f interval precision c x = none) :
    isFinite (x + c * f.eval x) = true ∧ interval.contains (x + c * f.eval x) = true ∧
      ¬abs (x + c * f.eval x - x) < precision := by
  unfold reason? at h
  dsimp only at h
  split_ifs at h with value next nextValue outside short
  exact ⟨eq_true_of_ne_false next, eq_true_of_ne_false outside, short⟩

theorem contains_of_converged {x : α} (h : reason? f interval precision c x = some .converged) :
    interval.contains (x + c * f.eval x) = true := by
  unfold reason? at h
  dsimp only at h
  split_ifs at h with value next nextValue outside short
  · cases h
  · cases h
  · cases h
  · cases h
  · exact eq_true_of_ne_false outside

theorem contains_of_escaped {x y : α} (h : reason? f interval precision c x = some (.escaped y)) :
    interval.contains (x + c * f.eval x) = false := by
  unfold reason? at h
  dsimp only at h
  split_ifs at h with value next nextValue outside short
  · cases h
  · cases h
  · cases h
  · exact outside
  · cases h

/-- There is only one pass with a coefficient. -/
theorem IsPass.unique {rows rows' : List (Row α)} {e e' : Option (End α)}
    (h : IsPass f interval precision c ceiling rows e)
    (h' : IsPass f interval precision c ceiling rows' e') : rows = rows' ∧ e = e' := by
  cases h with
  | @ended k e below before here =>
    cases h' with
    | @ended k' e' below' before' here' =>
      obtain rfl : k = k' := by
        rcases lt_trichotomy k k' with less | same | more
        · cases here.symm.trans (before' k less)
        · exact same
        · cases here'.symm.trans (before k' more)
      obtain rfl := Option.some.inj (here.symm.trans here')
      exact ⟨rfl, rfl⟩
    | exhausted before' => cases here.symm.trans (before' k below)
  | exhausted before =>
    cases h' with
    | ended below' _ here' => cases here'.symm.trans (before _ below')
    | exhausted _ => exact ⟨rfl, rfl⟩

/-! ## The passes of the method -/

/-- What an iteration does is decided by the reason to end the pass there. -/
theorem scheme_eq (x : α) :
    scheme f interval precision c x =
      match reason? f interval precision c x with
      | none => .ok ((textbook f c).row x, .next ((textbook f c).next x))
      | some .converged => .ok ((textbook f c).row x, .halt .converged)
      | some (.escaped y) => .ok ((textbook f c).row x, .halt (.escaped y))
      | some (.failed cause) => .error cause := by
  unfold scheme Guard.value Guard.finite reason?
  simp only [bind, Except.bind, pure, Except.pure]
  by_cases value : isFinite (f.eval x) = true
  · by_cases next : isFinite (x + c * f.eval x) = true
    · by_cases nextValue : isFinite (f.eval (x + c * f.eval x)) = true
      · by_cases inside : interval.contains (x + c * f.eval x) = true
        · by_cases short : abs (x + c * f.eval x - x) < precision
          · simp [value, next, nextValue, inside, short, textbook]
          · simp [value, next, nextValue, inside, short, textbook]
        · simp [value, next, nextValue, inside, textbook]
      · simp [value, next, nextValue]
    · simp [value, next]
  · simp [value]

/-- The reason for which a course ends. -/
def endOf : Finish (Row α) (Error α) (Outcome α) → Option (End α)
  | .halted _ .converged => some .converged
  | .halted _ (.escaped x) => some (.escaped x)
  | .exhausted => none
  | .failed cause => some (.failed cause)

omit [Number α] in
theorem endOf_eq_escaped_iff {finish : Finish (Row α) (Error α) (Outcome α)} {x : α} :
    endOf finish = some (.escaped x) ↔ ∃ last, finish = .halted last (.escaped x) := by
  constructor
  · intro h
    match finish, h with
    | .halted last (.escaped _), rfl => exact ⟨last, rfl⟩
  · rintro ⟨last, rfl⟩
    rfl

theorem reason?_of_next {x t : α} {row : Row α}
    (h : scheme f interval precision c x = .ok (row, .next t)) :
    reason? f interval precision c x = none := by
  rw [scheme_eq] at h
  split at h
  · assumption
  all_goals cases h

theorem reason?_of_halt {x : α} {row : Row α} {outcome : Outcome α}
    (h : scheme f interval precision c x = .ok (row, .halt outcome)) :
    reason? f interval precision c x = endOf (.halted row outcome) := by
  rw [scheme_eq] at h
  split at h
  · cases h
  · cases h; assumption
  · cases h; assumption
  · cases h

theorem reason?_of_error {x : α} {cause : Error α}
    (h : scheme f interval precision c x = .error cause) :
    reason? f interval precision c x = some (.failed cause) := by
  rw [scheme_eq] at h
  split at h
  · cases h
  · cases h
  · cases h
  · cases h; assumption

theorem computes_textbook :
    (scheme f interval precision c).Computes (textbook f c) (fun _ => True) id where
  row {x row verdict} _ h := by
    rw [scheme_eq] at h
    split at h <;> cases h <;> rfl
  next {x row t} _ h := by
    rw [scheme_eq] at h
    split at h <;> cases h
    exact ⟨trivial, rfl⟩

/-- A pass goes on from a point at which there is no reason to end it. -/
theorem reason?_of_leads {x t : α} {rows : List (Row α)}
    (leads : (scheme f interval precision c).Leads x rows t) :
    ∀ j < rows.length, reason? f interval precision c ((textbook f c).state x j) = none := by
  induction leads with
  | refl => exact fun j hj => absurd hj (Nat.not_lt_zero j)
  | @step x t u row rows first rest ih =>
    intro j hj
    cases j with
    | zero => exact reason?_of_next first
    | succ j =>
      have next : t = (textbook f c).next x := (computes_textbook.next trivial first).2
      rw [Recurrence.state_succ, ← next]
      exact ih j (Nat.lt_of_succ_lt_succ hj)

/-- The course of the scheme is a pass. -/
theorem isPass_passCourse (f : ScalarFunction α) (interval : Interval α) (precision c : α)
    (limits : Limits α) :
    IsPass f interval precision c limits.maxIters (passCourse f interval precision limits c).rows
      (endOf (passCourse f interval precision limits c).finish) := by
  have computes : (scheme f interval precision c).Computes (textbook f c) (fun _ => True) id :=
    computes_textbook
  have rows_eq := computes.course_rows_eq limits.maxIters (s := interval.left) trivial
  obtain ⟨t, leads, ends⟩ :=
    (scheme f interval precision c).course_spec limits.maxIters interval.left
  rw [passCourse]
  generalize (scheme f interval precision c).course limits.maxIters interval.left = course at *
  obtain ⟨earlier, finish⟩ := course
  have before := reason?_of_leads leads
  obtain ⟨-, last_eq, -⟩ := leads.view_eq computes trivial
  rw [id, id] at last_eq
  cases finish with
  | halted last outcome =>
    obtain ⟨below, halts⟩ := ends
    have here := reason?_of_halt halts
    rw [last_eq] at here
    rw [rows_eq, Course.rows_halted, List.length_append, List.length_singleton]
    cases outcome with
    | converged => exact .ended below before here
    | escaped x => exact .ended below before here
  | exhausted =>
    have reached : earlier.length = limits.maxIters := ends
    rw [rows_eq, Course.rows_exhausted, reached]
    exact .exhausted (reached ▸ before)
  | failed cause =>
    obtain ⟨below, fails⟩ := ends
    have here := reason?_of_error fails
    rw [last_eq] at here
    rw [rows_eq, Course.rows_failed]
    exact .ended below before here

/-! ## The result of the last pass -/

/-- The result of a call, decided by the rows of its last pass and the reason for which it ends. -/
def Decides (interval : Interval α) (limits : Limits α) (rows : List (Row α)) :
    Option (End α) → Except (Error α) (Solution (Row α)) → Prop
  | some .converged, result => ∃ solution, result = .ok solution ∧ solution.status = .converged ∧
      solution.iters = rows.length ∧ solution.trace.rows = rows
  | some (.escaped x), result => result = .error (.diverged interval.left interval.right x)
  | some (.failed cause), result => result = .error cause
  | none, result => result = .error (.maxIters limits.maxIters)

theorem decides_lastResult (interval : Interval α) (limits : Limits α)
    (course : Course (Row α) (Error α) (Outcome α)) :
    Decides interval limits course.rows (endOf course.finish)
      (lastResult interval limits (course.ending 1)) := by
  obtain ⟨earlier, finish⟩ := course
  cases finish with
  | halted last outcome =>
    cases outcome with
    | converged =>
      refine ⟨_, rfl, rfl, ?_, rfl⟩
      rw [Course.rows_halted, List.length_append, List.length_singleton, Nat.add_comm]
    | escaped x => rfl
  | exhausted => rfl
  | failed cause => rfl

/-- Only a pass that converges decides for a solution, and its rows are the trace. -/
theorem Decides.converged {limits : Limits α} {rows : List (Row α)} {e : Option (End α)}
    {solution : Solution (Row α)} (h : Decides interval limits rows e (.ok solution)) :
    e = some .converged ∧ solution.trace.rows = rows := by
  match e, h with
  | some .converged, ⟨_, rfl, _, _, rows_eq⟩ => exact ⟨rfl, rows_eq⟩

/-! ## Calls -/

/-- A call of simple iteration is one pass, or two. -/
structure IsTwoPasses (f : ScalarFunction α) (interval : Interval α) (precision c : α)
    (limits : Limits α) (run : Run τ (Row α) (Error α)) : Prop where
  /-- There is exactly one pass with each coefficient. -/
  determined (d : α) : ∃! pass : List (Row α) × Option (End α),
    IsPass f interval precision d limits.maxIters pass.1 pass.2
  /-- A first pass that does not escape is the whole call, whether it converges or not. -/
  single {rows : List (Row α)} {e : Option (End α)}
    (first : IsPass f interval precision c limits.maxIters rows e)
    (inside : ∀ x, e ≠ some (.escaped x)) :
    run.events = Event.ofRows rows ∧ Decides interval limits rows e run.result
  /-- A first pass that escapes is followed by the second one, which alone decides the result. -/
  retried {rows rows' : List (Row α)} {x : α} {e : Option (End α)}
    (first : IsPass f interval precision c limits.maxIters rows (some (.escaped x)))
    (second : IsPass f interval precision (-c) limits.maxIters rows' e) :
    run.events = Event.ofRows rows ++ Event.ofRows rows' ∧
      Decides interval limits rows' e run.result
  /-- No trace leaves the bracket. -/
  inside {solution : Solution (Row α)} (success : run.result = .ok solution) :
    ∀ row ∈ solution.trace.rows,
      interval.contains row.x = true ∧ interval.contains row.next = true
  /-- No row of a first pass that escapes is left in a trace. -/
  fresh {rows : List (Row α)} {x : α} {solution : Solution (Row α)}
    (first : IsPass f interval precision c limits.maxIters rows (some (.escaped x)))
    (success : run.result = .ok solution) : ∀ row ∈ rows, row ∉ solution.trace.rows

/-- The coefficient of the first pass is the opposite of the reciprocal of the steepest slope. -/
theorem start_eq_ok {left right k : α} {samples : Nat} {limits : Limits α}
    (bracket : Interval.ofBounds left right = .ok interval)
    (tolerance : isTolerance precision = true) (positive : samples ≠ 0)
    (steepest : steepestSlope f interval samples = .ok k)
    (regular : ¬abs k < limits.minDenominator) :
    start f left right precision samples limits = .ok (interval, -one / k) := by
  have inputs := Guard.inputs_eq_ok.2 ⟨bracket, tolerance⟩
  have divisor : Guard.divisor limits interval.left k = .ok k :=
    Guard.divisor_eq_ok.2 ⟨regular, rfl⟩
  simp [start, inputs, positive, steepest, divisor, bind, Except.bind, pure, Except.pure]

variable [NumberText α] {left right : α} {samples : Nat} {limits : Limits α}
  {o : Observer τ (Row α)}

/-- A call that is not stopped goes as its outline. -/
theorem solve_of_passes
    (ready : start f left right precision samples limits = .ok (interval, c))
    (passes : o.Passes (solve f left right precision samples limits o).events) :
    (solve f left right precision samples limits o).events =
        (outlineFrom f interval precision limits c).events ∧
      (solve f left right precision samples limits o).result =
        (outlineFrom f interval precision limits c).result := by
  have whole := (solve_follows f left right precision samples limits o).whole_of_passes passes
  rwa [outline, ready] at whole

/-- A call whose first pass does not escape consists of that pass. -/
theorem call_of_not_escaped
    (ready : start f left right precision samples limits = .ok (interval, c))
    (passes : o.Passes (solve f left right precision samples limits o).events)
    {rows : List (Row α)} {e : Option (End α)}
    (first : IsPass f interval precision c limits.maxIters rows e)
    (inside : ∀ x, e ≠ some (.escaped x)) :
    (solve f left right precision samples limits o).events = Event.ofRows rows ∧
      Decides interval limits rows e (solve f left right precision samples limits o).result := by
  obtain ⟨rfl, rfl⟩ := first.unique (isPass_passCourse f interval precision c limits)
  have not_escaped : ∀ last x,
      (passCourse f interval precision limits c).finish ≠ .halted last (.escaped x) :=
    fun last x escaped => inside x (endOf_eq_escaped_iff.2 ⟨last, escaped⟩)
  obtain ⟨events, result⟩ := solve_of_passes ready passes
  rw [outlineFrom_of_not_escaped not_escaped] at events result
  rw [events, result, Outline.events, Event.ofPasses_cons, Event.ofPasses_nil, List.append_nil]
  exact ⟨rfl, decides_lastResult interval limits _⟩

/-- A call whose first pass escapes consists of two passes, and the second one decides. -/
theorem call_of_escaped
    (ready : start f left right precision samples limits = .ok (interval, c))
    (passes : o.Passes (solve f left right precision samples limits o).events)
    {rows rows' : List (Row α)} {x : α} {e : Option (End α)}
    (first : IsPass f interval precision c limits.maxIters rows (some (.escaped x)))
    (second : IsPass f interval precision (-c) limits.maxIters rows' e) :
    (solve f left right precision samples limits o).events =
        Event.ofRows rows ++ Event.ofRows rows' ∧
      Decides interval limits rows' e (solve f left right precision samples limits o).result := by
  obtain ⟨rfl, escapes⟩ := first.unique (isPass_passCourse f interval precision c limits)
  obtain ⟨rfl, rfl⟩ := second.unique (isPass_passCourse f interval precision (-c) limits)
  obtain ⟨last, escaped⟩ := endOf_eq_escaped_iff.1 escapes.symm
  obtain ⟨events, result⟩ := solve_of_passes ready passes
  rw [outlineFrom_of_escaped escaped] at events result
  rw [events, result, Outline.events, Event.ofPasses_cons, Event.ofPasses_cons,
    Event.ofPasses_nil, List.append_nil]
  exact ⟨rfl, decides_lastResult interval limits _⟩

/-- A trace is that of a pass that converges. -/
theorem isPass_of_solve
    (ready : start f left right precision samples limits = .ok (interval, c))
    (passes : o.Passes (solve f left right precision samples limits o).events)
    {solution : Solution (Row α)}
    (success : (solve f left right precision samples limits o).result = .ok solution) :
    ∃ d, IsPass f interval precision d limits.maxIters solution.trace.rows (some .converged) := by
  obtain ⟨-, result⟩ := solve_of_passes ready passes
  obtain ⟨done, d, outline_eq, -, -⟩ := outlineFrom_cases f interval precision limits c
  have pass := isPass_passCourse f interval precision d limits
  have decides := decides_lastResult interval limits (passCourse f interval precision limits d)
  rw [outline_eq, success] at result
  dsimp only at result
  rw [← result] at decides
  obtain ⟨converges, rows_eq⟩ := decides.converged
  rw [converges, ← rows_eq] at pass
  exact ⟨d, pass⟩

end Passes

/-! ## Doubles -/

section Doubles

open Double

variable {f : ScalarFunction Float} {interval : Interval Float} {precision c : Float}
  {ceiling : Nat}

/-- A step that leads to the same double as its opposite is shorter than any precision. -/
theorem change_lt_of_opposite {x v : Float} (tolerance : isTolerance precision = true)
    (finite : (x + c * v).isFinite = true) (same : x + c * v = x + -c * v) :
    abs (x + c * v - x) < precision := by
  obtain ⟨finite_precision, positive⟩ := Bool.and_eq_true_iff.1 tolerance
  obtain ⟨hx, hstep⟩ := isFinite_of_add finite
  have nowhere : value (x + c * v) = value x :=
    value_add_of_opposite (value_neg_mul hstep) finite (same ▸ finite) (congrArg value same)
  obtain ⟨finite_change, change⟩ := sub_of_value_eq finite hx nowhere
  rw [lt_iff_value (isFinite_abs finite_change) finite_precision, value_abs, change, abs_zero]
  exact (lt_iff_value rfl finite_precision).1 (of_decide_eq_true positive)

/-- The left end of an interval lies in it. -/
theorem contains_left (interval : Interval Float) : interval.contains interval.left = true := by
  refine Interval.contains_iff.2 ⟨?_, ?_⟩
  · exact (le_iff_value interval.finite_left interval.finite_left).2 le_rfl
  · have below := (lt_iff_value interval.finite_left interval.finite_right).1 interval.left_lt_right
    exact (le_iff_value interval.finite_left interval.finite_right).2 below.le

/-- A pass that converges stays in the bracket. -/
theorem IsPass.inside {rows : List (Row Float)}
    (h : IsPass f interval precision c ceiling rows (some .converged)) :
    ∀ row ∈ rows, interval.contains row.x = true ∧ interval.contains row.next = true := by
  cases h with
  | @ended k _ _ before here =>
    have next : ∀ j < k + 1,
        interval.contains ((textbook f c).state interval.left (j + 1)) = true := by
      intro j hj
      rcases Nat.lt_succ_iff_lt_or_eq.1 hj with earlier | rfl
      · exact (reason?_eq_none (before j earlier)).2.1
      · exact contains_of_converged here
    intro row hrow
    obtain ⟨j, hj, rfl⟩ := List.mem_map.1 hrow
    have hj := List.mem_range.1 hj
    refine ⟨?_, next j hj⟩
    cases j with
    | zero => exact contains_left interval
    | succ j => exact next j (Nat.lt_of_succ_lt hj)

/-- A pass that escapes has no row in common with a pass that converges with the opposite
coefficient. -/
theorem IsPass.not_mem_of_opposite {rows rows' : List (Row Float)} {x : Float}
    (tolerance : isTolerance precision = true)
    (first : IsPass f interval precision c ceiling rows (some (.escaped x)))
    (second : IsPass f interval precision (-c) ceiling rows' (some .converged)) :
    ∀ row ∈ rows, row ∉ rows' := by
  intro row hrow hrow'
  have inside := (second.inside row hrow').2
  cases first with
  | @ended k _ _ before here =>
    cases second with
    | ended =>
      obtain ⟨i, hi, rfl⟩ := List.mem_map.1 hrow
      obtain ⟨j, -, same⟩ := List.mem_map.1 hrow'
      rcases Nat.lt_succ_iff_lt_or_eq.1 (List.mem_range.1 hi) with earlier | rfl
      · -- the first pass goes on from this row, so its step is not short
        obtain ⟨finite, -, long⟩ := reason?_eq_none (before i earlier)
        have point := congrArg Row.x same
        have next := congrArg Row.next same
        dsimp only [textbook] at point next
        rw [point] at next
        exact long (change_lt_of_opposite tolerance finite next.symm)
      · -- the last row of the first pass leads out of the bracket
        exact Bool.false_ne_true ((contains_of_escaped here).symm.trans inside)

variable {left right k : Float} {samples : Nat} {limits : Limits Float} {τ : Type}
  {o : Observer τ (Row Float)}

/-- For every function, every accepted bracket and precision, every number of samples and all limits
with which a coefficient is found, and every observer that does not ask to stop, a call of simple
iteration is one pass, or, if and only if that one escapes, two passes of which the second one
decides. A trace stays in the bracket, and is that of the last pass only. -/
theorem solve_isTwoPasses (bracket : Interval.ofBounds left right = .ok interval)
    (tolerance : isTolerance precision = true) (positive : samples ≠ 0)
    (steepest : steepestSlope f interval samples = .ok k)
    (regular : ¬abs k < limits.minDenominator)
    (unstopped : o.Passes (solve f left right precision samples limits o).events) :
    IsTwoPasses f interval precision (-one / k) limits
      (solve f left right precision samples limits o) := by
  have ready := start_eq_ok bracket tolerance positive steepest regular
  refine ⟨?determined, call_of_not_escaped ready unstopped, call_of_escaped ready unstopped,
    ?inside, ?fresh⟩
  case determined =>
    intro d
    refine ⟨(_, _), isPass_passCourse f interval precision d limits, ?_⟩
    rintro ⟨rows, e⟩ pass
    exact Prod.ext_iff.2 (pass.unique (isPass_passCourse f interval precision d limits))
  case inside =>
    intro solution success
    obtain ⟨d, pass⟩ := isPass_of_solve ready unstopped success
    exact pass.inside
  case fresh =>
    intro rows x solution first success
    have second := isPass_passCourse f interval precision (-(-one / k)) limits
    obtain ⟨-, decides⟩ := call_of_escaped ready unstopped first second
    obtain ⟨converges, rows_eq⟩ := Decides.converged (success ▸ decides)
    rw [converges] at second
    exact rows_eq ▸ first.not_mem_of_opposite tolerance second

/-- A line that falls through zero at two. -/
def fallingLine : ScalarFunction Float where
  label := "2 - x"
  eval x := 2 - x

/-- A bracket around its root. -/
def aroundTwo : Interval Float := ⟨0, 4, by decide, by decide, by decide⟩

/-- From zero on, the first step goes to the left, out of the bracket; the second pass converges in
two iterations. -/
theorem solve_fallingLine_isTwoPasses :
    ∃ (k : Float) (limits : Limits Float),
      Interval.ofBounds 0 4 = .ok aroundTwo ∧ steepestSlope fallingLine aroundTwo 1 = .ok k ∧
      IsTwoPasses fallingLine aroundTwo 1e-6 (-one / k) limits
        (solve fallingLine 0 4 1e-6 1 limits .silent) ∧
      (solve fallingLine 0 4 1e-6 1 limits .silent).events.map Event.iter = [1, 1, 2] := by
  have bracket : Interval.ofBounds 0 4 = .ok aroundTwo := Interval.ofBounds_bounds aroundTwo
  have steepest : steepestSlope fallingLine aroundTwo 1 = .ok 0.9999999999843467 := by
    decide +kernel
  refine ⟨_, ⟨10000, 1e-12, by decide, by decide, by decide⟩, bracket, steepest, ?_, ?_⟩
  · refine solve_isTwoPasses bracket (by decide +kernel) one_ne_zero steepest (by decide +kernel) ?_
    -- the silent observer lets all events pass, so they need not be computed
    generalize (solve fallingLine 0 4 1e-6 1 _ .silent).events = events
    exact Observer.isPassive_silent.passes events
  · decide +kernel

end Doubles

end RootFinding.Scalar.SimpleIteration
