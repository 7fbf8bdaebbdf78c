import RootFinding.Proofs.Methods.Counting
import RootFinding.Proofs.Scalar.Retry
import RootFinding.Proofs.Scalar.Textbook

/-!
# No row shows a value that is not finite

In Newton's method, the secant method and simple iteration, not every point is checked: some are
known to be finite because a result that is computed from them is. So all rows are finite, and so
are the answers. Where the next row would not be finite, there is none: the call fails, because of a
value that is not finite or of a divisor that is too small (`iterates_are_finite`).

## Shape of the arguments

* An iteration that shows a row shows a finite one, whatever its state is (`IsGuarded`). The
  operands of a finite difference, product or quotient are finite, so this needs no invariant.
* If the row that the written-down method has next is not finite, then the iteration does not show
  it, so it fails (`IsGuarded.exists_error`), and with it the call (`IsGuarded.call_reportsUnfit`).
-/

namespace RootFinding.Scalar

open Number Double

variable {σ ς τ ρ η : Type}

/-! ## Guarded iterations -/

/-- A value is not finite, or a divisor is too small. -/
def Error.IsUnfit (limits : Limits Float) : Error Float → Prop
  | .nonFinite _ v => v.isFinite = false
  | .degenerateDenominator _ v => abs v < limits.minDenominator
  | _ => False

/-- The iterations show finite rows only, and fail only because of values that are unfit. -/
structure IsGuarded (limits : Limits Float) (IsFinite : ρ → Prop)
    (scheme : Scheme σ ρ (Error Float) η) : Prop where
  finite : ∀ {s row verdict}, scheme s = .ok (row, verdict) → IsFinite row
  fails : ∀ s, FailsOnly (Error.IsUnfit limits) (scheme s)

/-- After the rows `before`, the call `run` comes to a pass from the state `s`. If this leads to a
state whose row is not finite, the call ends there with a failure. -/
def Surfaces (limits : Limits Float) (IsFinite : ρ → Prop) (before : List ρ)
    (scheme : Scheme σ ρ (Error Float) η) (row : σ → ρ) (s : σ) (run : Run τ ρ (Error Float)) :
    Prop :=
  ∀ {rows t}, scheme.Leads s rows t → rows.length < limits.maxIters → ¬IsFinite (row t) →
    run.rows = before ++ rows ∧ ∃ cause, run.result = .error cause ∧ cause.IsUnfit limits

/-- All rows of a call are finite, and so is its answer. -/
structure ShowsFinite [TraceRow ρ Float Float] (IsFinite : ρ → Prop)
    (run : Run τ ρ (Error Float)) : Prop where
  rows : ∀ row ∈ run.rows, IsFinite row
  answer : ∀ {solution}, run.result = .ok solution → solution.answer.isFinite = true

/-- What is not finite surfaces as a failure. `seeds` are the values of the function that the start
takes into account. -/
structure ReportsUnfit [TraceRow ρ Float Float] (limits : Limits Float) (IsFinite : ρ → Prop)
    (start : Except (Error Float) σ) (seeds : σ → List Float)
    (scheme : Scheme σ ρ (Error Float) Unit) (row : σ → ρ) (o : Observer τ ρ)
    (run : Run τ ρ (Error Float)) : Prop extends ShowsFinite IsFinite run where
  refused : ∀ {cause}, start = .error cause → run.rows = [] ∧ run.result = .error cause
  seeded : ∀ {s}, start = .ok s → ∀ v ∈ seeds s, v.isFinite = true
  surfaces : ∀ {s}, start = .ok s → o.Passes run.events →
    Surfaces limits IsFinite [] scheme row s run

section Guarded

variable {limits : Limits Float} {IsFinite : ρ → Prop} {scheme : Scheme σ ρ (Error Float) η}
  {r : Recurrence ς ρ} {Inv : σ → Prop} {view : σ → ς}

/-- Where the row would not be finite, the iteration fails. -/
theorem IsGuarded.exists_error (guarded : IsGuarded limits IsFinite scheme)
    (computes : scheme.Computes r Inv view) {t : σ} (inv : Inv t)
    (h : ¬IsFinite (r.row (view t))) : ∃ cause, scheme t = .error cause ∧ cause.IsUnfit limits := by
  obtain ⟨cause, failed⟩ := computes.exists_error guarded.finite inv h
  exact ⟨cause, failed, guarded.fails t cause failed⟩

theorem showsFinite_of_rows [TraceRow ρ Float Float] {run : Run τ ρ (Error Float)}
    {maxPasses maxRows : Nat} {o : Observer τ ρ} (accounts : run.Accounts 1 maxPasses maxRows o)
    (answer : ∀ {row}, IsFinite row → (TraceRow.answer row : Float).isFinite = true)
    (rows : ∀ row ∈ run.rows, IsFinite row) : ShowsFinite IsFinite run :=
  ⟨rows, fun hs => answer (rows _ (accounts.last_mem hs))⟩

end Guarded

/-- A call reports what is not fit if its iterations are guarded, and the start guards the values
that it takes into account. -/
theorem IsGuarded.call_reportsUnfit [TraceRow ρ Float Float] {limits : Limits Float}
    {IsFinite : ρ → Prop} {scheme : Scheme σ ρ (Error Float) Unit} {r : Recurrence ς ρ}
    {Inv : σ → Prop} {view : σ → ς} {start : Except (Error Float) σ} {seeds : σ → List Float}
    (guarded : IsGuarded limits IsFinite scheme) (computes : scheme.Computes r Inv view)
    (answer : ∀ {row}, IsFinite row → (TraceRow.answer row : Float).isFinite = true)
    (begins : ∀ {s}, start = .ok s → Inv s)
    (seeded : ∀ {s}, start = .ok s → ∀ v ∈ seeds s, v.isFinite = true) (o : Observer τ ρ)
    (exhausted : Error Float) :
    ReportsUnfit limits IsFinite start seeds scheme (fun t => r.row (view t)) o
      (scheme.call o limits.maxIters 1 exhausted start) where
  toShowsFinite :=
    showsFinite_of_rows (scheme.call_accounts o limits.maxIters 1 exhausted start) answer
      (Scheme.forall_mem_rows_call (fun _ => trivial) (fun _ _ => trivial) fun _ => guarded.finite)
  refused h := by
    subst h
    exact ⟨rfl, rfl⟩
  seeded := seeded
  surfaces {s} hstart passes rows t leads room h := by
    obtain ⟨cause, failed, unfit⟩ :=
      guarded.exists_error computes (leads.view_eq computes (begins hstart)).1 h
    obtain ⟨rows_eq, result⟩ := Scheme.call_of_leads hstart passes leads room failed
    exact ⟨rows_eq, cause, result, unfit⟩

/-! ## Guards -/

section Guards

variable {limits : Limits Float} {x v : Float}

theorem finite_fails : FailsOnly (Error.IsUnfit limits) (Guard.finite x v) := by
  unfold Guard.finite
  split
  · exact .ok v
  · next h => exact .error (Bool.eq_false_iff.2 h)

theorem divisor_fails : FailsOnly (Error.IsUnfit limits) (Guard.divisor limits x v) := by
  unfold Guard.divisor
  split
  · next small => exact .error small
  · exact .ok v

end Guards

/-! ## Newton's method -/

namespace Newton

/-- All points and values of a row are finite. -/
structure Row.IsFinite (r : Row Float) : Prop where
  x : r.x.isFinite = true
  fX : r.fX.isFinite = true
  derivative : r.derivative.isFinite = true
  next : r.next.isFinite = true

variable {f : ScalarFunction Float} {precision : Float} {limits : Limits Float}

theorem isGuarded : IsGuarded limits Row.IsFinite (scheme f precision limits) where
  finite h := by
    obtain ⟨fX, slope, derivative, next, hfX, hslope, hderivative, hnext, rfl, -⟩ :=
      scheme_eq_ok.1 h
    obtain ⟨finite_value, rfl⟩ := Guard.value_eq_ok.1 hfX
    obtain ⟨finite_slope, rfl⟩ := Guard.finite_eq_ok.1 hslope
    obtain ⟨-, rfl⟩ := Guard.divisor_eq_ok.1 hderivative
    obtain ⟨finite_next, rfl⟩ := Guard.finite_eq_ok.1 hnext
    -- the point itself is not checked, but the next one is computed from it
    exact ⟨(isFinite_of_sub finite_next).1, finite_value, finite_slope, finite_next⟩
  fails _ := finite_fails.bind fun _ _ => finite_fails.bind fun _ _ => divisor_fails.bind
    fun _ _ => finite_fails.bind fun _ _ => .ok _

/-- The start looks at the function and its second derivative at the left end. -/
theorem finite_of_start {left right x : Float} (h : start f left right precision = .ok x) :
    ∀ v ∈ [f.secondDerivative left, f.eval left], v.isFinite = true := by
  obtain ⟨interval, hinputs, h⟩ := bind_eq_ok.1 h
  obtain ⟨side, hside, -⟩ := bind_eq_ok.1 h
  obtain ⟨rfl, -⟩ := Interval.bounds_of_ofBounds (Guard.inputs_eq_ok.1 hinputs).1
  obtain ⟨curvature, finite_value, -⟩ := Guard.startingSide_eq_ok.1 hside
  simpa using ⟨curvature, finite_value⟩

end Newton

/-! ## The secant method -/

namespace Secant

/-- All points and values of a row are finite. -/
structure Row.IsFinite (r : Row Float) : Prop where
  prev : r.prev.isFinite = true
  x : r.x.isFinite = true
  next : r.next.isFinite = true
  fNext : r.fNext.isFinite = true

variable {f : ScalarFunction Float} {precision : Float} {limits : Limits Float}

theorem isGuarded : IsGuarded limits Row.IsFinite (scheme f precision limits) where
  finite h := by
    obtain ⟨fX, slope, next, fNext, -, -, hnext, hfNext, rfl, -⟩ := scheme_eq_ok.1 h
    obtain ⟨finite_next, rfl⟩ := Guard.finite_eq_ok.1 hnext
    obtain ⟨finite_value, rfl⟩ := Guard.value_eq_ok.1 hfNext
    -- so is the difference of the two points, though it may have been divided by an infinity
    obtain ⟨finite_x, finite_step⟩ := isFinite_of_sub finite_next
    have finite_difference := (isFinite_of_div (isFinite_of_mul finite_step).1).1
    exact ⟨(isFinite_of_sub finite_difference).2, finite_x, finite_next, finite_value⟩
  fails _ := finite_fails.bind fun _ _ => divisor_fails.bind fun _ _ => finite_fails.bind
    fun _ _ => finite_fails.bind fun _ _ => .ok _

/-- The start looks at the function and its second derivative at the left end, and at the function
at the first point. -/
theorem finite_of_start {left right offset : Float} {s : Pair Float}
    (h : start f left right precision offset = .ok s) :
    ∀ v ∈ [f.secondDerivative left, f.eval left, f.eval s.prev], v.isFinite = true := by
  obtain ⟨interval, hinputs, h⟩ := bind_eq_ok.1 h
  dsimp only at h
  split at h
  · cases h
  · obtain ⟨side, hside, h⟩ := bind_eq_ok.1 h
    obtain ⟨fPrev, hfPrev, h⟩ := bind_eq_ok.1 h
    obtain rfl := Except.ok.inj h
    obtain ⟨finite_prev, -⟩ := Guard.value_eq_ok.1 hfPrev
    obtain ⟨rfl, -⟩ := Interval.bounds_of_ofBounds (Guard.inputs_eq_ok.1 hinputs).1
    obtain ⟨curvature, finite_value, -⟩ := Guard.startingSide_eq_ok.1 hside
    simpa using ⟨curvature, finite_value, finite_prev⟩

end Secant

/-! ## Simple iteration -/

namespace SimpleIteration

/-- All points and values of a row are finite. -/
structure Row.IsFinite (r : Row Float) : Prop where
  x : r.x.isFinite = true
  next : r.next.isFinite = true
  fNext : r.fNext.isFinite = true

variable {f : ScalarFunction Float} {interval : Interval Float} {left right precision c : Float}
  {samples : Nat} {limits : Limits Float} {o : Observer τ (Row Float)}

theorem isFinite_of_step {x : Float} {row : Row Float} {verdict : Verdict Float (Outcome Float)}
    (h : scheme f interval precision c x = .ok (row, verdict)) : row.IsFinite := by
  obtain ⟨fX, next, fNext, -, hnext, hfNext, rfl, -⟩ := scheme_eq_ok.1 h
  obtain ⟨finite_next, rfl⟩ := Guard.finite_eq_ok.1 hnext
  obtain ⟨finite_value, rfl⟩ := Guard.value_eq_ok.1 hfNext
  exact ⟨(isFinite_of_add finite_next).1, finite_next, finite_value⟩

theorem isGuarded : IsGuarded limits Row.IsFinite (scheme f interval precision c) where
  finite := isFinite_of_step
  fails _ := finite_fails.bind fun _ _ => finite_fails.bind fun _ _ => finite_fails.bind
    fun _ _ => .ok _

/-- The start looks at the derivative at all samples. -/
theorem finite_of_start (h : start f left right precision samples limits = .ok (interval, c)) :
    ∀ j ≤ samples,
      (f.derivative (interval.sample (interval.width / ofNat samples) j)).isFinite = true := by
  obtain ⟨interval', -, h⟩ := bind_eq_ok.1 h
  dsimp only at h
  split at h
  · cases h
  · obtain ⟨slope, hslope, h⟩ := bind_eq_ok.1 h
    obtain ⟨divisor, -, h⟩ := bind_eq_ok.1 h
    obtain ⟨rfl, -⟩ := Prod.mk.inj (Except.ok.inj h)
    intro j hj
    refine (steepestFrom_eq_ok hslope).1 j ?_
    simp
    omega

/-- What is not finite surfaces as a failure, in the first pass or in the second one, which comes
after the rows of the first. -/
structure ReportsUnfit (f : ScalarFunction Float) (left right precision : Float) (samples : Nat)
    (limits : Limits Float) (o : Observer τ (Row Float)) (run : Run τ (Row Float) (Error Float)) :
    Prop extends ShowsFinite Row.IsFinite run where
  refused : ∀ {cause}, start f left right precision samples limits = .error cause →
    run.rows = [] ∧ run.result = .error cause
  seeded : ∀ {interval c}, start f left right precision samples limits = .ok (interval, c) →
    ∀ j ≤ samples,
      (f.derivative (interval.sample (interval.width / ofNat samples) j)).isFinite = true
  first : ∀ {interval c}, start f left right precision samples limits = .ok (interval, c) →
    o.Passes run.events →
    Surfaces limits Row.IsFinite [] (scheme f interval precision c) (textbook f c).row
      interval.left run
  second : ∀ {interval c last x},
    start f left right precision samples limits = .ok (interval, c) → o.Passes run.events →
    (passCourse f interval precision limits c).finish = .halted last (.escaped x) →
    Surfaces limits Row.IsFinite (passCourse f interval precision limits c).rows
      (scheme f interval precision (-c)) (textbook f (-c)).row interval.left run

/-- A pass fails where its next row would not be finite. -/
theorem exists_passCourse_eq {t : Float} {rows : List (Row Float)}
    (leads : (scheme f interval precision c).Leads interval.left rows t)
    (room : rows.length < limits.maxIters) (h : ¬((textbook f c).row t).IsFinite) :
    ∃ cause, passCourse f interval precision limits c = ⟨rows, .failed cause⟩ ∧
      cause.IsUnfit limits := by
  obtain ⟨cause, failed, unfit⟩ := isGuarded.exists_error computes_textbook trivial h
  exact ⟨cause, leads.course_of_error failed room, unfit⟩

theorem solve_reportsUnfit (f : ScalarFunction Float) (left right precision : Float)
    (samples : Nat) (limits : Limits Float) (o : Observer τ (Row Float)) :
    ReportsUnfit f left right precision samples limits o
      (solve f left right precision samples limits o) where
  toShowsFinite :=
    showsFinite_of_rows
      (accounts_of_follows (outline_accounts f left right precision samples limits)
        (solve_follows f left right precision samples limits o))
      (fun h => h.next) (forall_mem_rows_solve isFinite_of_step)
  refused h := by
    rw [solve, h]
    exact ⟨rfl, rfl⟩
  seeded := finite_of_start
  first {interval c} ready passes rows t leads room h := by
    obtain ⟨cause, course_eq, unfit⟩ := exists_passCourse_eq leads room h
    obtain ⟨events, result⟩ := solve_of_passes ready passes
    have inside (last : Row Float) (x : Float) :
        (passCourse f interval precision limits c).finish ≠ .halted last (.escaped x) := by
      rw [course_eq]
      intro escaped
      cases escaped
    rw [outlineFrom_of_not_escaped inside, course_eq] at events result
    refine ⟨?_, cause, result, unfit⟩
    rw [Run.rows, events, Outline.map_row_events]
    simp
  second ready passes escaped rows t leads room h := by
    obtain ⟨cause, course_eq, unfit⟩ := exists_passCourse_eq leads room h
    obtain ⟨events, result⟩ := solve_of_passes ready passes
    rw [outlineFrom_of_escaped escaped, course_eq] at events result
    refine ⟨?_, cause, result, unfit⟩
    rw [Run.rows, events, Outline.map_row_events]
    simp

end SimpleIteration

/-- Newton's method, the secant method and simple iteration show finite rows only, and their answers
are finite, whatever the function, the inputs and the observer are. If the observer never asks to
stop, and the row that is next to be shown as the method is written down is not finite, then the
call ends there and fails. -/
theorem iterates_are_finite {τ : Type} (f : ScalarFunction Float)
    (left right precision offset : Float) (samples : Nat) (limits : Limits Float) :
    (∀ o : Observer τ (Newton.Row Float),
        ReportsUnfit limits Newton.Row.IsFinite (Newton.start f left right precision)
          (fun _ => [f.secondDerivative left, f.eval left]) (Newton.scheme f precision limits)
          (Newton.textbook f).row o (Newton.solve f left right precision limits o)) ∧
      (∀ o : Observer τ (Secant.Row Float),
        ReportsUnfit limits Secant.Row.IsFinite (Secant.start f left right precision offset)
          (fun s => [f.secondDerivative left, f.eval left, f.eval s.prev])
          (Secant.scheme f precision limits) (fun s => (Secant.textbook f).row s.points) o
          (Secant.solve f left right precision offset limits o)) ∧
      ∀ o : Observer τ (SimpleIteration.Row Float),
        SimpleIteration.ReportsUnfit f left right precision samples limits o
          (SimpleIteration.solve f left right precision samples limits o) := by
  refine ⟨fun o => ?_, fun o => ?_, fun o => ?_⟩
  · exact Newton.isGuarded.call_reportsUnfit Newton.computes_textbook (fun h => h.next)
      (fun _ => trivial) Newton.finite_of_start o _
  · exact Secant.isGuarded.call_reportsUnfit Secant.computes_textbook (fun h => h.next)
      (fun h => (Secant.begins_textbook h).1) Secant.finite_of_start o _
  · exact SimpleIteration.solve_reportsUnfit f left right precision samples limits o

end RootFinding.Scalar
