import RootFinding.Proofs.Methods.Steps
import RootFinding.Proofs.Run.StoppingRule

/-!
# The stopping rules of the six methods

Each method ends at the first row where its stopping rule holds, and only there. The rules are
written out as propositions about rows, independently of the tests that the schemes make.
-/

namespace RootFinding

open Number

variable {α τ : Type} [Number α]

/-- A scheme that goes on where its test fails halts where its test succeeds. -/
theorem Verdict.ite_eq_halt {σ : Type} {test : Bool} {t : σ} :
    (if test then Verdict.halt () else .next t) = .halt () ↔ test = true := by
  cases test <;> simp

/-! ## Methods with one pass -/

namespace Scalar

/-- In a method whose rows are all iterates, the number of iterates is the number of rows. -/
theorem countP_true {ρ : Type} {rows : List ρ} {count : Nat} (h : rows.length = count) :
    rows.countP (fun _ => true) = count := by
  rw [List.countP_true, h]

variable (f : ScalarFunction α) (left right precision : α) (limits : Limits α)

/-- Bisection stops at a narrow bracket or a small value. -/
def Bisection.stoppingRule : StoppingRule (Bisection.Row α) (Error α) where
  holds r := r.width < precision ∨ abs r.fX < precision
  isIterate _ := true
  ceiling := limits.maxIters
  isCeiling := Error.IsCeiling

theorem Bisection.isFinal_iff {r : Bisection.Row α} :
    r.isFinal precision = true ↔
      r.width < precision ∨ abs r.fX < precision := by
  simp [Bisection.Row.isFinal]

theorem Bisection.solve_obeys (o : Observer τ (Bisection.Row α)) :
    Obeys (Bisection.stoppingRule precision limits) o
      (Bisection.solve f left right precision limits o) := by
  refine Scheme.call_obeys limits.maxIters_pos ?_ avoids_bracket Bisection.avoids_scheme
    fun _ _ => countP_true
  intro s row verdict h
  obtain ⟨fX, -, -, rfl⟩ := Bisection.scheme_eq_ok.1 h
  rw [Verdict.ite_eq_halt, Bisection.isFinal_iff]
  rfl

/-- The chord method stops at a narrow bracket, a short step or a small value. -/
def Chord.stoppingRule : StoppingRule (Chord.Row α) (Error α) where
  holds r := r.right - r.left < precision ∨ r.change < precision ∨ abs r.fX < precision
  isIterate _ := true
  ceiling := limits.maxIters
  isCeiling := Error.IsCeiling

theorem Chord.isFinal_iff {r : Chord.Row α} :
    r.isFinal precision = true ↔
      r.right - r.left < precision ∨ r.change < precision ∨ abs r.fX < precision := by
  simp [Chord.Row.isFinal, or_assoc]

theorem Chord.solve_obeys (o : Observer τ (Chord.Row α)) :
    Obeys (Chord.stoppingRule precision limits) o
      (Chord.solve f left right precision limits o) := by
  refine Scheme.call_obeys limits.maxIters_pos ?_ Chord.avoids_start Chord.avoids_scheme
    fun _ _ => countP_true
  intro s row verdict h
  obtain ⟨slope, fX, -, -, -, rfl⟩ := Chord.scheme_eq_ok.1 h
  rw [Verdict.ite_eq_halt, Chord.isFinal_iff]
  rfl

/-- Newton's method stops at a short step, as taken or as computed, or a small value. -/
def Newton.stoppingRule : StoppingRule (Newton.Row α) (Error α) where
  holds r := r.change < precision ∨ abs (r.fX / r.derivative) < precision ∨ abs r.fX < precision
  isIterate _ := true
  ceiling := limits.maxIters
  isCeiling := Error.IsCeiling

theorem Newton.isFinal_iff {r : Newton.Row α} :
    r.isFinal precision = true ↔
      r.change < precision ∨ abs (r.fX / r.derivative) < precision ∨ abs r.fX < precision := by
  simp [Newton.Row.isFinal, or_assoc]

theorem Newton.solve_obeys (o : Observer τ (Newton.Row α)) :
    Obeys (Newton.stoppingRule precision limits) o
      (Newton.solve f left right precision limits o) := by
  refine Scheme.call_obeys limits.maxIters_pos ?_ Newton.avoids_start Newton.avoids_scheme
    fun _ _ => countP_true
  intro x row verdict h
  obtain ⟨fX, slope, derivative, next, -, -, -, -, -, rfl⟩ := Newton.scheme_eq_ok.1 h
  rw [Verdict.ite_eq_halt, Newton.isFinal_iff]
  rfl

/-- The secant method stops at a short step or a small value. -/
def Secant.stoppingRule : StoppingRule (Secant.Row α) (Error α) where
  holds r := r.change < precision ∨ abs r.fNext < precision
  isIterate _ := true
  ceiling := limits.maxIters
  isCeiling := Error.IsCeiling

theorem Secant.isFinal_iff {r : Secant.Row α} :
    r.isFinal precision = true ↔
      r.change < precision ∨ abs r.fNext < precision := by
  simp [Secant.Row.isFinal]

theorem Secant.solve_obeys (offset : α) (o : Observer τ (Secant.Row α)) :
    Obeys (Secant.stoppingRule precision limits) o
      (Secant.solve f left right precision offset limits o) := by
  refine Scheme.call_obeys limits.maxIters_pos ?_ Secant.avoids_start Secant.avoids_scheme
    fun _ _ => countP_true
  intro s row verdict h
  obtain ⟨fX, slope, next, fNext, -, -, -, -, -, rfl⟩ := Secant.scheme_eq_ok.1 h
  rw [Verdict.ite_eq_halt, Secant.isFinal_iff]
  rfl

/-! ## Simple iteration -/

namespace SimpleIteration

/-- Simple iteration stops at a short step that stays in the bracket. -/
def stoppingRule : StoppingRule (Row α) (Error α) where
  holds r := (left ≤ r.next ∧ r.next ≤ right) ∧ r.change < precision
  isIterate _ := true
  ceiling := limits.maxIters
  isCeiling := Error.IsCeiling

variable {f left right precision limits}

/-- Each pass goes by the rule, whichever sign the coefficient has; a step out of the bracket ends
it too, but the rule does not hold there. -/
theorem passCourse_goesBy {interval : Interval α} (hleft : interval.left = left)
    (hright : interval.right = right) (coefficient : α) :
    (passCourse f interval precision limits coefficient).GoesBy
      (stoppingRule left right precision limits) .converged := by
  refine Scheme.course_goesBy ?_ avoids_scheme fun _ => countP_true
  intro x row verdict h
  obtain ⟨fX, next, fNext, -, -, -, rfl, rfl⟩ := scheme_eq_ok.1 h
  subst hleft hright
  simp only [stoppingRule, ← Interval.contains_iff]
  cases interval.contains next with
  | false => simp
  | true =>
    by_cases short : abs (next - x) < precision
    · simp [short]
    · simp [short]

theorem lastResult_concludes (interval : Interval α) :
    Concludes (stoppingRule left right precision limits) .converged
      (lastResult interval limits) := by
  refine ⟨?_, ?_, ?_, fun _ => rfl⟩
  · intro trace iters outcome solution hs
    cases outcome with
    | converged =>
      cases hs
      exact ⟨rfl, rfl, rfl⟩
    | escaped x => cases hs
  · intro trace iters outcome cause hc
    cases outcome with
    | converged => cases hc
    | escaped x =>
      cases hc
      exact id
  · intro solution hs
    cases hs

variable (f left right precision limits)

theorem outline_goesBy (samples : Nat) :
    (outline f left right precision samples limits).GoesBy
      (stoppingRule left right precision limits) := by
  rw [outline]
  cases hstart : start f left right precision samples limits with
  | error cause => exact Outline.goesBy_of_refused (avoids_start cause hstart)
  | ok ready =>
    obtain ⟨interval, coefficient⟩ := ready
    obtain ⟨hleft, hright⟩ := bounds_of_start hstart
    obtain ⟨done, d, outline_eq, -, earlier⟩ :=
      outlineFrom_cases f interval precision limits coefficient
    dsimp only
    rw [outline_eq]
    refine Outline.goesBy_of_course (passCourse_goesBy hleft hright d)
      (lastResult_concludes interval) ?_
    -- a first pass that escapes counts too: the rule holds at none of its rows before the last
    intro rows hrows row hrow
    obtain ⟨d', rfl⟩ := earlier rows hrows
    exact (passCourse_goesBy hleft hright d').earlier row (Course.mem_earlier_of_mem_dropLast hrow)

theorem solve_obeys [NumberText α] (samples : Nat) (o : Observer τ (Row α)) :
    Obeys (stoppingRule left right precision limits) o
      (solve f left right precision samples limits o) :=
  obeys_of_follows limits.maxIters_pos (outline_goesBy f left right precision limits samples)
    (solve_follows f left right precision samples limits o)

end SimpleIteration

end Scalar

/-! ## Fixed-point iteration -/

namespace Systems.FixedPoint

variable (system : EquationSystem α) (intervals : List (Interval α)) (point : Point α)
  (precision : α) (limits : Limits α)

/-- Fixed-point iteration stops at an iterate none of whose changes exceeds the precision. The row
of the start point is no iterate. -/
def stoppingRule : StoppingRule (Row α) (Error α) where
  holds r := ∃ changes, r.changes = some changes ∧ ∀ change ∈ changes, change ≤ precision
  isIterate r := r.changes.isSome
  ceiling := limits.maxIters
  isCeiling := Error.IsCeiling

variable {precision} in
theorem isSettled_iff {changes : List α} :
    isSettled precision changes = true ↔ ∀ change ∈ changes, change ≤ precision := by
  simp [isSettled]

variable {system intervals precision}

/-- An iteration is the last one if the rule holds at its row. -/
theorem holds_iff_halts (limits : Limits α) {s : State α} {row : Row α}
    {verdict : Verdict (State α) Unit}
    (h : scheme system intervals precision s = .ok (row, verdict)) :
    (stoppingRule precision limits).holds row ↔ verdict = .halt () := by
  cases s with
  | seed start =>
    obtain ⟨rfl, rfl⟩ := scheme_seed_eq_ok.1 h
    simp [stoppingRule, Row.seed]
  | iterate point =>
    obtain ⟨next, -, -, rfl, rfl⟩ := scheme_iterate_eq_ok.1 h
    rw [Verdict.ite_eq_halt, isSettled_iff]
    simp [stoppingRule]

/-- All rows that are recorded after the start point are iterates. -/
theorem countP_iterates {start : Point α} {rows : List (Row α)} {u : State α}
    (leads : (scheme system intervals precision).Leads (.iterate start) rows u) :
    rows.countP (fun r => r.changes.isSome) = rows.length := by
  have step {s : State α} {row : Row α} {t : State α} (inv : ∃ point, s = .iterate point)
      (h : scheme system intervals precision s = .ok (row, .next t)) :
      (∃ point, t = .iterate point) ∧ row.changes.isSome = true := by
    obtain ⟨point, rfl⟩ := inv
    obtain ⟨next, -, -, rfl, verdict⟩ := scheme_iterate_eq_ok.1 h
    refine ⟨?_, rfl⟩
    split at verdict
    · cases verdict
    · exact ⟨next, Verdict.next.inj verdict⟩
  exact List.countP_eq_length.2 (leads.forall_mem step ⟨start, rfl⟩)

/-- A run that has recorded the start point and `count` rows more has made `count` iterations. -/
theorem countP_of_seed {start : Point α} {rows : List (Row α)} {u : State α} {count : Nat}
    (leads : (scheme system intervals precision).Leads (.seed start) rows u)
    (length : rows.length = count + 1) : rows.countP (fun r => r.changes.isSome) = count := by
  cases leads with
  | refl => cases length
  | step first rest =>
    obtain ⟨rfl, hnext⟩ := scheme_seed_eq_ok.1 first
    obtain rfl := Verdict.next.inj hnext
    rw [List.countP_cons_of_neg (by simp [Row.seed]), countP_iterates rest]
    exact Nat.succ.inj length

variable (system intervals precision)

theorem solve_obeys (o : Observer τ (Row α)) :
    Obeys (stoppingRule precision limits) o
      (solve system intervals point precision limits o) := by
  refine Scheme.call_obeys limits.maxIters_pos (holds_iff_halts limits)
    (avoids_start.mono Error.IsCeiling.isLate) avoids_scheme ?_
  intro s rows t hstart leads length
  obtain ⟨-, -, rfl⟩ := start_eq_ok.1 hstart
  exact countP_of_seed leads length

end Systems.FixedPoint

/-- Every method stops at the first row where its stopping rule holds, and only there. -/
theorem methods_obey_their_stopping_rules [NumberText α] (f : ScalarFunction α)
    (left right precision offset : α) (samples : Nat) (limits : Scalar.Limits α)
    (system : EquationSystem α) (intervals : List (Interval α)) (point : Point α)
    (bounds : Systems.Limits α) :
    (∀ o : Observer τ (Scalar.Bisection.Row α),
        Obeys (Scalar.Bisection.stoppingRule precision limits) o
          (Scalar.Bisection.solve f left right precision limits o)) ∧
      (∀ o : Observer τ (Scalar.Chord.Row α),
        Obeys (Scalar.Chord.stoppingRule precision limits) o
          (Scalar.Chord.solve f left right precision limits o)) ∧
      (∀ o : Observer τ (Scalar.Newton.Row α),
        Obeys (Scalar.Newton.stoppingRule precision limits) o
          (Scalar.Newton.solve f left right precision limits o)) ∧
      (∀ o : Observer τ (Scalar.Secant.Row α),
        Obeys (Scalar.Secant.stoppingRule precision limits) o
          (Scalar.Secant.solve f left right precision offset limits o)) ∧
      (∀ o : Observer τ (Scalar.SimpleIteration.Row α),
        Obeys (Scalar.SimpleIteration.stoppingRule left right precision limits) o
          (Scalar.SimpleIteration.solve f left right precision samples limits o)) ∧
      ∀ o : Observer τ (Systems.Row α),
        Obeys (Systems.FixedPoint.stoppingRule precision bounds) o
          (Systems.FixedPoint.solve system intervals point precision bounds o) :=
  ⟨Scalar.Bisection.solve_obeys f left right precision limits,
    Scalar.Chord.solve_obeys f left right precision limits,
    Scalar.Newton.solve_obeys f left right precision limits,
    Scalar.Secant.solve_obeys f left right precision limits offset,
    Scalar.SimpleIteration.solve_obeys f left right precision limits samples,
    Systems.FixedPoint.solve_obeys system intervals point precision bounds⟩

end RootFinding
