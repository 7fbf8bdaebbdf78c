import RootFinding.Proofs.Methods.Steps
import RootFinding.Proofs.Run.Counting
import RootFinding.Proofs.Scalar.TwoPasses

/-!
# Events and counts of the six methods

`events_and_counts_agree` is the account of all calls. In the scalar methods every row is an
iteration, so there are as many iterations as rows. In the system solver the first row is the start
point, so there is one iteration less. Simple iteration may need two passes, and its trace and its
count are those of the last one alone.
-/

namespace RootFinding

variable {α τ : Type} [Number α]

/-! ## Scalar methods -/

namespace Scalar

/-- The account of a method whose rows are all iterations. -/
structure CountsRows {ρ : Type} (maxPasses maxIters : Nat) (o : Observer τ ρ)
    (run : Run τ ρ (Error α)) : Prop where
  accounts : run.Accounts 1 maxPasses maxIters o
  size : ∀ {solution}, run.result = .ok solution → solution.trace.size = solution.iters
  pos : ∀ {solution}, run.result = .ok solution → 1 ≤ solution.iters
  le : ∀ {solution}, run.result = .ok solution → solution.iters ≤ maxIters

omit [Number α] in
/-- Iterations that are counted from one on are as many as the rows. -/
theorem countsRows_of_accounts {ρ : Type} {maxPasses maxIters : Nat} {o : Observer τ ρ}
    {run : Run τ ρ (Error α)} (h : run.Accounts 1 maxPasses maxIters o) :
    CountsRows maxPasses maxIters o run := by
  have size {solution : Solution ρ} (hs : run.result = .ok solution) :
      solution.trace.size = solution.iters := by
    have count := h.counted hs
    omega
  refine ⟨h, size, ?_, ?_⟩
  · intro solution hs
    rw [← size hs, Trace.size]
    exact Nat.succ_pos _
  · intro solution hs
    rw [← size hs]
    exact h.size_le hs

theorem SimpleIteration.lastResult_keepsTrace (interval : Interval α)
    (limits : Limits α) : KeepsTrace (lastResult interval limits) := by
  intro ending solution hs
  cases ending with
  | halted trace iters outcome =>
    cases outcome with
    | converged =>
      obtain rfl := Except.ok.inj hs
      exact .inl ⟨.converged, rfl⟩
    | escaped x => cases hs
  | stopped trace iters =>
    obtain rfl := Except.ok.inj hs
    exact .inr rfl
  | exhausted => cases hs
  | failed cause => cases hs

/-- A pass of simple iteration is as long as the limits allow, whichever pass it is. -/
theorem SimpleIteration.outline_accounts (f : ScalarFunction α) (left right precision : α)
    (samples : Nat) (limits : Limits α) :
    (outline f left right precision samples limits).Accounts 1 2 limits.maxIters := by
  rw [outline]
  cases hstart : start f left right precision samples limits with
  | error cause => exact Outline.accounts_of_refused
  | ok ready =>
    obtain ⟨interval, coefficient⟩ := ready
    have short (c : α) : (passCourse f interval precision limits c).rows.length ≤ limits.maxIters :=
      Scheme.length_course_rows_le _ _ _
    obtain ⟨done, d, outline_eq, few, earlier⟩ :=
      outlineFrom_cases f interval precision limits coefficient
    dsimp only
    rw [outline_eq]
    refine Outline.accounts_of_course (lastResult_keepsTrace interval limits) (short d)
      (Nat.lt_succ_of_le few) ?_
    intro rows hrows
    obtain ⟨d', rfl⟩ := earlier rows hrows
    exact short d'

end Scalar

/-! ## Fixed-point iteration -/

namespace Systems.FixedPoint

/-- The account of a method whose first row, the start point, is no iteration. -/
structure CountsAfterStart (start : Point α) (maxIters : Nat) (o : Observer τ (Row α))
    (run : Run τ (Row α) (Error α)) : Prop where
  accounts : run.Accounts 0 1 (maxIters + 1) o
  size : ∀ {solution}, run.result = .ok solution → solution.trace.size = solution.iters + 1
  le : ∀ {solution}, run.result = .ok solution → solution.iters ≤ maxIters
  /-- A call succeeds without an iteration if the observer asks to stop at the start point. -/
  zero : ∀ {solution}, run.result = .ok solution →
    (solution.iters = 0 ↔ (o.observe ⟨1, .seed start⟩).action = some .stopEarly)

section

variable {system : EquationSystem α} {intervals : List (Interval α)} {point : Point α}
  {precision : α}

/-- The first row of a course is the start point, and the course goes on from there. -/
theorem course_seed (ceiling : Nat) :
    (scheme system intervals precision).course (ceiling + 1) (.seed point) =
      ((scheme system intervals precision).course ceiling (.iterate point)).cons (.seed point) :=
  rfl

/-- A call that succeeds has made no iteration exactly if the observer stops it at the start
point. -/
theorem iters_eq_zero_iff {limits : Limits α} {o : Observer τ (Row α)} {solution : Solution (Row α)}
    (hs : (solve system intervals point precision limits o).result = .ok solution) :
    solution.iters = 0 ↔ (o.observe ⟨1, .seed point⟩).action = some .stopEarly := by
  have follows := (scheme system intervals precision).call_follows o (limits.maxIters + 1) 0
    (.maxIters limits.maxIters) (start system intervals point precision limits)
  rw [← solve] at follows
  cases hstart : start system intervals point precision limits with
  | error cause =>
    rw [solve, hstart] at hs
    cases hs
  | ok s =>
    obtain ⟨-, -, rfl⟩ := start_eq_ok.1 hstart
    rw [hstart, Scheme.outline, course_seed] at follows
    generalize (scheme system intervals precision).course limits.maxIters (.iterate point) = c
      at follows
    cases follows with
    | whole passes events observer result =>
      -- the start point has passed, and the course halts at a later row
      rw [Outline.events, Event.ofPasses_cons, Event.ofRows_eq, Course.rows_cons,
        Event.ofRowsFrom_cons] at passes
      have quiet : (o.observe ⟨1, .seed point⟩).action = none := passes.1
      obtain ⟨earlier, finish⟩ := c
      cases finish with
      | halted last outcome =>
        obtain rfl := Except.ok.inj (result.symm.trans hs)
        simp [quiet, Course.cons]
      | exhausted => cases result.symm.trans hs
      | failed cause => cases result.symm.trans hs
    | @broken done later before rest row split stops events observer result =>
      obtain ⟨rfl, rows_eq⟩ := Outline.split_of_single split
      obtain rfl := Except.ok.inj (result.symm.trans hs)
      obtain ⟨passes, asked⟩ := stops
      cases before with
      | nil =>
        obtain ⟨rfl, -⟩ := List.cons.inj rows_eq
        exact ⟨fun _ => asked, fun _ => rfl⟩
      | cons first before =>
        -- the start point has passed, and the observer stops the call at a later row
        obtain ⟨rfl, -⟩ := List.cons.inj rows_eq
        rw [Event.ofPasses_nil, List.nil_append, Event.ofRows_eq, Event.ofRowsFrom_cons] at passes
        have quiet : (o.observe ⟨1, .seed point⟩).action = none := passes.1
        simp [quiet, Outline.brokenOff]

end

/-- The system solver counts its iterations from the start point on. -/
theorem solve_countsAfterStart (system : EquationSystem α) (intervals : List (Interval α))
    (point : Point α) (precision : α) (limits : Limits α) (o : Observer τ (Row α)) :
    CountsAfterStart point limits.maxIters o
      (solve system intervals point precision limits o) := by
  have accounts : (solve system intervals point precision limits o).Accounts 0 1
      (limits.maxIters + 1) o := Scheme.call_accounts _ _ _ _ _ _
  have size {solution : Solution (Row α)}
      (hs : (solve system intervals point precision limits o).result = .ok solution) :
      solution.trace.size = solution.iters + 1 :=
    (Nat.zero_add _).symm.trans (accounts.counted hs)
  refine ⟨accounts, size, ?_, iters_eq_zero_iff⟩
  intro solution hs
  have le := accounts.size_le hs
  rw [size hs] at le
  exact Nat.le_of_succ_le_succ le

end Systems.FixedPoint

/-- In every call of any of the six methods the events, the rows and the iterations are counted
alike: the events of a pass are its rows, numbered from one on, a trace has the rows of the last
pass, and the number of iterations is the number of its rows, without the start point. -/
theorem events_and_counts_agree [NumberText α] (f : ScalarFunction α)
    (left right precision offset : α) (samples : Nat) (limits : Scalar.Limits α)
    (system : EquationSystem α) (intervals : List (Interval α)) (point : Point α)
    (bounds : Systems.Limits α) :
    (∀ o : Observer τ (Scalar.Bisection.Row α),
        Scalar.CountsRows 1 limits.maxIters o
          (Scalar.Bisection.solve f left right precision limits o)) ∧
      (∀ o : Observer τ (Scalar.Chord.Row α),
        Scalar.CountsRows 1 limits.maxIters o
          (Scalar.Chord.solve f left right precision limits o)) ∧
      (∀ o : Observer τ (Scalar.Newton.Row α),
        Scalar.CountsRows 1 limits.maxIters o
          (Scalar.Newton.solve f left right precision limits o)) ∧
      (∀ o : Observer τ (Scalar.Secant.Row α),
        Scalar.CountsRows 1 limits.maxIters o
          (Scalar.Secant.solve f left right precision offset limits o)) ∧
      (∀ o : Observer τ (Scalar.SimpleIteration.Row α),
        Scalar.CountsRows 2 limits.maxIters o
          (Scalar.SimpleIteration.solve f left right precision samples limits o)) ∧
      ∀ o : Observer τ (Systems.Row α),
        Systems.FixedPoint.CountsAfterStart point bounds.maxIters o
          (Systems.FixedPoint.solve system intervals point precision bounds o) := by
  refine ⟨?_, ?_, ?_, ?_, ?_, ?_⟩
  · exact fun o => Scalar.countsRows_of_accounts (Scheme.call_accounts _ o _ _ _ _)
  · exact fun o => Scalar.countsRows_of_accounts (Scheme.call_accounts _ o _ _ _ _)
  · exact fun o => Scalar.countsRows_of_accounts (Scheme.call_accounts _ o _ _ _ _)
  · exact fun o => Scalar.countsRows_of_accounts (Scheme.call_accounts _ o _ _ _ _)
  · intro o
    refine Scalar.countsRows_of_accounts (accounts_of_follows ?_
      (Scalar.SimpleIteration.solve_follows f left right precision samples limits o))
    exact Scalar.SimpleIteration.outline_accounts f left right precision samples limits
  · exact Systems.FixedPoint.solve_countsAfterStart system intervals point precision bounds

end RootFinding
