import RootFinding.Proofs.Run.Refinement

/-!
# Stopping rules

A scheme goes by a stopping rule if it halts with its good outcome at exactly the rows where the
rule holds. A call of such a scheme ends at the first row where the rule holds, unless something
else ends it before (`Obeys`): an observer who asks to stop, the ceiling, or a failure.

## Shape of the arguments

* `Course.GoesBy` is what a rule says about a single course. It is derived from one iteration
  (`Scheme.course_goesBy`), by way of the states that lead to the rows.
* `Outline.GoesBy` collects this over the passes of a call (`Outline.goesBy_of_course`).
* `obeys_of_follows` carries it over to the watched call.
-/

namespace RootFinding

variable {σ τ ρ ε η : Type}

/-- A stopping rule with the ceiling that goes with it. -/
structure StoppingRule (ρ ε : Type) where
  /-- The rule holds at a row. -/
  holds : ρ → Prop
  /-- Whether a row counts against the ceiling. -/
  isIterate : ρ → Bool
  ceiling : Nat
  /-- An error tells of a reached ceiling. -/
  isCeiling : ε → Prop

/-! ## Courses -/

/-- What a rule says about a course that halts with the outcome `good` when the rule holds. -/
structure Course.GoesBy (rule : StoppingRule ρ ε) (good : η) (c : Course ρ ε η) : Prop where
  earlier : ∀ row ∈ c.earlier, ¬rule.holds row
  halted : ∀ {last outcome}, c.finish = .halted last outcome → (rule.holds last ↔ outcome = good)
  exhausted : c.finish = .exhausted → c.earlier.countP rule.isIterate = rule.ceiling
  failed : ∀ {cause}, c.finish = .failed cause → ¬rule.isCeiling cause

theorem Course.mem_earlier_of_mem_dropLast {c : Course ρ ε η} {row : ρ}
    (h : row ∈ c.rows.dropLast) : row ∈ c.earlier := by
  obtain ⟨earlier, finish⟩ := c
  cases finish with
  | halted last outcome => rwa [rows_halted, List.dropLast_concat] at h
  | exhausted => exact List.dropLast_subset _ (rows_exhausted earlier ▸ h)
  | failed cause => exact List.dropLast_subset _ (rows_failed earlier cause ▸ h)

namespace Scheme

/-- A property of the rows from which a scheme goes on, by an invariant of the states. -/
theorem Leads.forall_mem {scheme : Scheme σ ρ ε η} {Inv : σ → Prop} {Q : ρ → Prop}
    (next : ∀ {s row t}, Inv s → scheme s = .ok (row, .next t) → Inv t ∧ Q row) {s t : σ}
    {rows : List ρ} (leads : scheme.Leads s rows t) (inv : Inv s) : ∀ row ∈ rows, Q row := by
  induction leads with
  | refl => simp
  | step first _ ih =>
    obtain ⟨inv, holds⟩ := next inv first
    exact List.forall_mem_cons.2 ⟨holds, ih inv⟩

/-- A course goes by a rule if each iteration does, if no iteration reports the ceiling, and if a
course that nothing ends has the right number of iterates. -/
theorem course_goesBy {scheme : Scheme σ ρ ε η} {rule : StoppingRule ρ ε} {good : η}
    {rowCeiling : Nat} {s : σ}
    (decides : ∀ {s row verdict}, scheme s = .ok (row, verdict) →
      (rule.holds row ↔ verdict = .halt good))
    (avoids : ∀ s cause, scheme s = .error cause → ¬rule.isCeiling cause)
    (count : ∀ {rows t}, scheme.Leads s rows t → rows.length = rowCeiling →
      rows.countP rule.isIterate = rule.ceiling) :
    (scheme.course rowCeiling s).GoesBy rule good := by
  obtain ⟨t, leads, ends⟩ := scheme.course_spec rowCeiling s
  have fails {s t : σ} {row : ρ} (_ : True) (h : scheme s = .ok (row, .next t)) :
      True ∧ ¬rule.holds row := by
    refine ⟨trivial, ?_⟩
    intro holds
    have halts := (decides h).1 holds
    cases halts
  refine ⟨leads.forall_mem fails trivial, ?_, ?_, ?_⟩
  · intro last outcome finish
    rw [finish] at ends
    rw [decides ends.2, Verdict.halt.injEq]
  · intro finish
    rw [finish] at ends
    exact count leads ends
  · intro cause finish
    rw [finish] at ends
    exact avoids t cause ends.2

end Scheme

/-! ## Outlines -/

/-- What a rule says about an outline. -/
structure Outline.GoesBy (rule : StoppingRule ρ ε) (p : Outline ρ ε) : Prop where
  /-- In each pass, the rule does not hold at the rows before the last one. -/
  earlier : ∀ rows ∈ p.passes, ∀ row ∈ rows.dropLast, ¬rule.holds row
  /-- A solution has the rows of the last pass, and the rule holds at its last row. -/
  solved : ∀ {solution}, p.result = .ok solution →
    solution.status = .converged ∧ rule.holds solution.trace.last ∧
      ∃ done, p.passes = done ++ [solution.trace.rows]
  /-- When the ceiling is reached, the last pass has as many iterates as it allows, and the rule
  holds at none of its rows. -/
  ranOut : ∀ {cause}, p.result = .error cause → rule.isCeiling cause →
    ∃ done rows, p.passes = done ++ [rows] ∧ rows.countP rule.isIterate = rule.ceiling ∧
      ∀ row ∈ rows, ¬rule.holds row

/-- How a method makes its result of the ending of a pass that nobody stops: it succeeds with the
outcome `good` and with nothing else, and what it reports of another outcome is not the ceiling. -/
structure Concludes (rule : StoppingRule ρ ε) (good : η)
    (resultOf : Ending ρ ε η → Except ε (Solution ρ)) : Prop where
  halted : ∀ {trace iters outcome solution}, resultOf (.halted trace iters outcome) = .ok solution →
    outcome = good ∧ solution.status = .converged ∧ solution.trace = trace
  givenUp : ∀ {trace iters outcome cause}, resultOf (.halted trace iters outcome) = .error cause →
    ¬rule.isCeiling cause
  exhausted : ∀ solution, resultOf .exhausted ≠ .ok solution
  failed : ∀ cause, resultOf (.failed cause) = .error cause

/-- An outline goes by a rule if its last course does, whose ending makes the result, and if nothing
is wrong with the passes that are `done` before. -/
theorem Outline.goesBy_of_course {rule : StoppingRule ρ ε} {good : η} {c : Course ρ ε η}
    {resultOf : Ending ρ ε η → Except ε (Solution ρ)} {first : Nat} {done : List (List ρ)}
    (goes : c.GoesBy rule good) (concludes : Concludes rule good resultOf)
    (before : ∀ rows ∈ done, ∀ row ∈ rows.dropLast, ¬rule.holds row) :
    GoesBy rule ⟨done ++ [c.rows], resultOf (c.ending first)⟩ := by
  refine ⟨?_, ?_, ?_⟩
  · intro rows hrows row hrow
    rcases List.mem_append.1 hrows with hrows | hrows
    · exact before rows hrows row hrow
    · rw [List.mem_singleton.1 hrows] at hrow
      exact goes.earlier row (Course.mem_earlier_of_mem_dropLast hrow)
  · intro solution hs
    obtain ⟨earlier, finish⟩ := c
    cases finish with
    | halted last outcome =>
      obtain ⟨rfl, converged, htrace⟩ := concludes.halted hs
      rw [htrace]
      exact ⟨converged, (goes.halted rfl).2 rfl, done, rfl⟩
    | exhausted => exact absurd hs (concludes.exhausted solution)
    | failed cause => cases (concludes.failed cause).symm.trans hs
  · intro cause hc ceil
    obtain ⟨earlier, finish⟩ := c
    cases finish with
    | halted last outcome => exact absurd ceil (concludes.givenUp hc)
    | exhausted =>
      rw [Course.rows_exhausted]
      exact ⟨done, earlier, rfl, goes.exhausted rfl, goes.earlier⟩
    | failed cause' =>
      obtain rfl := Except.error.inj ((concludes.failed cause').symm.trans hc)
      exact absurd ceil (goes.failed rfl)

/-- A call that is refused goes by every rule whose ceiling it does not report. -/
theorem Outline.goesBy_of_refused {rule : StoppingRule ρ ε} {cause : ε}
    (h : ¬rule.isCeiling cause) : GoesBy rule ⟨[], .error cause⟩ := by
  refine ⟨by simp, ?_, ?_⟩
  · intro solution hs
    cases hs
  · intro cause' hc ceil
    cases hc
    exact absurd ceil h

/-! ## Calls -/

/-- How a watched call obeys a stopping rule. -/
structure Obeys (rule : StoppingRule ρ ε) (o : Observer τ ρ) (run : Run τ ρ ε) : Prop where
  /-- In a trace, the rule does not hold at the rows before the last one. -/
  earlier : ∀ {solution}, run.result = .ok solution →
    ∀ row ∈ solution.trace.earlier.toList, ¬rule.holds row
  /-- A call converges only at a row where the rule holds. -/
  converged : ∀ {solution}, run.result = .ok solution → solution.status = .converged →
    rule.holds solution.trace.last
  /-- The last row of a trace is the last one offered to the observer, and unless the observer acts
  on it the call has converged. -/
  unstopped : ∀ {solution}, run.result = .ok solution →
    ∃ before e, run.events = before ++ [e] ∧ e.row = solution.trace.last ∧
      (((o.after before).observe e).action = none → solution.status = .converged)
  /-- When the ceiling is reached, the last pass has as many iterates as it allows, the rule holds
  at none of its rows, and the observer has acted on none. -/
  ranOut : ∀ {cause}, run.result = .error cause → rule.isCeiling cause →
    (Event.currentPass run.events).countP rule.isIterate = rule.ceiling ∧
      (∀ row ∈ Event.currentPass run.events, ¬rule.holds row) ∧ o.Passes run.events

theorem mem_dropLast_of_split {before rest : List ρ} {row x : ρ} (hx : x ∈ before) :
    x ∈ (before ++ row :: rest).dropLast := by
  rw [List.dropLast_append_of_ne_nil (List.cons_ne_nil row rest)]
  exact List.mem_append_left _ hx

/-- A watched call obeys the rule that its outline goes by. -/
theorem obeys_of_follows {rule : StoppingRule ρ ε} {first : Nat} {p : Outline ρ ε}
    {o : Observer τ ρ} {run : Run τ ρ ε} (positive : 0 < rule.ceiling) (goes : p.GoesBy rule)
    (h : p.Follows first o run) : Obeys rule o run := by
  cases h with
  | whole passes events observer result =>
    -- the call is the outline, so its trace is the last pass
    have last_pass {done : List (List ρ)} {rows : List ρ} (split : p.passes = done ++ [rows]) :
        run.events = Event.ofPasses done ++ Event.ofRows rows := by
      rw [events, Outline.events, split, Event.ofPasses_append, Event.ofPasses_cons,
        Event.ofPasses_nil, List.append_nil]
    refine ⟨?_, ?_, ?_, ?_⟩
    · intro solution hs row hrow
      obtain ⟨-, -, done, split⟩ := goes.solved (result ▸ hs)
      refine goes.earlier _ (split ▸ List.mem_append_right done (List.mem_singleton_self _)) row ?_
      exact mem_dropLast_of_split hrow
    · intro solution hs _
      exact (goes.solved (result ▸ hs)).2.1
    · intro solution hs
      obtain ⟨converged, -, done, split⟩ := goes.solved (result ▸ hs)
      exact ⟨_, _, (last_pass split).trans (Event.ofPasses_concat done _ _), rfl,
        fun _ => converged⟩
    · -- the last pass has an iterate, so it is the current one after all events
      intro cause hc ceil
      obtain ⟨done, rows, split, count, fails⟩ := goes.ranOut (result ▸ hc) ceil
      have nonempty : rows ≠ [] := by
        rintro rfl
        exact absurd count (Nat.ne_of_lt positive)
      have current : Event.currentPass run.events = rows := by
        rw [last_pass split, Event.currentPass_append_ofRows _ nonempty]
      rw [current, events]
      exact ⟨count, fails, passes⟩
  | @broken done later before rest row split stops events observer result =>
    -- the call is broken off, so it has a solution, whose last row the observer acts on
    have is_solution {solution : Solution ρ} (hs : run.result = .ok solution) :
        Outline.brokenOff first before row = solution := Except.ok.inj (result ▸ hs)
    refine ⟨?_, ?_, ?_, ?_⟩
    · intro solution hs x hx
      obtain rfl := is_solution hs
      refine goes.earlier (before ++ row :: rest) ?_ x (mem_dropLast_of_split hx)
      rw [split]
      exact List.mem_append_right done List.mem_cons_self
    · intro solution hs converged
      obtain rfl := is_solution hs
      cases converged
    · intro solution hs
      obtain rfl := is_solution hs
      refine ⟨_, _, events.trans (Event.ofPasses_concat done before row), rfl, ?_⟩
      intro quiet
      cases quiet.symm.trans stops.2
    · intro cause hc _
      cases result.symm.trans hc

/-- A call of a method with one pass obeys a rule if its iterations go by it. -/
theorem Scheme.call_obeys {scheme : Scheme σ ρ ε Unit} {rule : StoppingRule ρ ε}
    {o : Observer τ ρ} {rowCeiling first : Nat} {exhausted : ε}
    {start : Except ε σ} (positive : 0 < rule.ceiling)
    (decides : ∀ {s row verdict}, scheme s = .ok (row, verdict) →
      (rule.holds row ↔ verdict = .halt ()))
    (avoids_start : ∀ cause, start = .error cause → ¬rule.isCeiling cause)
    (avoids : ∀ s cause, scheme s = .error cause → ¬rule.isCeiling cause)
    (count : ∀ {s rows t}, start = .ok s → scheme.Leads s rows t → rows.length = rowCeiling →
      rows.countP rule.isIterate = rule.ceiling) :
    Obeys rule o (scheme.call o rowCeiling first exhausted start) := by
  refine obeys_of_follows positive ?_ (scheme.call_follows o rowCeiling first exhausted start)
  cases start with
  | error cause => exact Outline.goesBy_of_refused (avoids_start cause rfl)
  | ok s =>
    have concludes : Concludes rule () (resultOf (ρ := ρ) exhausted) := by
      refine ⟨?_, ?_, ?_, fun _ => rfl⟩
      · intro trace iters outcome solution hs
        cases hs
        exact ⟨rfl, rfl, rfl⟩
      · intro trace iters outcome cause hc
        cases hc
      · intro solution hs
        cases hs
    have before : ∀ rows ∈ ([] : List (List ρ)), ∀ row ∈ rows.dropLast, ¬rule.holds row := by simp
    exact Outline.goesBy_of_course
      (scheme.course_goesBy decides avoids fun leads => count rfl leads) concludes before

end RootFinding
