import RootFinding.Proofs.Run.StoppingRule

/-!
# Observers that stop a call only where it ends

An observer without a state asks to stop at the rows of some kind. If a scheme goes on from no row
of this kind, such an observer can stop a call only at the row where the scheme halts anyway. So the
call does the same work as if nobody watched it (`Run.SameWork`): nothing but the status of the
solution tells that it was stopped.

`Scheme.call_sameWork` proves this. The rows from which a scheme goes on are those of a course
before its last one, so it is enough to look at single iterations, with an invariant of the states.
-/

namespace RootFinding

variable {σ τ υ ρ ε : Type}

/-! ## Observers without a state -/

namespace Observer

variable {p : Event ρ → Bool} {acts : ρ → Bool}

theorem after_stopWhen (events : List (Event ρ)) : (stopWhen p).after events = stopWhen p := by
  induction events with
  | nil => rfl
  | cons e events ih => exact ih

theorem action_stopWhen (e : Event ρ) :
    ((stopWhen p).observe e).action = if p e then some .stopEarly else none := rfl

theorem passes_stopWhen {events : List (Event ρ)} :
    (stopWhen p).Passes events ↔ ∀ e ∈ events, p e = false := by
  induction events with
  | nil => simp [Passes]
  | cons e events ih =>
    have same : (stopWhen p).next e = stopWhen p := rfl
    simp [Passes, action_stopWhen, same, ih]

/-- An observer that looks at rows alone lets pass the rows that are not of its kind. -/
theorem passes_ofRows {rows : List ρ} :
    (stopWhen fun e => acts e.row).Passes (Event.ofRows rows) ↔ ∀ row ∈ rows, acts row = false := by
  rw [passes_stopWhen, ← List.forall_mem_map (f := Event.row) (P := fun row => acts row = false),
    Event.map_row_ofRows]

end Observer

/-! ## Calls -/

/-- Two calls have done the same work: they have delivered the same events, and have come to
solutions with the same trace and the same number of iterations, or to the same error. The unwatched
call ends with a solution only when it has converged; the watched one has been stopped if the
observer acts on the last row. -/
structure Run.SameWork (acts : ρ → Bool) (unwatched : Run υ ρ ε) (watched : Run τ ρ ε) : Prop where
  events : watched.events = unwatched.events
  succeeds : (∃ solution, watched.result = .ok solution) ↔
    ∃ solution, unwatched.result = .ok solution
  solution : ∀ {solution solution'}, unwatched.result = .ok solution →
    watched.result = .ok solution' →
      solution'.trace = solution.trace ∧ solution'.iters = solution.iters ∧
        solution.status = .converged ∧
        (solution'.status = .stoppedByObserver ↔ acts solution.trace.last = true)
  failure : ∀ cause, watched.result = .error cause ↔ unwatched.result = .error cause

namespace Run

variable {acts : ρ → Bool} {unwatched : Run υ ρ ε} {watched : Run τ ρ ε}

/-- Nobody has stopped the watched call. -/
theorem sameWork_of_eq (events : watched.events = unwatched.events)
    (result : watched.result = unwatched.result)
    (converged : ∀ {solution}, unwatched.result = .ok solution →
      solution.status = .converged ∧ acts solution.trace.last = false) :
    SameWork acts unwatched watched := by
  refine ⟨events, by rw [result], ?_, fun cause => by rw [result]⟩
  intro solution solution' hs hs'
  obtain rfl := Except.ok.inj (hs.symm.trans (result.symm.trans hs'))
  obtain ⟨status, quiet⟩ := converged hs
  simp [status, quiet]

/-- The watched call was stopped at the row where the other one has converged. -/
theorem sameWork_of_stopped {iters : Nat} {trace : Trace ρ}
    (events : watched.events = unwatched.events)
    (converged : unwatched.result = .ok ⟨.converged, iters, trace⟩)
    (stopped : watched.result = .ok ⟨.stoppedByObserver, iters, trace⟩)
    (acted : acts trace.last = true) : SameWork acts unwatched watched := by
  refine ⟨events, by simp [converged, stopped], ?_, by simp [converged, stopped]⟩
  intro solution solution' hs hs'
  obtain rfl := Except.ok.inj (converged.symm.trans hs)
  obtain rfl := Except.ok.inj (stopped.symm.trans hs')
  simp [acted]

end Run

namespace Scheme

/-- What a course that nobody stops comes to is a solution at its last row. -/
theorem converged_of_resultOf {exhausted : ε} {c : Course ρ ε Unit} {first : Nat}
    {solution : Solution ρ} (h : resultOf exhausted (c.ending first) = .ok solution) :
    solution.status = .converged ∧ solution.trace.last ∈ c.rows := by
  have rows := rows_of_resultOf h
  obtain ⟨earlier, finish⟩ := c
  cases finish with
  | halted last outcome =>
    obtain rfl := Except.ok.inj h
    simp
  | exhausted => cases h
  | failed cause => cases h

/-- An observer that acts on none of the rows before the last one can stop a pass only there. -/
theorem run_of_acts_on_last {scheme : Scheme σ ρ ε Unit} {acts : ρ → Bool} {ceiling : Nat} {s : σ}
    {earlier : List ρ} {last : ρ} {outcome : Unit}
    (hc : scheme.course ceiling s = ⟨earlier, .halted last outcome⟩)
    (quiet : ∀ row ∈ earlier, acts row = false) (acted : acts last = true) (first : Nat) :
    scheme.run (.stopWhen fun e => acts e.row) ceiling first s =
      .stoppedAt (.stopWhen fun e => acts e.row) first earlier last := by
  have split : (scheme.course ceiling s).rows = earlier ++ last :: [] := by
    rw [hc]
    rfl
  refine scheme.run_of_stopsAt _ ceiling first s split ⟨Observer.passes_ofRows.2 quiet, ?_⟩
  rw [Observer.after_stopWhen, Observer.action_stopWhen, if_pos acted]

/-- If a scheme goes on from no row of a kind, an observer that asks to stop at the rows of this
kind does not change the work of a call. -/
theorem call_sameWork {scheme : Scheme σ ρ ε Unit} {acts : ρ → Bool} {Inv : σ → Prop}
    {start : Except ε σ} (accepted : ∀ {s}, start = .ok s → Inv s)
    (next : ∀ {s row t}, Inv s → scheme s = .ok (row, .next t) → Inv t ∧ acts row = false)
    {o : Observer υ ρ} (passive : o.IsPassive) (ceiling first : Nat) (exhausted : ε) :
    Run.SameWork acts (scheme.call o ceiling first exhausted start)
      (scheme.call (.stopWhen fun e => acts e.row) ceiling first exhausted start) := by
  cases start with
  | error cause => exact Run.sameWork_of_eq rfl rfl nofun
  | ok s =>
    obtain ⟨t, leads, -⟩ := scheme.course_spec ceiling s
    have quiet_before := leads.forall_mem next (accepted rfl)
    rw [call, call, ofPass_eq, ofPass_eq, scheme.run_of_passes o ceiling first s (passive.passes _)]
    by_cases quiet : ∀ row ∈ (scheme.course ceiling s).rows, acts row = false
    · rw [scheme.run_of_passes _ ceiling first s (Observer.passes_ofRows.2 quiet)]
      refine Run.sameWork_of_eq rfl rfl fun {solution} hs => ?_
      obtain ⟨converged, mem⟩ := converged_of_resultOf hs
      exact ⟨converged, quiet _ mem⟩
    · -- the row at which the observer acts is none of those before the last one
      generalize hc : scheme.course ceiling s = c at quiet_before quiet
      obtain ⟨earlier, finish⟩ := c
      cases finish with
      | exhausted => exact absurd (by simpa using quiet_before) quiet
      | failed cause => exact absurd (by simpa using quiet_before) quiet
      | halted last outcome =>
        have acted : acts last = true := by
          by_contra silent
          refine quiet ?_
          simpa [or_imp, forall_and] using ⟨quiet_before, eq_false_of_ne_true silent⟩
        rw [run_of_acts_on_last hc quiet_before acted]
        exact Run.sameWork_of_stopped (by simp [Pass.events, Course.shownTo, Pass.stoppedAt])
          rfl rfl acted

/-- The same where no invariant is needed. -/
theorem call_sameWork_of_next {scheme : Scheme σ ρ ε Unit} {acts : ρ → Bool}
    (next : ∀ {s row t}, scheme s = .ok (row, .next t) → acts row = false) {o : Observer υ ρ}
    (passive : o.IsPassive) (ceiling first : Nat) (exhausted : ε) (start : Except ε σ) :
    Run.SameWork acts (scheme.call o ceiling first exhausted start)
      (scheme.call (.stopWhen fun e => acts e.row) ceiling first exhausted start) :=
  call_sameWork (fun _ => trivial) (fun _ h => ⟨trivial, next h⟩) passive ceiling first exhausted

end Scheme

end RootFinding
