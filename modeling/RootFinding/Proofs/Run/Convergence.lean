import RootFinding.Proofs.Run.Counting
import RootFinding.Proofs.Run.StoppingRule

/-!
# Calls that have to converge

That an unobserved call converges is shown by its rows: if nothing but the ceiling can make it fail,
and a row that has to be final comes before the ceiling, the call converges at this row or earlier
(`Obeys.converges_within`). Where an iteration is known to halt, the call is known as a whole
(`Scheme.call_of_halt`).
-/

namespace RootFinding

variable {σ τ ρ ε : Type} {rule : StoppingRule ρ ε}

/-- A call with one pass that reaches the ceiling offers as many iterates as it allows, and the rule
holds at none of its rows. -/
theorem Obeys.rows_of_ceiling {o : Observer τ ρ} {run : Run τ ρ ε} (h : Obeys rule o run)
    (positive : 0 < rule.ceiling) (single : run.events = Event.ofRows run.rows) {cause : ε}
    (failed : run.result = .error cause) (reached : rule.isCeiling cause) :
    run.rows.countP rule.isIterate = rule.ceiling ∧ ∀ row ∈ run.rows, ¬rule.holds row := by
  obtain ⟨count, unsettled, -⟩ := h.ranOut failed reached
  rw [single] at count unsettled
  generalize run.rows = rows at count unsettled ⊢
  cases rows with
  | nil => exact absurd count (Nat.ne_of_lt positive)
  | cons row rows =>
    rw [← List.nil_append (Event.ofRows _),
      Event.currentPass_append_ofRows [] (List.cons_ne_nil row rows)] at count unsettled
    exact ⟨count, unsettled⟩

/-- The trace of a call with one pass has the rows that are offered. -/
theorem Run.Accounts.rows_trace {first maxRows : Nat} {o : Observer τ ρ} {run : Run τ ρ ε}
    (h : run.Accounts first 1 maxRows o) {solution : Solution ρ}
    (success : run.result = .ok solution) : solution.trace.rows = run.rows := by
  obtain ⟨passes, events, few, -, solved⟩ := h.numbered
  obtain ⟨done, rfl⟩ := solved success
  rw [List.length_append, List.length_singleton] at few
  obtain rfl : done = [] := List.eq_nil_of_length_eq_zero (by omega)
  rw [Run.rows, events, List.nil_append, Event.ofPasses_cons, Event.ofPasses_nil, List.append_nil,
    Event.map_row_ofRows]

/-- An unobserved call converges at the row of index `n` or before it, if this row is final whenever
it is recorded, and a call that fails records it and has no final row. -/
theorem Obeys.converges_within {run : Run Unit ρ ε} {first maxRows n : Nat}
    (obeys : Obeys rule .silent run) (accounts : run.Accounts first 1 maxRows .silent)
    (failures : ∀ cause, run.result = .error cause →
      n < run.rows.length ∧ ∀ row ∈ run.rows, ¬rule.holds row)
    (final : ∀ row ∈ run.rows[n]?, rule.holds row) :
    ∃ solution, run.result = .ok solution ∧ solution.status = .converged ∧
      solution.iters ≤ first + n := by
  cases h : run.result with
  | error cause =>
    obtain ⟨long, unsettled⟩ := failures cause h
    exact absurd (final _ (List.getElem?_eq_getElem long)) (unsettled _ (List.getElem_mem _))
  | ok solution =>
    obtain ⟨before, e, -, -, status⟩ := obeys.unstopped h
    have quiet := (Observer.passes_append.1 (Observer.isPassive_silent.passes (before ++ [e]))).2.1
    refine ⟨solution, rfl, status quiet, ?_⟩
    by_contra! later
    -- the row is recorded before the last one, so it is not final
    have size := accounts.counted h
    have bound : n < solution.trace.earlier.toList.length := by
      rw [Array.length_toList]
      rw [Trace.size] at size
      omega
    have here : run.rows[n]? = some solution.trace.earlier.toList[n] := by
      rw [← accounts.rows_trace h, Trace.rows, List.getElem?_append_left bound,
        List.getElem?_eq_getElem bound]
    exact obeys.earlier h _ (List.getElem_mem _) (final _ here)

/-- An unobserved call halts where the rows lead to a state in which the iteration halts. -/
theorem Scheme.call_of_halt {scheme : Scheme σ ρ ε Unit} {start : Except ε σ} {s t : σ}
    {ceiling first : Nat} {exhausted : ε} {rows : List ρ} {row : ρ} (accepted : start = .ok s)
    (leads : scheme.Leads s rows t) (halts : scheme t = .ok (row, .halt ()))
    (room : rows.length < ceiling) :
    (scheme.call .silent ceiling first exhausted start).result =
      .ok ⟨.converged, first + rows.length, ⟨rows.toArray, row⟩⟩ := by
  subst accepted
  rw [result_call_of_isPassive Observer.isPassive_silent, outline,
    leads.course_of_halt halts room]
  rfl

end RootFinding
