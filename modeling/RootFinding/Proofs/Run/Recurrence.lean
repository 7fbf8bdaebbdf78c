import RootFinding.Proofs.Run.Outline

/-!
# Recurrences

A `Recurrence` is an iteration as it is written down: each state shows a row and is followed by
another state. It has no checks, no stops, and stores nothing besides its state.

A scheme computes a recurrence (`Scheme.Computes`) if it shows the same rows as long as it goes on.
The scheme may store more than the recurrence needs, such as values of a function; that what is
stored is right is an invariant of its states.

## Shape of the arguments

* `Scheme.Computes` is about one iteration. `Leads.view_eq` follows it to the state that any number
  of iterations lead to, and `Computes.course_rows_eq` to the rows of a course.
* `Computes.call_unrolls` is the statement about calls: what the observer receives, and what is in
  the trace, are the first rows of the recurrence in order. `Computes.call_error_cases` is about
  calls that fail.
-/

namespace RootFinding

variable {σ ς τ ρ ε η : Type}

/-- An iteration as it is written down: a state shows a row, and is followed by a state. -/
structure Recurrence (ς ρ : Type) where
  row : ς → ρ
  next : ς → ς

namespace Recurrence

variable (r : Recurrence ς ρ)

/-- The state after a number of steps. -/
def state (s : ς) : Nat → ς
  | 0 => s
  | n + 1 => r.next (state s n)

/-- The first `n` rows. -/
def rows (s : ς) (n : Nat) : List ρ := (List.range n).map fun k => r.row (r.state s k)

theorem state_succ (s : ς) (n : Nat) : r.state s (n + 1) = r.state (r.next s) n := by
  induction n with
  | zero => rfl
  | succ n ih => rw [state, ih, state]

@[simp] theorem rows_zero (s : ς) : r.rows s 0 = [] := rfl

theorem rows_succ (s : ς) (n : Nat) : r.rows s (n + 1) = r.row s :: r.rows (r.next s) n := by
  rw [rows, List.range_succ_eq_map, List.map_cons, List.map_map, rows]
  congr 2
  funext k
  exact congrArg r.row (r.state_succ s k)

theorem rows_concat (s : ς) (n : Nat) :
    r.rows s (n + 1) = r.rows s n ++ [r.row (r.state s n)] := by
  rw [rows, List.range_succ, List.map_append, List.map_singleton, rows]

@[simp] theorem length_rows (s : ς) (n : Nat) : (r.rows s n).length = n := by simp [rows]

/-- Rows with which the recurrence begins are its first rows. -/
theorem eq_rows_of_prefix {s : ς} {n : Nat} {xs : List ρ} (h : xs <+: r.rows s n) :
    xs = r.rows s xs.length := by
  have le : xs.length ≤ n := r.length_rows s n ▸ h.length_le
  rw [List.prefix_iff_eq_take.1 h, rows, ← List.map_take, List.take_range, List.length_map,
    List.length_range, Nat.min_eq_left le, rows]

theorem head?_rows {s : ς} {n : Nat} {row : ρ} (h : row ∈ (r.rows s n).head?) :
    row = r.row s := by
  cases n with
  | zero => cases h
  | succ n =>
    rw [rows_succ, List.head?_cons, Option.mem_some_iff] at h
    exact h.symm

variable {r} {Inv : ς → Prop}

theorem getElem?_rows {s : ς} {n k : Nat} {row : ρ} :
    (r.rows s n)[k]? = some row ↔ k < n ∧ r.row (r.state s k) = row := by
  rw [rows, List.getElem?_map, Option.map_eq_some_iff]
  constructor
  · rintro ⟨j, hj, rfl⟩
    obtain ⟨below, rfl⟩ := List.getElem?_eq_some_iff.1 hj
    rw [List.length_range] at below
    rw [List.getElem_range]
    exact ⟨below, rfl⟩
  · rintro ⟨below, rfl⟩
    exact ⟨k, List.getElem?_range below, rfl⟩

/-- A property of rows holds of all of them if an invariant of the states gives it. -/
theorem forall_mem_rows {P : ρ → Prop} (next : ∀ {s}, Inv s → Inv (r.next s))
    (holds : ∀ {s}, Inv s → P (r.row s)) (n : Nat) {s : ς} (inv : Inv s) :
    ∀ row ∈ r.rows s n, P row := by
  induction n generalizing s with
  | zero => exact fun row h => absurd h List.not_mem_nil
  | succ n ih =>
    rw [rows_succ]
    exact List.forall_mem_cons.2 ⟨holds inv, ih (next inv)⟩

/-- Successive rows are related if the rows of a state and the next one are. -/
theorem isChain_rows {R : ρ → ρ → Prop} (related : ∀ s, R (r.row s) (r.row (r.next s))) (n : Nat)
    (s : ς) : (r.rows s n).IsChain R := by
  induction n generalizing s with
  | zero => exact .nil
  | succ n ih =>
    rw [rows_succ, List.isChain_cons]
    refine ⟨fun row h => ?_, ih (r.next s)⟩
    rw [r.head?_rows h]
    exact related s

end Recurrence

/-- As long as a scheme goes on, it shows the rows of a recurrence. `view` is what the states of the
recurrence keep of a state of the scheme, and `Inv` says that the rest is right. -/
structure Scheme.Computes (scheme : Scheme σ ρ ε η) (r : Recurrence ς ρ) (Inv : σ → Prop)
    (view : σ → ς) : Prop where
  row : ∀ {s row verdict}, Inv s → scheme s = .ok (row, verdict) → row = r.row (view s)
  next : ∀ {s row t}, Inv s → scheme s = .ok (row, .next t) → Inv t ∧ view t = r.next (view s)

/-- What the observer of a call receives are the first rows of a recurrence, numbered from one on,
and a trace has the same rows. -/
structure Run.Unrolls (r : Recurrence ς ρ) (s : ς) (run : Run τ ρ ε) : Prop where
  events : run.events = Event.ofRows (r.rows s run.events.length)
  trace : ∀ {solution}, run.result = .ok solution →
    solution.trace.rows = r.rows s run.events.length

/-- The rows that are offered are the first rows of the recurrence. -/
theorem Run.Unrolls.rows_eq {r : Recurrence ς ρ} {s : ς} {run : Run τ ρ ε} (h : run.Unrolls r s) :
    run.rows = r.rows s run.events.length := by
  rw [Run.rows, h.events, Event.map_row_ofRows, Event.length_ofRows, Recurrence.length_rows]

/-- The last row of a trace is that of a state of the recurrence, and the rows before are those of
the states before. -/
theorem Run.Unrolls.exists_state {r : Recurrence ς ρ} {s : ς} {run : Run τ ρ ε}
    {solution : Solution ρ} (h : run.Unrolls r s) (hs : run.result = .ok solution) :
    ∃ n, solution.trace.earlier.toList = r.rows s n ∧
      solution.trace.last = r.row (r.state s n) := by
  have rows_eq := h.trace hs
  have count : run.events.length = solution.trace.earlier.size + 1 := by
    rw [← r.length_rows s run.events.length, ← rows_eq, Trace.length_rows, Trace.size]
  rw [count, r.rows_concat, Trace.rows] at rows_eq
  obtain ⟨earlier, last⟩ := List.append_inj' rows_eq rfl
  exact ⟨_, earlier, List.singleton_inj.1 last⟩

namespace Scheme

variable {scheme : Scheme σ ρ ε η} {r : Recurrence ς ρ} {Inv : σ → Prop} {view : σ → ς}

/-- The iterations that a scheme goes on from lead to the state that the recurrence has come to. -/
theorem Leads.view_eq (computes : scheme.Computes r Inv view) {s t : σ} {rows : List ρ}
    (leads : scheme.Leads s rows t) (inv : Inv s) :
    Inv t ∧ view t = r.state (view s) rows.length ∧ rows = r.rows (view s) rows.length := by
  induction leads with
  | refl s => exact ⟨inv, rfl, rfl⟩
  | @step s t u row rows first rest ih =>
    obtain ⟨inv_next, view_next⟩ := computes.next inv first
    obtain ⟨inv_last, view_last, rows_eq⟩ := ih inv_next
    rw [view_next] at view_last rows_eq
    rw [List.length_cons, r.state_succ, r.rows_succ]
    exact ⟨inv_last, view_last, congrArg₂ _ (computes.row inv first) rows_eq⟩

/-- Where the next row of the recurrence has not got what all rows of the scheme have, the iteration
fails. -/
theorem Computes.exists_error (computes : scheme.Computes r Inv view) {P : ρ → Prop}
    (holds : ∀ {s row verdict}, scheme s = .ok (row, verdict) → P row) {t : σ} (inv : Inv t)
    (h : ¬P (r.row (view t))) : ∃ cause, scheme t = .error cause := by
  rcases ht : scheme t with cause | ⟨row, verdict⟩
  · exact ⟨cause, rfl⟩
  · exact absurd (computes.row inv ht ▸ holds ht) h

/-- The rows of a course are the first rows of the recurrence. -/
theorem Computes.course_rows_eq (computes : scheme.Computes r Inv view) (ceiling : Nat) {s : σ}
    (inv : Inv s) : (scheme.course ceiling s).rows =
      r.rows (view s) (scheme.course ceiling s).rows.length := by
  obtain ⟨t, leads, ends⟩ := scheme.course_spec ceiling s
  generalize scheme.course ceiling s = c at leads ends ⊢
  obtain ⟨earlier, finish⟩ := c
  obtain ⟨inv_last, view_last, rows_eq⟩ := leads.view_eq computes inv
  cases finish with
  | halted last outcome =>
    -- one more row than the scheme goes on from
    have last_eq := computes.row inv_last ends.2
    rw [view_last] at last_eq
    rw [Course.rows_halted, List.length_append, List.length_singleton, r.rows_concat, ← last_eq]
    exact congrArg (· ++ [last]) rows_eq
  | exhausted => rwa [Course.rows_exhausted]
  | failed cause => rwa [Course.rows_failed]

/-- The rows that a call offers are the first rows of the recurrence. -/
theorem Computes.rows_call_eq {scheme : Scheme σ ρ ε Unit} (computes : scheme.Computes r Inv view)
    {start : Except ε σ} {s₀ : ς} (begins : ∀ {s}, start = .ok s → Inv s ∧ view s = s₀)
    (o : Observer τ ρ) (ceiling first : Nat) (exhausted : ε) :
    (scheme.call o ceiling first exhausted start).rows =
      r.rows s₀ (scheme.call o ceiling first exhausted start).rows.length := by
  cases hstart : start with
  | error cause => rw [rows_call_of_error rfl, List.length_nil, Recurrence.rows_zero]
  | ok s =>
    obtain ⟨inv, rfl⟩ := begins hstart
    have offered : (scheme.call o ceiling first exhausted (.ok s)).rows <+:
        (scheme.course ceiling s).rows := rows_call_prefix rfl
    rw [computes.course_rows_eq ceiling inv] at offered
    exact r.eq_rows_of_prefix offered

/-- A call shows the first rows of the recurrence, and nothing else. -/
theorem Computes.call_unrolls {scheme : Scheme σ ρ ε Unit} (computes : scheme.Computes r Inv view)
    {start : Except ε σ} {s₀ : ς} (begins : ∀ {s}, start = .ok s → Inv s ∧ view s = s₀)
    (o : Observer τ ρ) (ceiling first : Nat) (exhausted : ε) :
    (scheme.call o ceiling first exhausted start).Unrolls r s₀ := by
  have rows_eq := computes.rows_call_eq begins o ceiling first exhausted
  rw [Run.rows, List.length_map] at rows_eq
  constructor
  · rw [← rows_eq]
    exact scheme.events_call_eq o ceiling first exhausted start
  · intro solution hs
    exact (rows_trace_call hs).trans rows_eq

/-- An iteration that fails does so in the state that the recurrence has come to. -/
theorem Computes.call_error_cases {scheme : Scheme σ ρ ε Unit}
    (computes : scheme.Computes r Inv view) {start : Except ε σ} {s₀ : ς}
    (begins : ∀ {s}, start = .ok s → Inv s ∧ view s = s₀)
    {o : Observer τ ρ} {ceiling first : Nat} {exhausted cause : ε}
    (h : (scheme.call o ceiling first exhausted start).result = .error cause) :
    start = .error cause ∨ cause = exhausted ∨
      ∃ t, Inv t ∧
        view t = r.state s₀ (scheme.call o ceiling first exhausted start).events.length ∧
        scheme t = .error cause := by
  rcases Scheme.call_error_cases h with refused | reached | ⟨s, t, hstart, leads, failed⟩
  · exact .inl refused
  · exact .inr (.inl reached)
  · obtain ⟨inv, rfl⟩ := begins hstart
    obtain ⟨inv_last, view_last, -⟩ := leads.view_eq computes inv
    rw [Run.rows, List.length_map] at view_last
    exact .inr (.inr ⟨t, inv_last, view_last, failed⟩)

end Scheme

end RootFinding
