import RootFinding.Proofs.Run.Outline

/-!
# Events and counts of a call

A call keeps three counts that nothing compares while it runs: the number that an event carries, the
number of recorded rows, and the number of the iteration. Here they are shown to agree in every
call, whoever watches it and however it ends.

## Shape of the arguments

* `Run.Accounts` says what agrees: the events are the rows of some passes, numbered from one on in
  each; a trace has the rows of the last pass; the count of the iterations is the number of rows, up
  to where the count began.
* `Outline.Accounts` says the same of a call that nobody stops, and `accounts_of_course` derives it
  from the last course of the call. `Course.ending_eq_halted` is where the counts meet.
* `accounts_of_follows` carries it over to the watched call.
-/

namespace RootFinding

variable {σ τ ρ ε η : Type}

/-- The events and the counts of a call agree. The call has at most `maxPasses` passes of at most
`maxRows` rows each, and counts its iterations from `first` on. -/
structure Run.Accounts (first maxPasses maxRows : Nat) (o : Observer τ ρ) (run : Run τ ρ ε) :
    Prop where
  /-- The events are what the observer receives. -/
  received : run.observer = o.after run.events
  /-- The events of a pass tell its rows in order, with the numbers from one on. A trace has the
  rows of the last pass. -/
  numbered : ∃ passes : List (List ρ), run.events = Event.ofPasses passes ∧
    passes.length ≤ maxPasses ∧ (∀ rows ∈ passes, rows.length ≤ maxRows) ∧
    ∀ {solution}, run.result = .ok solution → ∃ done, passes = done ++ [solution.trace.rows]
  bounded : run.events.length ≤ maxPasses * maxRows
  /-- The last of the rows is where a trace looks for it, and it is the row of the last event, whose
  number is the number of rows. -/
  last : ∀ {solution}, run.result = .ok solution →
    solution.trace.rows[solution.trace.size - 1]? = some solution.trace.last ∧
      run.events.getLast? = some ⟨solution.trace.size, solution.trace.last⟩
  /-- The first row belongs to the iteration `first`, and each later one to the next iteration. -/
  counted : ∀ {solution}, run.result = .ok solution →
    first + solution.trace.size = solution.iters + 1

/-- A trace is no longer than its pass may be. -/
theorem Run.Accounts.size_le {first maxPasses maxRows : Nat} {o : Observer τ ρ} {run : Run τ ρ ε}
    (h : run.Accounts first maxPasses maxRows o) {solution : Solution ρ}
    (hs : run.result = .ok solution) : solution.trace.size ≤ maxRows := by
  obtain ⟨passes, -, -, short, solved⟩ := h.numbered
  obtain ⟨done, rfl⟩ := solved hs
  rw [← Trace.length_rows]
  exact short _ (List.mem_append_right done (List.mem_singleton_self _))

/-- The last row of a trace is one of the rows that were offered. -/
theorem Run.Accounts.last_mem {first maxPasses maxRows : Nat} {o : Observer τ ρ} {run : Run τ ρ ε}
    (h : run.Accounts first maxPasses maxRows o) {solution : Solution ρ}
    (hs : run.result = .ok solution) : solution.trace.last ∈ run.rows :=
  List.mem_map.2 ⟨_, List.mem_of_getLast? (h.last hs).2, rfl⟩

/-! ## Courses -/

/-- A trace that a course ends with has the rows of the course, and its last row is recorded in the
iteration that the ending tells. -/
theorem Course.ending_eq_halted {c : Course ρ ε η} {first iters : Nat} {trace : Trace ρ}
    {outcome : η} (h : c.ending first = .halted trace iters outcome) :
    trace.rows = c.rows ∧ first + trace.size = iters + 1 := by
  obtain ⟨earlier, finish⟩ := c
  cases finish with
  | halted last outcome' =>
    obtain ⟨rfl, rfl, rfl⟩ := Ending.halted.inj h
    refine ⟨rfl, ?_⟩
    rw [Trace.size, List.size_toArray, Nat.add_assoc]
  | exhausted => cases h
  | failed cause => cases h

theorem Course.ending_ne_stopped (c : Course ρ ε η) (first iters : Nat) (trace : Trace ρ) :
    c.ending first ≠ .stopped trace iters := by
  obtain ⟨earlier, finish⟩ := c
  cases finish <;> exact nofun

theorem Scheme.length_course_rows_le (scheme : Scheme σ ρ ε η) (ceiling : Nat) (s : σ) :
    (scheme.course ceiling s).rows.length ≤ ceiling := by
  induction ceiling generalizing s with
  | zero => simp
  | succ ceiling ih =>
    rcases h : scheme s with cause | ⟨row, outcome | t⟩
    · simp [course_of_error h]
    · simp [course_of_halt h]
    · rw [course_of_next h, Course.rows_cons, List.length_cons]
      exact Nat.succ_le_succ (ih t)

/-! ## Outlines -/

/-- The passes and the counts of a call that nobody stops agree. -/
structure Outline.Accounts (first maxPasses maxRows : Nat) (p : Outline ρ ε) : Prop where
  passes : p.passes.length ≤ maxPasses
  rows : ∀ rows ∈ p.passes, rows.length ≤ maxRows
  solved : ∀ {solution}, p.result = .ok solution →
    first + solution.trace.size = solution.iters + 1 ∧
      ∃ done, p.passes = done ++ [solution.trace.rows]

/-- A method that succeeds does so with the trace and the count of the last ending. -/
def KeepsTrace (resultOf : Ending ρ ε η → Except ε (Solution ρ)) : Prop :=
  ∀ ⦃ending solution⦄, resultOf ending = .ok solution →
    (∃ outcome, ending = .halted solution.trace solution.iters outcome) ∨
      ending = .stopped solution.trace solution.iters

theorem Outline.accounts_of_course {c : Course ρ ε η} {first maxPasses maxRows : Nat}
    {resultOf : Ending ρ ε η → Except ε (Solution ρ)} {done : List (List ρ)}
    (keeps : KeepsTrace resultOf) (length : c.rows.length ≤ maxRows)
    (few : done.length < maxPasses) (before : ∀ rows ∈ done, rows.length ≤ maxRows) :
    Accounts first maxPasses maxRows ⟨done ++ [c.rows], resultOf (c.ending first)⟩ := by
  refine ⟨?_, ?_, ?_⟩
  · rw [List.length_append, List.length_singleton]
    exact few
  · intro rows hrows
    rcases List.mem_append.1 hrows with hrows | hrows
    · exact before rows hrows
    · rw [List.mem_singleton.1 hrows]
      exact length
  · intro solution hs
    rcases keeps hs with ⟨outcome, halted⟩ | stopped
    · obtain ⟨rows_eq, count⟩ := Course.ending_eq_halted halted
      exact ⟨count, done, congrArg (done ++ [·]) rows_eq.symm⟩
    · exact absurd stopped (c.ending_ne_stopped _ _ _)

theorem Outline.accounts_of_refused {first maxPasses maxRows : Nat} {cause : ε} :
    Accounts first maxPasses maxRows (⟨[], .error cause⟩ : Outline ρ ε) := by
  refine ⟨Nat.zero_le _, by simp, ?_⟩
  intro solution hs
  cases hs

/-! ## Calls -/

theorem Event.length_ofPasses_le {passes : List (List ρ)} {maxRows : Nat}
    (h : ∀ rows ∈ passes, rows.length ≤ maxRows) :
    (ofPasses passes).length ≤ passes.length * maxRows := by
  induction passes with
  | nil => simp
  | cons rows passes ih =>
    obtain ⟨first, later⟩ := List.forall_mem_cons.1 h
    rw [ofPasses_cons, List.length_append, length_ofRows, List.length_cons, Nat.succ_mul,
      Nat.add_comm]
    exact Nat.add_le_add (ih later) first

theorem Trace.getElem?_rows_last (trace : Trace ρ) :
    trace.rows[trace.size - 1]? = some trace.last := by
  rw [size, Nat.add_sub_cancel, rows, List.getElem?_append_right (by simp)]
  simp

/-- The last event of a call tells the last row of the trace. -/
theorem Event.getLast?_ofPasses (done : List (List ρ)) (trace : Trace ρ) :
    (ofPasses (done ++ [trace.rows])).getLast? = some ⟨trace.size, trace.last⟩ := by
  rw [ofPasses_append, ofPasses_cons, ofPasses_nil, List.append_nil, Trace.rows, ofPasses_concat,
    List.getLast?_concat]
  rfl

/-- Events that belong to passes, where a trace has the rows of the last pass, satisfy all the
account but the counts. -/
theorem Run.accounts_of_passes {first maxPasses maxRows : Nat} {o : Observer τ ρ}
    {run : Run τ ρ ε} (received : run.observer = o.after run.events) (passes : List (List ρ))
    (events : run.events = Event.ofPasses passes) (few : passes.length ≤ maxPasses)
    (short : ∀ rows ∈ passes, rows.length ≤ maxRows)
    (solved : ∀ {solution}, run.result = .ok solution →
      first + solution.trace.size = solution.iters + 1 ∧
        ∃ done, passes = done ++ [solution.trace.rows]) :
    run.Accounts first maxPasses maxRows o := by
  refine ⟨received, ⟨passes, events, few, short, fun hs => (solved hs).2⟩, ?_, ?_,
    fun hs => (solved hs).1⟩
  · rw [events]
    exact (Event.length_ofPasses_le short).trans (Nat.mul_le_mul_right maxRows few)
  · intro solution hs
    obtain ⟨-, done, split⟩ := solved hs
    rw [events, split]
    exact ⟨solution.trace.getElem?_rows_last, Event.getLast?_ofPasses done solution.trace⟩

/-- The events and the counts of a watched call agree if those of its outline do. -/
theorem accounts_of_follows {first maxPasses maxRows : Nat} {p : Outline ρ ε} {o : Observer τ ρ}
    {run : Run τ ρ ε} (accounts : p.Accounts first maxPasses maxRows)
    (h : p.Follows first o run) : run.Accounts first maxPasses maxRows o := by
  have received := h.observer_eq
  cases h with
  | whole passes events observer result =>
    refine Run.accounts_of_passes received p.passes events accounts.passes accounts.rows ?_
    intro solution hs
    exact accounts.solved (result ▸ hs)
  | @broken done later before rest row split stops events observer result =>
    -- the passes that are done stay as they are, and the pass under way is cut short
    have passes_le := accounts.passes
    have rows_le := accounts.rows
    rw [split] at passes_le rows_le
    obtain ⟨done_le, here_le⟩ := List.forall_mem_append.1 rows_le
    have cut_le := here_le _ List.mem_cons_self
    simp only [List.length_append, List.length_cons] at passes_le cut_le
    refine Run.accounts_of_passes received (done ++ [before ++ [row]]) ?_ ?_ ?_ ?_
    · rw [events, Event.ofPasses_append, Event.ofPasses_cons, Event.ofPasses_nil, List.append_nil]
    · rw [List.length_append, List.length_singleton]
      omega
    · intro rows hrows
      rcases List.mem_append.1 hrows with hrows | hrows
      · exact done_le rows hrows
      · rw [List.mem_singleton.1 hrows, List.length_append, List.length_singleton]
        omega
    · intro solution hs
      obtain rfl := Except.ok.inj (result.symm.trans hs)
      exact ⟨Nat.add_assoc first before.length 1, done, rfl⟩

theorem Scheme.resultOf_keepsTrace (exhausted : ε) :
    KeepsTrace (resultOf (ρ := ρ) exhausted) := by
  intro ending solution hs
  cases ending with
  | halted trace iters outcome =>
    obtain rfl := Except.ok.inj hs
    exact .inl ⟨outcome, rfl⟩
  | stopped trace iters =>
    obtain rfl := Except.ok.inj hs
    exact .inr rfl
  | exhausted => cases hs
  | failed cause => cases hs

/-- The events and the counts of a call with one pass agree. -/
theorem Scheme.call_accounts (scheme : Scheme σ ρ ε Unit) (o : Observer τ ρ) (ceiling first : Nat)
    (exhausted : ε) (start : Except ε σ) :
    (scheme.call o ceiling first exhausted start).Accounts first 1 ceiling o := by
  refine accounts_of_follows ?_ (scheme.call_follows o ceiling first exhausted start)
  cases start with
  | error cause => exact Outline.accounts_of_refused
  | ok s =>
    have before : ∀ rows ∈ ([] : List (List ρ)), rows.length ≤ ceiling := by simp
    exact Outline.accounts_of_course (resultOf_keepsTrace exhausted)
      (scheme.length_course_rows_le ceiling s) Nat.zero_lt_one before

end RootFinding
