import RootFinding.Proofs.Run.Observation

/-!
# Outlines of calls

An `Outline` is a call as it goes when nobody stops it: the rows of its passes, one list a pass, and
the result. It has no observer in it. A call that an observer watches follows its outline
(`Outline.Follows`): it is the outline itself, or it is broken off at the first event at which the
observer asks to stop, with the rows of the pass that is under way.

So a statement about all calls and all observers is a statement about outlines. This module proves
that the calls of methods with one pass follow their outlines (`call_follows`); the method with two
passes is treated in `RootFinding.Proofs.Scalar.TwoPasses`.
-/

namespace RootFinding

variable {σ τ ρ ε η : Type}

/-- The events of several passes, one after the other. The numbers begin anew with each pass. -/
def Event.ofPasses (passes : List (List ρ)) : List (Event ρ) := passes.flatMap ofRows

namespace Event

@[simp] theorem ofPasses_nil : ofPasses ([] : List (List ρ)) = [] := rfl

@[simp] theorem ofPasses_cons (rows : List ρ) (passes : List (List ρ)) :
    ofPasses (rows :: passes) = ofRows rows ++ ofPasses passes := List.flatMap_cons

theorem ofPasses_append (xs ys : List (List ρ)) :
    ofPasses (xs ++ ys) = ofPasses xs ++ ofPasses ys := List.flatMap_append

/-- The events of several passes, divided at one row. -/
theorem ofPasses_divided (done later : List (List ρ)) (before rest : List ρ) (row : ρ) :
    ofPasses (done ++ (before ++ row :: rest) :: later) =
      (ofPasses done ++ ofRows before) ++ ⟨before.length + 1, row⟩ ::
        (ofRowsFrom (before.length + 1) rest ++ ofPasses later) := by
  rw [ofPasses_append, ofPasses_cons, ofRows_append_cons, ofRows_concat]
  simp only [List.append_assoc, List.cons_append, List.nil_append]

theorem ofPasses_concat (done : List (List ρ)) (before : List ρ) (row : ρ) :
    ofPasses done ++ ofRows (before ++ [row]) =
      (ofPasses done ++ ofRows before) ++ [⟨before.length + 1, row⟩] := by
  rw [ofRows_concat, List.append_assoc]

end Event

/-- The rows that a call offers to its observer. -/
def Run.rows (run : Run τ ρ ε) : List ρ := run.events.map Event.row

/-- A call as it goes when nobody stops it: the rows of its passes, and the result. -/
structure Outline (ρ ε : Type) where
  passes : List (List ρ)
  result : Except ε (Solution ρ)

namespace Outline

/-- The events that an observer receives who lets all of them pass. -/
def events (p : Outline ρ ε) : List (Event ρ) := Event.ofPasses p.passes

/-- The solution of a call that is broken off at `row`, after the rows `before` of the same pass. -/
def brokenOff (first : Nat) (before : List ρ) (row : ρ) : Solution ρ :=
  ⟨.stoppedByObserver, first + before.length, ⟨before.toArray, row⟩⟩

/-- What a watched call is, given its outline and the number its iterations are counted from. -/
inductive Follows (first : Nat) (p : Outline ρ ε) (o : Observer τ ρ) :
    Run τ ρ ε → Prop
  /-- The observer lets all events pass. -/
  | whole {run : Run τ ρ ε} (passes : o.Passes p.events) (events : run.events = p.events)
      (observer : run.observer = o.after p.events) (result : run.result = p.result) :
      Follows first p o run
  /-- The observer first asks to stop at `row`. -/
  | broken {run : Run τ ρ ε} (done later : List (List ρ)) {before rest : List ρ} {row : ρ}
      (split : p.passes = done ++ (before ++ row :: rest) :: later)
      (stops : o.StopsAt (Event.ofPasses done ++ Event.ofRows before) ⟨before.length + 1, row⟩)
      (events : run.events = Event.ofPasses done ++ Event.ofRows (before ++ [row]))
      (observer : run.observer = o.after run.events)
      (result : run.result = .ok (brokenOff first before row)) : Follows first p o run

variable {first : Nat} {p : Outline ρ ε} {o : Observer τ ρ} {run : Run τ ρ ε}

/-- The observer is left as by exactly the events of the call. -/
theorem Follows.observer_eq (h : p.Follows first o run) : run.observer = o.after run.events := by
  cases h with
  | whole _ events observer _ => rw [observer, events]
  | broken _ _ _ _ _ observer _ => exact observer

/-- The observer receives nothing but events of the outline, in their order. -/
theorem Follows.events_prefix (h : p.Follows first o run) : run.events <+: p.events := by
  cases h with
  | whole _ events _ _ => exact events ▸ List.prefix_rfl
  | @broken done later before rest row split _ events _ _ =>
    rw [events, Outline.events, split, Event.ofPasses_divided, Event.ofPasses_concat]
    exact (List.prefix_append_right_inj _).2 ⟨_, rfl⟩

/-- A call whose observer lets everything pass that it is offered is the whole outline. -/
theorem Follows.whole_of_passes (h : p.Follows first o run) (passes : o.Passes run.events) :
    run.events = p.events ∧ run.result = p.result := by
  cases h with
  | whole _ events _ result => exact ⟨events, result⟩
  | broken done _ _ stops events _ _ =>
    rw [events, Event.ofPasses_concat] at passes
    exact absurd passes stops.not_passes

/-- A call with one pass can only be broken off in this pass. -/
theorem split_of_single {rows before rest : List ρ} {row : ρ} {done later : List (List ρ)}
    (h : [rows] = done ++ (before ++ row :: rest) :: later) :
    done = [] ∧ rows = before ++ row :: rest := by
  have length := congrArg List.length h
  simp only [List.length_append, List.length_cons, List.length_nil] at length
  obtain rfl : done = [] := List.eq_nil_of_length_eq_zero (by omega)
  exact ⟨rfl, (List.cons.inj h).1⟩

/-- The rows of the events are those of the passes. -/
theorem map_row_events (p : Outline ρ ε) : p.events.map Event.row = p.passes.flatten := by
  rw [events]
  induction p.passes with
  | nil => rfl
  | cons rows passes ih => simp [ih]

/-- A call that goes on after a pass follows the outline with that pass in front. -/
theorem Follows.cons {rows : List ρ} {inner : Run τ ρ ε}
    (passes : o.Passes (Event.ofRows rows))
    (h : p.Follows first (o.after (Event.ofRows rows)) inner)
    (events : run.events = Event.ofRows rows ++ inner.events)
    (observer : run.observer = inner.observer) (result : run.result = inner.result) :
    Follows first ⟨rows :: p.passes, p.result⟩ o run := by
  cases h with
  | whole passes' events' observer' result' =>
    refine .whole ?_ ?_ ?_ (result.trans result')
    · rw [Outline.events, Event.ofPasses_cons, Observer.passes_append]
      exact ⟨passes, passes'⟩
    · rw [events, events', Outline.events, Outline.events, Event.ofPasses_cons]
    · rw [observer, observer', Outline.events, Outline.events, Event.ofPasses_cons,
        Observer.after_append]
  | @broken done later before rest row split stops events' observer' result' =>
    -- the pass that is broken off is a later one, and the first pass is done
    have split' : rows :: p.passes = (rows :: done) ++ (before ++ row :: rest) :: later := by
      rw [split, List.cons_append]
    refine .broken (rows :: done) later split' ?_ ?_ ?_ (result.trans result')
    · rw [Event.ofPasses_cons, List.append_assoc]
      exact ⟨Observer.passes_append.2 ⟨passes, stops.1⟩,
        by rw [Observer.after_append]; exact stops.2⟩
    · rw [events, events', Event.ofPasses_cons, List.append_assoc]
    · rw [observer, observer', events, Observer.after_append]

end Outline

namespace Scheme

/-- A call that consists of one pass follows the outline that consists of its course. Only the
result of a stopped pass has to be known. -/
theorem run_follows (scheme : Scheme σ ρ ε η) (o : Observer τ ρ) (ceiling first : Nat) (s : σ)
    (resultOf : Ending ρ ε η → Except ε (Solution ρ))
    (stopped : ∀ trace iters,
      resultOf (.stopped trace iters) = .ok ⟨.stoppedByObserver, iters, trace⟩)
    (log : List Log.Entry) :
    Outline.Follows first
      ⟨[(scheme.course ceiling s).rows], resultOf ((scheme.course ceiling s).ending first)⟩ o
      ⟨(scheme.run o ceiling first s).events, log, (scheme.run o ceiling first s).observer,
        resultOf (scheme.run o ceiling first s).ending⟩ := by
  rcases scheme.run_cases o ceiling first s with
    ⟨passes, hrun⟩ | ⟨before, row, rest, split, stops, hrun⟩
  · rw [hrun]
    refine .whole ?_ ?_ ?_ rfl
    · simpa [Outline.events, Course.events] using passes
    · simp [Outline.events, Pass.events, Course.shownTo]
    · simp [Outline.events, Course.shownTo, Course.events]
  · rw [hrun]
    exact .broken [] [] (congrArg (· :: []) split) stops rfl rfl (stopped _ _)

/-- The result of a call that consists of a pass with this ending. -/
def resultOf (exhausted : ε) : Ending ρ ε Unit → Except ε (Solution ρ)
  | .halted trace iters () => .ok ⟨.converged, iters, trace⟩
  | .stopped trace iters => .ok ⟨.stoppedByObserver, iters, trace⟩
  | .exhausted => .error exhausted
  | .failed cause => .error cause

/-- The outline of a call of a method that needs one pass. -/
def outline (scheme : Scheme σ ρ ε Unit) (ceiling first : Nat) (exhausted : ε)
    (start : Except ε σ) : Outline ρ ε :=
  match start with
  | .error cause => ⟨[], .error cause⟩
  | .ok s =>
    ⟨[(scheme.course ceiling s).rows],
      resultOf exhausted ((scheme.course ceiling s).ending first)⟩

theorem ofPass_eq (exhausted : ε) (pass : Pass τ ρ ε Unit) :
    Run.ofPass exhausted pass =
      ⟨pass.events, pass.log.toList, pass.observer, resultOf exhausted pass.ending⟩ := by
  rw [Run.ofPass]
  cases pass.ending <;> rfl

/-- A call of a method that needs one pass follows its outline. -/
theorem call_follows (scheme : Scheme σ ρ ε Unit) (o : Observer τ ρ) (ceiling first : Nat)
    (exhausted : ε) (start : Except ε σ) :
    (scheme.outline ceiling first exhausted start).Follows first o
      (scheme.call o ceiling first exhausted start) := by
  cases start with
  | error cause => exact .whole trivial rfl rfl rfl
  | ok s =>
    rw [call, outline, ofPass_eq]
    exact scheme.run_follows o ceiling first s _ (fun _ _ => rfl) _

/-- The result of an unobserved call is that of its outline. -/
theorem result_call_of_isPassive {o : Observer τ ρ} (passive : o.IsPassive)
    (scheme : Scheme σ ρ ε Unit) (ceiling first : Nat) (exhausted : ε) (start : Except ε σ) :
    (scheme.call o ceiling first exhausted start).result =
      (scheme.outline ceiling first exhausted start).result :=
  ((scheme.call_follows o ceiling first exhausted start).whole_of_passes (passive.passes _)).2

/-! ## The rows that are offered -/

section Rows

variable {scheme : Scheme σ ρ ε Unit} {o : Observer τ ρ} {ceiling first : Nat}
  {exhausted : ε} {start : Except ε σ} {s : σ}

/-- The events of a call are those of the rows it offers: there is only one pass. -/
theorem events_call_eq (scheme : Scheme σ ρ ε Unit) (o : Observer τ ρ) (ceiling first : Nat)
    (exhausted : ε) (start : Except ε σ) :
    (scheme.call o ceiling first exhausted start).events =
      Event.ofRows (scheme.call o ceiling first exhausted start).rows := by
  cases start with
  | error cause => rfl
  | ok s =>
    rw [call, Run.rows, ofPass_eq, Pass.events, Event.map_row_ofRows]

/-- A refused call offers no row. -/
theorem rows_call_of_error {cause : ε} (h : start = .error cause) :
    (scheme.call o ceiling first exhausted start).rows = [] := by
  subst h
  rfl

/-- The rows that a call offers are those of the course, as far as it goes. -/
theorem rows_call_prefix (h : start = .ok s) :
    (scheme.call o ceiling first exhausted start).rows <+: (scheme.course ceiling s).rows := by
  have follows := scheme.call_follows o ceiling first exhausted start
  subst h
  have rows_eq := Outline.map_row_events (scheme.outline ceiling first exhausted (.ok s))
  rw [outline, List.flatten_singleton] at rows_eq
  rw [← rows_eq]
  exact follows.events_prefix.map Event.row

/-- The first row that a call offers is the row of its starting state, whoever watches it. -/
theorem head?_rows_call {row : ρ} {verdict : Verdict σ Unit} (h : start = .ok s)
    (recorded : scheme s = .ok (row, verdict)) :
    (scheme.call o (ceiling + 1) first exhausted start).rows.head? = some row := by
  have begins := head?_course_rows_of_ok ceiling recorded
  have follows := scheme.call_follows o (ceiling + 1) first exhausted start
  subst h
  cases follows with
  | whole _ events _ _ =>
    rw [Run.rows, events, Outline.map_row_events, outline, List.flatten_singleton]
    exact begins
  | @broken done later before rest last split _ events _ _ =>
    -- the row that the call is broken off at is the first one if no row comes before it
    obtain ⟨rfl, rows_eq⟩ := Outline.split_of_single split
    rw [rows_eq] at begins
    rw [Run.rows, events]
    simpa [List.head?_append] using begins

/-- A property of rows holds of all that a call offers if an invariant of the states gives it. -/
theorem forall_mem_rows_call {Inv : σ → Prop} {P : ρ → Prop}
    (accepted : ∀ {s}, start = .ok s → Inv s)
    (next : ∀ {s row t}, Inv s → scheme s = .ok (row, .next t) → Inv t)
    (holds : ∀ {s row verdict}, Inv s → scheme s = .ok (row, verdict) → P row) :
    ∀ row ∈ (scheme.call o ceiling first exhausted start).rows, P row := by
  intro row hrow
  cases hstart : start with
  | error cause =>
    rw [rows_call_of_error hstart] at hrow
    cases hrow
  | ok s =>
    have offered : (scheme.call o ceiling first exhausted start).rows <+:
        (scheme.course ceiling s).rows := rows_call_prefix hstart
    exact forall_mem_course_rows next holds ceiling (accepted hstart) row (offered.subset hrow)

theorem rows_of_resultOf {c : Course ρ ε Unit} {solution : Solution ρ}
    (h : resultOf exhausted (c.ending first) = .ok solution) : solution.trace.rows = c.rows := by
  obtain ⟨earlier, finish⟩ := c
  cases finish with
  | halted last outcome =>
    obtain rfl := Except.ok.inj h
    rfl
  | exhausted => cases h
  | failed cause => cases h

/-- The trace of a call has the rows that were offered. -/
theorem rows_trace_call {solution : Solution ρ}
    (h : (scheme.call o ceiling first exhausted start).result = .ok solution) :
    solution.trace.rows = (scheme.call o ceiling first exhausted start).rows := by
  have follows := scheme.call_follows o ceiling first exhausted start
  revert h
  generalize scheme.call o ceiling first exhausted start = run at follows ⊢
  intro h
  cases start with
  | error cause =>
    cases follows with
    | whole _ _ _ result => cases result.symm.trans h
    | broken done _ split => cases done <;> cases split
  | ok s =>
    cases follows with
    | whole _ events _ result =>
      rw [Run.rows, events, Outline.map_row_events, outline, List.flatten_singleton]
      exact rows_of_resultOf (result.symm.trans h)
    | @broken done later before rest row split stops events observer result =>
      obtain ⟨rfl, -⟩ := Outline.split_of_single split
      obtain rfl := Except.ok.inj (result.symm.trans h)
      rw [Run.rows, events]
      simp [Outline.brokenOff, Trace.rows]

/-- An observer that lets everything pass that it is offered is offered the whole course. -/
theorem rows_call_of_passes (h : start = .ok s)
    (passes : o.Passes (scheme.call o ceiling first exhausted start).events) :
    (scheme.call o ceiling first exhausted start).rows = (scheme.course ceiling s).rows := by
  obtain ⟨events, -⟩ :=
    (scheme.call_follows o ceiling first exhausted start).whole_of_passes passes
  subst h
  rw [Run.rows, events, Outline.map_row_events, outline, List.flatten_singleton]

/-- A call fails if its observer lets everything pass and the course ends without a solution. -/
theorem result_call_eq_error_iff {cause : ε} (h : start = .ok s) :
    (scheme.call o ceiling first exhausted start).result = .error cause ↔
      o.Passes (scheme.call o ceiling first exhausted start).events ∧
        resultOf exhausted ((scheme.course ceiling s).ending first) = .error cause := by
  have follows := scheme.call_follows o ceiling first exhausted start
  subst h
  cases follows with
  | whole passes events _ result =>
    rw [result, events]
    exact ⟨fun h => ⟨passes, h⟩, fun h => h.2⟩
  | broken done later split stops events observer result =>
    rw [result, events, Event.ofPasses_concat]
    exact ⟨nofun, fun h => absurd h.1 stops.not_passes⟩

/-- A call that is not stopped fails where the rows lead to a state in which the iteration fails. -/
theorem call_of_leads {t : σ} {rows : List ρ} {cause : ε} (h : start = .ok s)
    (passes : o.Passes (scheme.call o ceiling first exhausted start).events)
    (leads : scheme.Leads s rows t) (room : rows.length < ceiling)
    (failed : scheme t = .error cause) :
    (scheme.call o ceiling first exhausted start).rows = rows ∧
      (scheme.call o ceiling first exhausted start).result = .error cause := by
  have course_eq := leads.course_of_error failed room
  refine ⟨?_, (result_call_eq_error_iff h).2 ⟨passes, ?_⟩⟩
  · rw [rows_call_of_passes h passes, course_eq, Course.rows_failed]
  · rw [course_eq]
    rfl

/-- How a call fails: its start is refused, the ceiling is reached, or an iteration fails in the
state that the rows have led to. -/
theorem call_error_cases {cause : ε}
    (h : (scheme.call o ceiling first exhausted start).result = .error cause) :
    start = .error cause ∨ cause = exhausted ∨
      ∃ s t, start = .ok s ∧
        scheme.Leads s (scheme.call o ceiling first exhausted start).rows t ∧
        scheme t = .error cause := by
  cases hstart : start with
  | error cause' =>
    rw [hstart] at h
    exact .inl (congrArg Except.error (Except.error.inj h))
  | ok s =>
    obtain ⟨passes, hresult⟩ := (result_call_eq_error_iff hstart).1 h
    have whole := rows_call_of_passes hstart passes
    obtain ⟨t, leads, ends⟩ := scheme.course_spec ceiling s
    rw [hstart] at whole
    rw [whole]
    generalize scheme.course ceiling s = c at hresult leads ends ⊢
    obtain ⟨earlier, finish⟩ := c
    cases finish with
    | halted last outcome => cases hresult
    | exhausted => exact .inr (.inl (Except.error.inj hresult).symm)
    | failed cause' =>
      obtain rfl := Except.error.inj hresult
      rw [Course.rows_failed]
      exact .inr (.inr ⟨s, t, rfl, leads, ends.2⟩)

end Rows

end Scheme

end RootFinding
