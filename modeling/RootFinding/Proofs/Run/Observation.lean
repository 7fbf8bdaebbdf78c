import RootFinding.Proofs.Run.Course

/-!
# Watched passes

An observer is fed events one after the other. It lets a list of events pass (`Observer.Passes`), or
there is a first event at which it asks to stop (`Observer.StopsAt`). In the first case a pass is
the whole course of the scheme (`run_of_passes`), in the second it is the course up to that event
(`run_of_stopsAt`). What the observer receives is read off its state: it is left as by exactly these
events.

`run_cases` puts the two together, and `RootFinding.Proofs.Run.Outline` carries them over to whole
calls.
-/

namespace RootFinding

variable {σ τ ρ ε η : Type}

/-! ## Numbered events -/

namespace Event

/-- The events of rows that are recorded after `recorded` other ones. -/
def ofRowsFrom (recorded : Nat) (rows : List ρ) : List (Event ρ) :=
  rows.mapIdx fun i row => ⟨recorded + i + 1, row⟩

@[simp] theorem ofRowsFrom_nil (recorded : Nat) : ofRowsFrom recorded ([] : List ρ) = [] := rfl

@[simp] theorem ofRowsFrom_cons (recorded : Nat) (row : ρ) (rows : List ρ) :
    ofRowsFrom recorded (row :: rows) = ⟨recorded + 1, row⟩ :: ofRowsFrom (recorded + 1) rows := by
  simp only [ofRowsFrom, List.mapIdx_cons, Nat.add_zero, List.cons.injEq, true_and]
  congr 1
  funext i r
  rw [Nat.add_right_comm recorded 1 i, Nat.add_assoc recorded i 1]

theorem ofRows_eq (rows : List ρ) : ofRows rows = ofRowsFrom 0 rows := by
  simp [ofRows, ofRowsFrom]

theorem ofRowsFrom_append (recorded : Nat) (xs ys : List ρ) :
    ofRowsFrom recorded (xs ++ ys) =
      ofRowsFrom recorded xs ++ ofRowsFrom (recorded + xs.length) ys := by
  induction xs generalizing recorded with
  | nil => rfl
  | cons x xs ih =>
    rw [List.cons_append, ofRowsFrom_cons, ih, ofRowsFrom_cons, List.cons_append, List.length_cons,
      Nat.add_right_comm, Nat.add_assoc recorded xs.length 1]

/-- One more row is one more event, with the next number. -/
theorem ofRows_concat (rows : List ρ) (row : ρ) :
    ofRows (rows ++ [row]) = ofRows rows ++ [⟨rows.length + 1, row⟩] := by
  simp [ofRows_eq, ofRowsFrom_append]

theorem ofRows_append_cons (xs ys : List ρ) (row : ρ) :
    ofRows (xs ++ row :: ys) = ofRows (xs ++ [row]) ++ ofRowsFrom (xs.length + 1) ys := by
  simp [ofRows_eq, ofRowsFrom_append]

/-- Events that precede an event belong to the rows that precede its row. -/
theorem ofRows_eq_append_cons {rows : List ρ} {before rest : List (Event ρ)} {e : Event ρ}
    (h : ofRows rows = before ++ e :: rest) :
    ∃ xs row ys, rows = xs ++ row :: ys ∧ before = ofRows xs ∧ e = ⟨xs.length + 1, row⟩ := by
  obtain ⟨xs, tail, rfl, rfl, htail⟩ := List.mapIdx_eq_append_iff.1 h
  obtain ⟨row, ys, rfl, rfl, -⟩ := List.mapIdx_eq_cons_iff.1 htail
  exact ⟨xs, row, ys, rfl, rfl, by simp⟩

@[simp] theorem map_row_ofRowsFrom (recorded : Nat) (rows : List ρ) :
    (ofRowsFrom recorded rows).map Event.row = rows := by
  induction rows generalizing recorded with
  | nil => rfl
  | cons row rows ih => rw [ofRowsFrom_cons, List.map_cons, ih]

@[simp] theorem length_ofRows (rows : List ρ) : (ofRows rows).length = rows.length :=
  List.length_mapIdx

@[simp] theorem map_row_ofRows (rows : List ρ) : (ofRows rows).map Event.row = rows := by
  rw [ofRows_eq, map_row_ofRowsFrom]

end Event

/-! ## Observers that are fed events -/

namespace Observer

/-- The observer as an event leaves it. -/
def next (o : Observer τ ρ) (e : Event ρ) : Observer τ ρ := { o with state := (o.observe e).state }

/-- The observer as a list of events leaves it. -/
def after (o : Observer τ ρ) (events : List (Event ρ)) : Observer τ ρ := events.foldl next o

/-- What the observer logs while it is fed a list of events. -/
def entries (o : Observer τ ρ) : List (Event ρ) → List Log.Entry
  | [] => []
  | e :: events => (o.observe e).log ++ (o.next e).entries events

/-- The observer, fed a list of events, asks for nothing. -/
def Passes (o : Observer τ ρ) : List (Event ρ) → Prop
  | [] => True
  | e :: events => (o.observe e).action = none ∧ (o.next e).Passes events

/-- The observer, fed the events `before` and then `e`, first asks to stop at `e`. -/
def StopsAt (o : Observer τ ρ) (before : List (Event ρ)) (e : Event ρ) : Prop :=
  o.Passes before ∧ ((o.after before).observe e).action = some .stopEarly

/-- The observer never asks for anything. -/
def IsPassive (o : Observer τ ρ) : Prop := ∀ state e, (o.respond state e).action = none

@[simp] theorem after_nil (o : Observer τ ρ) : o.after [] = o := rfl

@[simp] theorem after_cons (o : Observer τ ρ) (e : Event ρ) (events : List (Event ρ)) :
    o.after (e :: events) = (o.next e).after events := rfl

theorem after_append (o : Observer τ ρ) (xs ys : List (Event ρ)) :
    o.after (xs ++ ys) = (o.after xs).after ys := List.foldl_append

theorem passes_append {o : Observer τ ρ} {xs ys : List (Event ρ)} :
    o.Passes (xs ++ ys) ↔ o.Passes xs ∧ (o.after xs).Passes ys := by
  induction xs generalizing o with
  | nil => simp [Passes]
  | cons x xs ih => simp [Passes, ih, and_assoc]

/-- There is only one thing to ask for. -/
theorem action_ne_none_iff {action : Option Action} :
    action ≠ none ↔ action = some .stopEarly := by
  cases action with
  | none => simp
  | some action => cases action; simp

/-- An observer lets all events pass, or there is a first one at which it asks to stop. -/
theorem passes_or_stopsAt (o : Observer τ ρ) (events : List (Event ρ)) :
    o.Passes events ∨
      ∃ before e rest, events = before ++ e :: rest ∧ o.StopsAt before e := by
  induction events generalizing o with
  | nil => exact .inl trivial
  | cons e events ih =>
    by_cases quiet : (o.observe e).action = none
    · rcases ih (o.next e) with passes | ⟨before, e', rest, rfl, passes, stops⟩
      · exact .inl ⟨quiet, passes⟩
      · exact .inr ⟨e :: before, e', rest, rfl, ⟨quiet, passes⟩, stops⟩
    · exact .inr ⟨[], e, events, rfl, trivial, action_ne_none_iff.1 quiet⟩

/-- Where an observer first asks to stop, it does not let the events pass. -/
theorem StopsAt.not_passes {o : Observer τ ρ} {before rest : List (Event ρ)} {e : Event ρ}
    (stops : o.StopsAt before e) : ¬ o.Passes (before ++ e :: rest) := by
  rw [passes_append]
  rintro ⟨-, quiet, -⟩
  simp [stops.2] at quiet

theorem IsPassive.passes {o : Observer τ ρ} (h : o.IsPassive) (events : List (Event ρ)) :
    o.Passes events := by
  induction events generalizing o with
  | nil => trivial
  | cons e events ih => exact ⟨h _ _, ih fun state e => h state e⟩

theorem isPassive_silent : (silent : Observer Unit ρ).IsPassive := fun _ _ => rfl

end Observer

/-! ## Passes -/

namespace Course

/-- The events of all rows. -/
def events (c : Course ρ ε η) : List (Event ρ) := Event.ofRows c.rows

/-- The pass that shows the whole course to an observer. -/
def shownTo (c : Course ρ ε η) (o : Observer τ ρ) (first : Nat) : Pass τ ρ ε η where
  observer := o.after c.events
  rows := c.rows.toArray
  log := (o.entries c.events).toArray
  ending := c.ending first

end Course

namespace Pass

/-- The pass that an observer stops at `row`, after the rows `before`. -/
def stoppedAt (o : Observer τ ρ) (first : Nat) (before : List ρ) (row : ρ) : Pass τ ρ ε η where
  observer := o.after (Event.ofRows (before ++ [row]))
  rows := (before ++ [row]).toArray
  log := (o.entries (Event.ofRows (before ++ [row]))).toArray
  ending := .stopped ⟨before.toArray, row⟩ (first + before.length)

end Pass

namespace Scheme

section Steps

variable {scheme : Scheme σ ρ ε η} {o : Observer τ ρ} {recorded : Array ρ} {log : Array Log.Entry}
  {iter ceiling : Nat} {s t : σ} {row : ρ} {verdict : Verdict σ η} {outcome : η} {cause : ε}

theorem runFrom_of_error (h : scheme s = .error cause) :
    scheme.runFrom o recorded log iter (ceiling + 1) s = ⟨o, recorded, log, .failed cause⟩ := by
  rw [runFrom, h]

private theorem append_list (log : Array Log.Entry) (entries : List Log.Entry) :
    log ++ entries = log ++ entries.toArray := Array.ext' (by simp)

/-- The observer is asked before the verdict is looked at. -/
theorem runFrom_of_stop (h : scheme s = .ok (row, verdict))
    (stops : (o.observe ⟨recorded.size + 1, row⟩).action = some .stopEarly) :
    scheme.runFrom o recorded log iter (ceiling + 1) s =
      ⟨o.next ⟨recorded.size + 1, row⟩, recorded.push row,
        log ++ (o.observe ⟨recorded.size + 1, row⟩).log.toArray,
        .stopped ⟨recorded, row⟩ iter⟩ := by
  rw [runFrom, h, ← append_list]
  simp only [stops]
  rfl

theorem runFrom_of_halt (h : scheme s = .ok (row, .halt outcome))
    (quiet : (o.observe ⟨recorded.size + 1, row⟩).action = none) :
    scheme.runFrom o recorded log iter (ceiling + 1) s =
      ⟨o.next ⟨recorded.size + 1, row⟩, recorded.push row,
        log ++ (o.observe ⟨recorded.size + 1, row⟩).log.toArray,
        .halted ⟨recorded, row⟩ iter outcome⟩ := by
  rw [runFrom, h, ← append_list]
  simp only [quiet]
  rfl

theorem runFrom_of_next (h : scheme s = .ok (row, .next t))
    (quiet : (o.observe ⟨recorded.size + 1, row⟩).action = none) :
    scheme.runFrom o recorded log iter (ceiling + 1) s =
      scheme.runFrom (o.next ⟨recorded.size + 1, row⟩) (recorded.push row)
        (log ++ (o.observe ⟨recorded.size + 1, row⟩).log.toArray) (iter + 1) ceiling t := by
  rw [runFrom, h, ← append_list]
  simp only [quiet]
  rfl

end Steps

/-- If the observer lets the events of the course pass, it sees all of them, after what was recorded
before. The count of the iterations keeps its distance `first` from the number of rows. -/
theorem runFrom_of_passes (scheme : Scheme σ ρ ε η) (o : Observer τ ρ) (recorded : Array ρ)
    (log : Array Log.Entry) (first ceiling : Nat) (s : σ)
    (h : o.Passes (Event.ofRowsFrom recorded.size (scheme.course ceiling s).rows)) :
    scheme.runFrom o recorded log (first + recorded.size) ceiling s =
      { observer := o.after (Event.ofRowsFrom recorded.size (scheme.course ceiling s).rows)
        rows := recorded ++ (scheme.course ceiling s).rows.toArray
        log := log ++
          (o.entries (Event.ofRowsFrom recorded.size (scheme.course ceiling s).rows)).toArray
        ending := Course.ending
          ⟨recorded.toList ++ (scheme.course ceiling s).earlier,
            (scheme.course ceiling s).finish⟩ first } := by
  induction ceiling generalizing s o recorded log with
  | zero => simp [runFrom, Course.ending, Observer.entries]
  | succ ceiling ih =>
    rcases hs : scheme s with cause | ⟨row, outcome | t⟩
    · simp [runFrom_of_error hs, course_of_error hs, Course.ending, Observer.entries]
    · rw [course_of_halt hs] at h ⊢
      rw [runFrom_of_halt hs h.1]
      simp [Course.ending, Observer.entries]
    · rw [course_of_next hs, Course.rows_cons, Event.ofRowsFrom_cons] at h ⊢
      have count : first + recorded.size + 1 = first + (recorded.push row).size := by
        rw [Array.size_push, Nat.add_assoc]
      rw [runFrom_of_next hs h.1, count, ih _ _ _ _ (by simpa using h.2)]
      simp [Observer.entries, Course.cons, ← List.append_toArray]

/-- If the observer first asks to stop at some row of the course, the pass stops there, after what
was recorded before. -/
theorem runFrom_of_stopsAt (scheme : Scheme σ ρ ε η) (o : Observer τ ρ) (recorded : Array ρ)
    (log : Array Log.Entry) (first ceiling : Nat) (s : σ) {before rest : List ρ} {row : ρ}
    (h : (scheme.course ceiling s).rows = before ++ row :: rest)
    (stops : o.StopsAt (Event.ofRowsFrom recorded.size before)
      ⟨recorded.size + before.length + 1, row⟩) :
    scheme.runFrom o recorded log (first + recorded.size) ceiling s =
      { observer := o.after (Event.ofRowsFrom recorded.size (before ++ [row]))
        rows := recorded ++ (before ++ [row]).toArray
        log := log ++ (o.entries (Event.ofRowsFrom recorded.size (before ++ [row]))).toArray
        ending := .stopped ⟨recorded ++ before.toArray, row⟩
          (first + (recorded.size + before.length)) } := by
  induction ceiling generalizing s o recorded log before with
  | zero => simp at h
  | succ ceiling ih =>
    cases before with
    | nil =>
      -- the observer is asked before the verdict counts, so it does not matter what follows the row
      obtain ⟨verdict, hs⟩ : ∃ verdict, scheme s = .ok (row, verdict) :=
        head?_course_rows (ceiling + 1) (by simp [h])
      have asked : (o.observe ⟨recorded.size + 1, row⟩).action = some .stopEarly := stops.2
      rw [runFrom_of_stop hs asked]
      simp [Observer.entries]
    | cons row₀ before =>
      -- the observer lets the first row pass, and rows follow it, so the scheme goes on
      rw [Event.ofRowsFrom_cons] at stops
      obtain ⟨⟨quiet, passes⟩, stops⟩ := stops
      rcases hs : scheme s with cause | ⟨row₀', outcome | t⟩
      · simp [course_of_error hs] at h
      · simp [course_of_halt hs] at h
      · rw [course_of_next hs, Course.rows_cons, List.cons_append, List.cons.injEq] at h
        obtain ⟨rfl, h⟩ := h
        have shift : recorded.size + (before.length + 1) = recorded.size + 1 + before.length :=
          Nat.add_right_comm recorded.size before.length 1
        have stops_later : (o.next ⟨recorded.size + 1, row₀'⟩).StopsAt
            (Event.ofRowsFrom (recorded.push row₀').size before)
            ⟨(recorded.push row₀').size + before.length + 1, row⟩ :=
          ⟨by simpa using passes, by simpa [shift] using stops⟩
        have count : first + recorded.size + 1 = first + (recorded.push row₀').size := by
          rw [Array.size_push, Nat.add_assoc]
        rw [runFrom_of_next hs quiet, count, ih _ _ _ _ h stops_later]
        simp [Observer.entries, shift]

variable (scheme : Scheme σ ρ ε η) (o : Observer τ ρ) (ceiling first : Nat) (s : σ)

/-- An observer that lets all events pass sees the whole course. -/
theorem run_of_passes (h : o.Passes (scheme.course ceiling s).events) :
    scheme.run o ceiling first s = (scheme.course ceiling s).shownTo o first := by
  rw [Course.events, Event.ofRows_eq] at h
  have whole := runFrom_of_passes scheme o #[] #[] first ceiling s h
  rw [Array.size_empty, Nat.add_zero] at whole
  rw [run, whole]
  simp [Course.shownTo, Course.events, Event.ofRows_eq]

/-- An observer that asks to stop sees the course up to the row at which it first does. -/
theorem run_of_stopsAt {before rest : List ρ} {row : ρ}
    (h : (scheme.course ceiling s).rows = before ++ row :: rest)
    (stops : o.StopsAt (Event.ofRows before) ⟨before.length + 1, row⟩) :
    scheme.run o ceiling first s = .stoppedAt o first before row := by
  rw [Event.ofRows_eq] at stops
  have stopped := runFrom_of_stopsAt scheme o #[] #[] first ceiling s h (by simpa using stops)
  rw [Array.size_empty, Nat.add_zero, Nat.zero_add] at stopped
  rw [run, stopped]
  simp [Pass.stoppedAt, Event.ofRows_eq]

/-- Everything a pass can be: the whole course, or the course up to the first row at which the
observer asks to stop. -/
theorem run_cases :
    (o.Passes (scheme.course ceiling s).events ∧
        scheme.run o ceiling first s = (scheme.course ceiling s).shownTo o first) ∨
      ∃ before row rest, (scheme.course ceiling s).rows = before ++ row :: rest ∧
        o.StopsAt (Event.ofRows before) ⟨before.length + 1, row⟩ ∧
        scheme.run o ceiling first s = .stoppedAt o first before row := by
  rcases o.passes_or_stopsAt (scheme.course ceiling s).events with
    passes | ⟨before, e, rest, split, stops⟩
  · exact .inl ⟨passes, run_of_passes _ _ _ _ _ passes⟩
  · obtain ⟨rows, row, rest, h, rfl, rfl⟩ := Event.ofRows_eq_append_cons split
    exact .inr ⟨rows, row, rest, h, stops, run_of_stopsAt _ _ _ _ _ h stops⟩

end Scheme

end RootFinding
