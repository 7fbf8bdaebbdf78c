import RootFinding.Proofs.Methods.Tabulation
import RootFinding.Proofs.Run.Logging
import RootFinding.Proofs.Scalar.Retry

/-!
# Logging in the six methods

The logging observer changes nothing but the log. It writes one record an event, and loses no cell,
since the rows of all methods have as many cells as columns. Simple iteration is the one method that
logs something of its own: a line between its two passes, if the first one escapes.

The line has its own level, so a threshold may keep it without the records, or the records without
it.
-/

namespace RootFinding

/-! ## Rows -/

namespace Scalar

variable {α : Type}

theorem Bisection.isTabular (r : Row α) : IsTabular r := ⟨rfl, rfl⟩

theorem Chord.isTabular (r : Row α) : IsTabular r := ⟨rfl, rfl⟩

theorem Newton.isTabular (r : Row α) : IsTabular r := ⟨rfl, rfl⟩

theorem Secant.isTabular (r : Row α) : IsTabular r := ⟨rfl, rfl⟩

theorem SimpleIteration.isTabular (r : Row α) : IsTabular r := ⟨rfl, rfl⟩

end Scalar

/-- A full row of a system has two cells and two columns for each unknown. -/
theorem Systems.FixedPoint.IsFull.isTabular {α : Type} [Number α] {system : EquationSystem α}
    {r : Row α} (h : IsFull system r) : IsTabular r := by
  refine ⟨h.cells?_eq, ?_⟩
  rw [length_cells, ← length_columnNames]
  rfl

/-! ## Simple iteration -/

namespace Scalar.SimpleIteration

variable {α : Type} [Number α] [NumberText α] {f : ScalarFunction α}
  {left right precision c : α} {samples : Nat} {limits : Limits α} {interval : Interval α}
  {name : String} {level : Log.Level}

/-- The pass of a logging observer is the whole course. -/
theorem pass_logging (f : ScalarFunction α) (interval : Interval α) (precision : α)
    (limits : Limits α) (c : α) :
    pass f interval precision limits c (.logging name level) =
      (passCourse f interval precision limits c).shownTo (.logging name level) 1 :=
  Scheme.run_of_passes _ _ _ _ _ (Observer.isPassive_logging.passes _)

/-- What a call logs whose first pass does not escape. -/
theorem log_of_not_escaped
    (ready : start f left right precision samples limits = .ok (interval, c))
    {rows : List (Row α)} {e : Option (End α)}
    (first : IsPass f interval precision c limits.maxIters rows e)
    (inside : ∀ x, e ≠ some (.escaped x)) :
    (solve f left right precision samples limits (.logging name level)).log =
      (Observer.logging name level).entries (Event.ofRows rows) := by
  obtain ⟨rfl, rfl⟩ := first.unique (isPass_passCourse f interval precision c limits)
  have not_escaped : ∀ last x,
      (passCourse f interval precision limits c).finish ≠ .halted last (.escaped x) :=
    fun last x escaped => inside x (endOf_eq_escaped_iff.2 ⟨last, escaped⟩)
  rw [solve_of_not_escaped ready (pass_logging f interval precision limits c)
    (ending_ne_escaped not_escaped)]
  exact List.toList_toArray

/-- What a call logs whose first pass escapes: the line stands between the records of the two
passes. -/
theorem log_of_escaped
    (ready : start f left right precision samples limits = .ok (interval, c))
    {rows rows' : List (Row α)} {x : α} {e : Option (End α)}
    (first : IsPass f interval precision c limits.maxIters rows (some (.escaped x)))
    (second : IsPass f interval precision (-c) limits.maxIters rows' e) :
    (solve f left right precision samples limits (.logging name level)).log =
      (Observer.logging name level).entries (Event.ofRows rows) ++ retryEntry interval x c ::
        (Observer.logging name level).entries (Event.ofRows rows') := by
  obtain ⟨rfl, escapes⟩ := first.unique (isPass_passCourse f interval precision c limits)
  obtain ⟨rfl, rfl⟩ := second.unique (isPass_passCourse f interval precision (-c) limits)
  obtain ⟨last, escaped⟩ := endOf_eq_escaped_iff.1 escapes.symm
  have second_pass : pass f interval precision limits (-c)
      ((passCourse f interval precision limits c).shownTo (.logging name level) 1).observer =
        (passCourse f interval precision limits (-c)).shownTo (.logging name level) 1 := by
    rw [Course.shownTo, Observer.after_logging]
    exact pass_logging f interval precision limits (-c)
  have ending : ((passCourse f interval precision limits c).shownTo
      (.logging name level : Observer Unit (Row α)) 1).ending =
        .halted ⟨(passCourse f interval precision limits c).earlier.toArray, last⟩
          (1 + (passCourse f interval precision limits c).earlier.length) (.escaped x) := by
    simp only [Course.shownTo, Course.ending, escaped]
  rw [solve_of_escaped ready (pass_logging f interval precision limits c) second_pass ending]
  simp [Course.shownTo, Course.events]

/-- What is kept under a threshold of the log of a call: nothing of a call that is refused, the
records of one pass, or those of two passes with the line between them. -/
inductive LogsPasses (f : ScalarFunction α) (left right precision : α) (samples : Nat)
    (limits : Limits α) (most : Log.Threshold) (name : String) (level : Log.Level)
    (events : List (Event (Row α))) (kept : List Log.Entry) : Prop
  | refused {cause : Error α} (refusal : start f left right precision samples limits = .error cause)
      (events_eq : events = []) (kept_eq : kept = []) :
      LogsPasses f left right precision samples limits most name level events kept
  /-- The first pass does not escape. -/
  | single {interval : Interval α} {c : α} {rows : List (Row α)} {e : Option (End α)}
      (ready : start f left right precision samples limits = .ok (interval, c))
      (first : IsPass f interval precision c limits.maxIters rows e)
      (inside : ∀ x, e ≠ some (.escaped x))
      (events_eq : events = Event.ofRows rows)
      (records : Emits most name level (Event.ofRows rows) kept) :
      LogsPasses f left right precision samples limits most name level events kept
  /-- The first pass escapes, and the line is kept exactly if the threshold admits its level. -/
  | retried {interval : Interval α} {c x : α} {rows rows' : List (Row α)} {e : Option (End α)}
      {before after : List Log.Entry}
      (ready : start f left right precision samples limits = .ok (interval, c))
      (first : IsPass f interval precision c limits.maxIters rows (some (.escaped x)))
      (second : IsPass f interval precision (-c) limits.maxIters rows' e)
      (events_eq : events = Event.ofRows rows ++ Event.ofRows rows')
      (kept_eq : kept =
        before ++ (if most.admits .debug then [retryEntry interval x c] else []) ++ after)
      (records : Emits most name level (Event.ofRows rows) before)
      (records' : Emits most name level (Event.ofRows rows') after) :
      LogsPasses f left right precision samples limits most name level events kept

theorem solve_logsPasses (f : ScalarFunction α) (left right precision : α) (samples : Nat)
    (limits : Limits α) (most : Log.Threshold) (name : String) (level : Log.Level) :
    LogsPasses f left right precision samples limits most name level
      (solve f left right precision samples limits (.logging name level)).events
      (Log.kept most (solve f left right precision samples limits (.logging name level)).log) := by
  have passive : (Observer.logging name level : Observer Unit (Row α)).IsPassive :=
    Observer.isPassive_logging
  have passes := passive.passes
    (solve f left right precision samples limits (.logging name level)).events
  have tabular (rows : List (Row α)) : ∀ e ∈ Event.ofRows rows, IsTabular e.row :=
    fun e _ => isTabular e.row
  cases hstart : start f left right precision samples limits with
  | error cause =>
    refine .refused hstart ?_ ?_
    · rw [solve, hstart]
      rfl
    · rw [solve, hstart]
      rfl
  | ok ready =>
    obtain ⟨interval, c⟩ := ready
    have first := isPass_passCourse f interval precision c limits
    by_cases escape : ∃ x, endOf (passCourse f interval precision limits c).finish =
        some (.escaped x)
    · obtain ⟨x, escaped⟩ := escape
      rw [escaped] at first
      have second := isPass_passCourse f interval precision (-c) limits
      refine .retried hstart first second (call_of_escaped hstart passes first second).1 ?_
        (emits_kept most (tabular _)) (emits_kept most (tabular _))
      rw [log_of_escaped hstart first second]
      exact Log.kept_append_cons most _ _ _
    · push Not at escape
      refine .single hstart first escape (call_of_not_escaped hstart passes first escape).1 ?_
      rw [log_of_not_escaped hstart first escape]
      exact emits_kept most (tabular _)

end Scalar.SimpleIteration

/-! ## The six methods -/

/-- In each method, the logging observer changes nothing but the log. If the threshold admits the
level, the log keeps exactly one record an event, in the order of the events, and each tells the
number of the event and every cell of its row under the name of its column; otherwise it keeps none.
Only simple iteration logs something more: a line between its two passes. -/
theorem logging_is_complete_and_transparent {α : Type} [Number α] [NumberText α]
    (f : ScalarFunction α) (left right precision offset : α) (samples : Nat)
    (limits : Scalar.Limits α) (system : EquationSystem α) (intervals : List (Interval α))
    (point : Point α) (bounds : Systems.Limits α) (most : Log.Threshold) (name : String)
    (level : Log.Level) :
    LogsTransparently most name level (Emits most name level)
        (fun o => Scalar.Bisection.solve f left right precision limits o) ∧
      LogsTransparently most name level (Emits most name level)
        (fun o => Scalar.Chord.solve f left right precision limits o) ∧
      LogsTransparently most name level (Emits most name level)
        (fun o => Scalar.Newton.solve f left right precision limits o) ∧
      LogsTransparently most name level (Emits most name level)
        (fun o => Scalar.Secant.solve f left right precision offset limits o) ∧
      LogsTransparently most name level
        (Scalar.SimpleIteration.LogsPasses f left right precision samples limits most name level)
        (fun o => Scalar.SimpleIteration.solve f left right precision samples limits o) ∧
      LogsTransparently most name level (Emits most name level)
        (fun o => Systems.FixedPoint.solve system intervals point precision bounds o) := by
  refine ⟨?_, ?_, ?_, ?_, ?_, ?_⟩
  · exact Scheme.call_logsTransparently _ _ _ _ _ most fun r _ => Scalar.Bisection.isTabular r
  · exact Scheme.call_logsTransparently _ _ _ _ _ most fun r _ => Scalar.Chord.isTabular r
  · exact Scheme.call_logsTransparently _ _ _ _ _ most fun r _ => Scalar.Newton.isTabular r
  · exact Scheme.call_logsTransparently _ _ _ _ _ most fun r _ => Scalar.Secant.isTabular r
  · exact logsTransparently_of_refines
      (Scalar.SimpleIteration.solve_refines f left right precision samples limits)
      (Scalar.SimpleIteration.solve_logsPasses f left right precision samples limits most name
        level)
  · exact Scheme.call_logsTransparently _ _ _ _ _ most fun r hr =>
      (Systems.FixedPoint.isFull_of_mem_rows hr).isTabular

end RootFinding
