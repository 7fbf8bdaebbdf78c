import RootFinding.Proofs.Scalar.TwoPasses
import RootFinding.Scalar.Finder
import RootFinding.Systems.FixedPoint

/-!
# Observation only cuts a run short

Take a call of any method and a passive observer, who never acts. Let another observer watch the
same call. If this observer, fed the events of the passive one, never acts, then it receives just
these events and the result is the same. If it first acts at some event, it receives the events up
to that one, and the call succeeds with the rows of the pass that is under way, as far as it has
come.

`Refines` states this for two calls, `refines_of_follows` derives it for any two calls that follow
one outline, and `observed_call_refines_unobserved` is the statement for the six methods and for the
entry points without an observer.
-/

namespace RootFinding

variable {τ υ ρ ε : Type}

/-- The rows of the pass that is under way after a list of events: those since the last event with
the number one. -/
def Event.currentPass (events : List (Event ρ)) : List ρ :=
  events.foldl (fun rows e => if e.iter = 1 then [e.row] else rows ++ [e.row]) []

namespace Event

private theorem foldl_ofRowsFrom_succ (recorded : Nat) (rows acc : List ρ) :
    (ofRowsFrom (recorded + 1) rows).foldl
      (fun rows e => if e.iter = 1 then [e.row] else rows ++ [e.row]) acc = acc ++ rows := by
  induction rows generalizing recorded acc with
  | nil => simp
  | cons row rows ih => simp [ih]

/-- A pass that has begun is the current one. -/
theorem currentPass_append_ofRows (events : List (Event ρ)) {rows : List ρ} (h : rows ≠ []) :
    currentPass (events ++ ofRows rows) = rows := by
  cases rows with
  | nil => exact absurd rfl h
  | cons row rows =>
    rw [currentPass, List.foldl_append, ofRows_eq, ofRowsFrom_cons, List.foldl_cons]
    exact foldl_ofRowsFrom_succ 0 rows [row]

end Event

/-- The place at which an observer first asks to stop is unique. -/
theorem Observer.StopsAt.unique {o : Observer τ ρ} {before before' rest rest' : List (Event ρ)}
    {e e' : Event ρ} (h : o.StopsAt before e) (h' : o.StopsAt before' e')
    (split : before ++ e :: rest = before' ++ e' :: rest') : before = before' ∧ e = e' := by
  rcases List.append_eq_append_iff.1 split with ⟨tail, rfl, htail⟩ | ⟨tail, rfl, htail⟩
  · cases tail with
    | nil => exact ⟨(List.append_nil _).symm, (List.cons.inj htail).1⟩
    | cons first tail =>
      obtain ⟨rfl, -⟩ := List.cons.inj htail
      exact absurd h'.1 h.not_passes
  · cases tail with
    | nil => exact ⟨List.append_nil _, ((List.cons.inj htail).1).symm⟩
    | cons first tail =>
      obtain ⟨rfl, -⟩ := List.cons.inj htail
      exact absurd h.1 h'.not_passes

/-- What the call that `o` watches has to do with the same call under a passive observer. `rowsOf`
tells which rows of the events a trace holds. -/
structure Refines (rowsOf : List (Event ρ) → List ρ) (o : Observer τ ρ) (quiet : Run υ ρ ε)
    (watched : Run τ ρ ε) : Prop where
  /-- What the observer receives is what it is left by. -/
  received : watched.observer = o.after watched.events
  /-- An observer that does not act changes nothing. -/
  unstopped : o.Passes quiet.events →
    watched.events = quiet.events ∧ watched.result = quiet.result
  /-- An observer that acts ends the call at once, and the call succeeds. -/
  stopped : ∀ before e rest, quiet.events = before ++ e :: rest → o.StopsAt before e →
    watched.events = before ++ [e] ∧
      ∃ solution, watched.result = .ok solution ∧ solution.status = .stoppedByObserver ∧
        solution.trace.rows = rowsOf (before ++ [e])

/-- Two calls that follow one outline, the first under a passive observer. -/
theorem refines_of_follows {rowsOf : List (Event ρ) → List ρ} {first : Nat}
    {p : Outline ρ ε} {o : Observer τ ρ} {quiet : Observer υ ρ} {run : Run υ ρ ε}
    {watched : Run τ ρ ε} (passive : quiet.IsPassive) (hquiet : p.Follows first quiet run)
    (h : p.Follows first o watched)
    (hrows : ∀ {done later : List (List ρ)} {before rest : List ρ} {row : ρ},
      p.passes = done ++ (before ++ row :: rest) :: later →
      before ++ [row] = rowsOf (Event.ofPasses done ++ Event.ofRows (before ++ [row]))) :
    Refines rowsOf o run watched := by
  -- the passive observer sees the whole outline
  obtain ⟨hevents, hresult⟩ := hquiet.whole_of_passes (passive.passes _)
  refine ⟨h.observer_eq, ?_, ?_⟩
  · intro passes
    rw [hevents] at passes ⊢
    rw [hresult]
    cases h with
    | whole _ events _ result => exact ⟨events, result⟩
    | broken _ _ split stops =>
      rw [Outline.events, split, Event.ofPasses_divided] at passes
      exact absurd passes stops.not_passes
  · intro before e rest split stops
    rw [hevents] at split
    cases h with
    | whole passes => exact absurd (split ▸ passes) stops.not_passes
    | broken done later split' stops' events observer result =>
      rw [Outline.events, split', Event.ofPasses_divided] at split
      obtain ⟨rfl, rfl⟩ := stops.unique stops' split.symm
      rw [← Event.ofPasses_concat]
      refine ⟨events, _, result, rfl, ?_⟩
      rw [← hrows split']
      rfl

/-! ## The six methods -/

/-- A call, with its observer left open, under any observer beside the same call under a passive
one. -/
def ObservationRefines (rowsOf : List (Event ρ) → List ρ)
    (call : ∀ {τ : Type}, Observer τ ρ → Run τ ρ ε) : Prop :=
  ∀ {υ τ : Type} (quiet : Observer υ ρ) (o : Observer τ ρ), quiet.IsPassive →
    Refines rowsOf o (call quiet) (call o)

/-- The result of a call under any passive observer. -/
def IsUnobserved (call : ∀ {τ : Type}, Observer τ ρ → Run τ ρ ε)
    (result : Except ε (Solution ρ)) : Prop :=
  ∀ {υ : Type} (quiet : Observer υ ρ), quiet.IsPassive → result = (call quiet).result

/-- Under the silent observer a call has the unobserved result. -/
theorem ObservationRefines.isUnobserved {rowsOf : List (Event ρ) → List ρ}
    {call : ∀ {τ : Type}, Observer τ ρ → Run τ ρ ε} (h : ObservationRefines rowsOf call) :
    IsUnobserved call (call .silent).result := fun quiet passive =>
  ((h quiet .silent passive).unstopped (Observer.isPassive_silent.passes _)).2

namespace Scheme

variable {σ : Type}

/-- In a method with one pass, a trace holds the rows of all events. -/
theorem call_refines (scheme : Scheme σ ρ ε Unit) (ceiling first : Nat) (exhausted : ε)
    (start : Except ε σ) :
    ObservationRefines (List.map Event.row)
      (fun o => scheme.call o ceiling first exhausted start) := by
  intro υ τ quiet o passive
  refine refines_of_follows passive (scheme.call_follows quiet ceiling first exhausted start)
    (scheme.call_follows o ceiling first exhausted start) ?_
  intro done later before rest row split
  cases start with
  | error cause =>
    exact absurd split.symm (List.append_ne_nil_of_right_ne_nil done (List.cons_ne_nil _ later))
  | ok s =>
    -- there is no pass before the one that is broken off
    obtain ⟨rfl, -⟩ := Outline.split_of_single split
    rw [Event.ofPasses_nil, List.nil_append, Event.map_row_ofRows]

end Scheme

/-- In simple iteration, a trace holds the rows of the current pass. -/
theorem Scalar.SimpleIteration.solve_refines {α : Type} [Number α] [NumberText α]
    (f : ScalarFunction α) (left right precision : α) (samples : Nat) (limits : Limits α) :
    ObservationRefines Event.currentPass
      (fun o => SimpleIteration.solve f left right precision samples limits o) := by
  intro υ τ quiet o passive
  refine refines_of_follows passive (solve_follows f left right precision samples limits quiet)
    (solve_follows f left right precision samples limits o) ?_
  intro done later before rest row split
  exact (Event.currentPass_append_ofRows _ (by simp)).symm

/-! ## The entry points without an observer -/

section Finder

variable {α : Type}

/-- A call refines its unobserved run, and a finder with the same parameters returns the result of
this run, and its trace. -/
structure Scalar.Finder.Agrees (finder : Finder α ρ) (rowsOf : List (Event ρ) → List ρ)
    (f : ScalarFunction α) (left right precision : α)
    (call : ∀ {τ : Type}, Observer τ ρ → Run τ ρ (Error α)) : Prop where
  refines : ObservationRefines rowsOf call
  solve : IsUnobserved call (finder.solve f left right precision).result
  evaluateRoot : ∀ {υ : Type} (quiet : Observer υ ρ), quiet.IsPassive →
    finder.evaluateRoot f left right precision = (call quiet).result.map Solution.trace

/-- A finder that makes a call under the silent observer agrees with it. -/
theorem Scalar.Finder.agrees_of_refines {finder : Finder α ρ}
    {rowsOf : List (Event ρ) → List ρ} {f : ScalarFunction α} {left right precision : α}
    {call : ∀ {τ : Type}, Observer τ ρ → Run τ ρ (Error α)}
    (refines : ObservationRefines rowsOf call)
    (silent : finder.solve f left right precision = call .silent) :
    finder.Agrees rowsOf f left right precision call := by
  have unobserved : IsUnobserved call (finder.solve f left right precision).result := by
    rw [silent]
    exact refines.isUnobserved
  refine ⟨refines, unobserved, ?_⟩
  intro υ quiet passive
  rw [evaluateRoot, unobserved quiet passive]

end Finder

/-- The limits of the system solver when none are given, over the doubles. -/
def Systems.Limits.standard : Limits Float where
  maxIters := defaultMaxIters
  gridStep := defaultGridStep
  maxIters_pos := by decide
  tolerance := by decide
  le_max := by decide

/-- The default limits are sensible. -/
theorem Systems.Limits.of_default :
    of defaultMaxIters (defaultGridStep : Float) = .ok standard := rfl

/-- Without an observer and limits, the system solver makes the call with the standard limits. -/
theorem Systems.FixedPoint.solveByDefault_eq (system : EquationSystem Float)
    (intervals : List (Interval Float)) (point : Point Float) (precision : Float) :
    solveByDefault system intervals point precision =
      solve system intervals point precision .standard .silent := by
  rw [solveByDefault, Limits.of_default]

/-- A watched call of any of the six methods is the unobserved call, or this call up to the first
event at which its observer asks to stop; and the entry points without an observer return what the
unobserved call returns. -/
theorem observed_call_refines_unobserved (f : ScalarFunction Float)
    (left right precision offset : Float) (samples : Nat) (limits : Scalar.Limits Float)
    (system : EquationSystem Float) (intervals : List (Interval Float)) (point : Point Float)
    (bounds : Systems.Limits Float) :
    (Scalar.Finder.bisection limits).Agrees (List.map Event.row) f left right precision
        (fun o => Scalar.Bisection.solve f left right precision limits o) ∧
      (Scalar.Finder.chord limits).Agrees (List.map Event.row) f left right precision
        (fun o => Scalar.Chord.solve f left right precision limits o) ∧
      (Scalar.Finder.newton limits).Agrees (List.map Event.row) f left right precision
        (fun o => Scalar.Newton.solve f left right precision limits o) ∧
      (Scalar.Finder.secant limits offset).Agrees (List.map Event.row) f left right precision
        (fun o => Scalar.Secant.solve f left right precision offset limits o) ∧
      (Scalar.Finder.simpleIteration limits samples).Agrees Event.currentPass f left right precision
        (fun o => Scalar.SimpleIteration.solve f left right precision samples limits o) ∧
      ObservationRefines (List.map Event.row)
        (fun o => Systems.FixedPoint.solve system intervals point precision bounds o) ∧
      IsUnobserved (fun o => Systems.FixedPoint.solve system intervals point precision .standard o)
        (Systems.FixedPoint.solveByDefault system intervals point precision).result ∧
      ∀ {υ : Type} (quiet : Observer υ (Systems.Row Float)), quiet.IsPassive →
        Systems.FixedPoint.evaluateRoot system intervals point precision =
          (Systems.FixedPoint.solve system intervals point precision .standard quiet).result.map
            Solution.trace := by
  have system_refines (bounds : Systems.Limits Float) : ObservationRefines (List.map Event.row)
      (fun o => Systems.FixedPoint.solve system intervals point precision bounds o) :=
    Scheme.call_refines _ _ _ _ _
  have unobserved :
      IsUnobserved (fun o => Systems.FixedPoint.solve system intervals point precision .standard o)
        (Systems.FixedPoint.solveByDefault system intervals point precision).result := by
    rw [Systems.FixedPoint.solveByDefault_eq]
    exact ObservationRefines.isUnobserved (system_refines .standard)
  refine ⟨?_, ?_, ?_, ?_, ?_, system_refines bounds, unobserved, ?_⟩
  · exact Scalar.Finder.agrees_of_refines (Scheme.call_refines _ _ _ _ _) rfl
  · exact Scalar.Finder.agrees_of_refines (Scheme.call_refines _ _ _ _ _) rfl
  · exact Scalar.Finder.agrees_of_refines (Scheme.call_refines _ _ _ _ _) rfl
  · exact Scalar.Finder.agrees_of_refines (Scheme.call_refines _ _ _ _ _) rfl
  · exact Scalar.Finder.agrees_of_refines
      (Scalar.SimpleIteration.solve_refines f left right precision samples limits) rfl
  · intro υ quiet passive
    rw [Systems.FixedPoint.evaluateRoot, unobserved quiet passive]

end RootFinding
