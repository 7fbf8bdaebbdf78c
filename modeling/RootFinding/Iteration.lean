import RootFinding.Observer

/-!
# Running an iterative scheme

A `Scheme` is one iteration of a method, as a function of the method's working state. It computes a
row and says what follows it, or fails before there is a row. `Scheme.run` repeats the iteration and
is the same for all methods:

1. the iteration is carried out; if it fails, the run fails;
2. the row is recorded and offered to the observer;
3. if the observer asks to stop, the run stops, whatever the scheme says;
4. if the scheme halts, the run halts; otherwise it goes on, up to a ceiling on the number of rows.

The iterations are counted apart from the rows, from a `first` number on: a method whose first row
is no iteration counts from zero.

A run is called a `Pass`, since a method may need more than one to come to its `Run`.
-/

namespace RootFinding

/-- What follows a row: the scheme halts with an outcome, or goes on from a new state. -/
inductive Verdict (σ η : Type) where
  | halt (outcome : η)
  | next (state : σ)
deriving DecidableEq, Repr

/-- One iteration: from a state of type `σ` to a row of type `ρ` and what follows it. -/
abbrev Scheme (σ ρ ε η : Type) := σ → Except ε (ρ × Verdict σ η)

/-- How a pass ends. A pass with a last row tells the number of its last iteration. -/
inductive Ending (ρ ε η : Type) where
  /-- The scheme halted after the last row of the trace. -/
  | halted (trace : Trace ρ) (iter : Nat) (outcome : η)
  /-- The observer asked to stop at the last row of the trace. -/
  | stopped (trace : Trace ρ) (iter : Nat)
  /-- The ceiling was reached. -/
  | exhausted
  /-- An iteration failed. -/
  | failed (cause : ε)

/-- What a pass leaves behind: the observer in its new state, the rows it was offered, what was
logged, and the ending. -/
structure Pass (τ ρ ε η : Type) where
  observer : Observer τ ρ
  rows : Array ρ
  log : Array Log.Entry
  ending : Ending ρ ε η

/-- The rows that a pass offered to the observer, as events. -/
def Pass.events {τ ρ ε η : Type} (p : Pass τ ρ ε η) : List (Event ρ) := Event.ofRows p.rows.toList

namespace Scheme

variable {σ τ ρ ε η : Type}

/-- The pass from a state, when `rows` and `log` are recorded already and `ceiling` more rows may
be, the next one in the iteration number `iter`. -/
@[specialize]
def runFrom (scheme : Scheme σ ρ ε η) (observer : Observer τ ρ) (rows : Array ρ)
    (log : Array Log.Entry) (iter : Nat) : (ceiling : Nat) → σ → Pass τ ρ ε η
  | 0, _ => { observer, rows, log, ending := .exhausted }
  | ceiling + 1, state =>
    match scheme state with
    | .error cause => { observer, rows, log, ending := .failed cause }
    | .ok (row, verdict) =>
      let response := observer.observe ⟨rows.size + 1, row⟩
      let observer := { observer with state := response.state }
      let log := log ++ response.log
      match response.action with
      | some .stopEarly =>
        { observer, rows := rows.push row, log, ending := .stopped ⟨rows, row⟩ iter }
      | none =>
        match verdict with
        | .halt outcome =>
          { observer, rows := rows.push row, log, ending := .halted ⟨rows, row⟩ iter outcome }
        | .next state => runFrom scheme observer (rows.push row) log (iter + 1) ceiling state

/-- The pass from a state, with at most `ceiling` rows, whose iterations are counted from `first`
on. -/
@[specialize]
def run (scheme : Scheme σ ρ ε η) (observer : Observer τ ρ) (ceiling first : Nat) (state : σ) :
    Pass τ ρ ε η :=
  scheme.runFrom observer #[] #[] first ceiling state

end Scheme

/-- A whole call of a method: the events delivered to the observer, everything that was logged, the
observer afterwards, and the solution or the cause of failure. -/
structure Run (τ ρ ε : Type) where
  events : List (Event ρ)
  log : List Log.Entry
  observer : Observer τ ρ
  result : Except ε (Solution ρ)

namespace Run

variable {τ ρ ε : Type}

/-- The call that fails before the first row. -/
def refused (observer : Observer τ ρ) (cause : ε) : Run τ ρ ε where
  events := []
  log := []
  observer
  result := .error cause

/-- The call that consists of one pass of a scheme that halts only when it has converged;
`exhausted` is the error of a pass that reached the ceiling. -/
def ofPass (exhausted : ε) (pass : Pass τ ρ ε Unit) : Run τ ρ ε where
  events := pass.events
  log := pass.log.toList
  observer := pass.observer
  result :=
    match pass.ending with
    | .halted trace iters () => .ok ⟨.converged, iters, trace⟩
    | .stopped trace iters => .ok ⟨.stoppedByObserver, iters, trace⟩
    | .exhausted => .error exhausted
    | .failed cause => .error cause

end Run

/-- The call of a method that needs one pass: the pass from the starting state, or a refusal where
there is none. -/
def Scheme.call {σ τ ρ ε : Type} (scheme : Scheme σ ρ ε Unit) (observer : Observer τ ρ)
    (ceiling first : Nat) (exhausted : ε) (start : Except ε σ) : Run τ ρ ε :=
  match start with
  | .error cause => .refused observer cause
  | .ok state => .ofPass exhausted (scheme.run observer ceiling first state)

end RootFinding
