import RootFinding.Log
import RootFinding.Number
import RootFinding.NumberText
import RootFinding.Trace

/-!
# Observers

An observer is a state machine that a run offers each row to, as soon as the row is recorded. It may
log, and it may ask the run to stop.
-/

namespace RootFinding

open Number

/-- What an observer may ask for. -/
inductive Action where
  /-- To end the run with the rows recorded so far. -/
  | stopEarly
deriving DecidableEq, Repr

/-- A row that was just recorded, and the number of rows recorded since the run began. -/
structure Event (ρ : Type) where
  iter : Nat
  row : ρ
deriving DecidableEq, Repr

/-- The events of rows that were recorded one after the other. -/
def Event.ofRows {ρ : Type} (rows : List ρ) : List (Event ρ) :=
  rows.mapIdx fun i row => ⟨i + 1, row⟩

/-- What an observer does with an event: its state afterwards, what it logs, what it asks for. -/
structure Response (τ : Type) where
  state : τ
  log : List Log.Entry := []
  action : Option Action := none

/-- An observer of rows of type `ρ` with states of type `τ`, in its present state. -/
structure Observer (τ ρ : Type) where
  state : τ
  respond : τ → Event ρ → Response τ

namespace Observer

variable {τ ρ α ω : Type}

/-- The response to an event. -/
def observe (o : Observer τ ρ) (e : Event ρ) : Response τ := o.respond o.state e

/-- The observer that asks for nothing and logs nothing. -/
def silent : Observer Unit ρ where
  state := ()
  respond _ _ := { state := () }

/-- The observer without a state that asks to stop at the events that satisfy `p`. -/
def stopWhen (p : Event ρ → Bool) : Observer Unit ρ where
  state := ()
  respond _ e := { state := (), action := if p e then some .stopEarly else none }

/-- Asks to stop at the event of a given number. -/
def stopAt (iter : Nat) : Observer Unit ρ := stopWhen fun e => e.iter = iter

variable [TraceRow ρ α ω]

/-- Asks to stop once the estimate exceeds a threshold. -/
def stopPast [Number α] (threshold : α) : Observer Unit ρ :=
  stopWhen fun e => (TraceRow.estimate e.row).any fun x => decide (threshold < x)

/-- Asks to stop once the step is shorter than a tolerance. A row without a step never stops the
run. -/
def stepBelow [Number α] (tolerance : α) : Observer Unit ρ :=
  stopWhen fun e => (TraceRow.step e.row).any fun x => decide (x < tolerance)

/-- A cell with its column name; a missing one is shown as a dash. -/
def cellText [NumberText α] (column : String) (cell : Option α) : String :=
  column ++ "=" ++ (cell.map NumberText.plain).getD "-"

/-- The line that tells of an event. -/
def eventText [NumberText α] (name : String) (e : Event ρ) : String :=
  name ++ ": iter " ++ toString e.iter ++ ": " ++
    ", ".intercalate (List.zipWith cellText (TraceRow.columns e.row) (TraceRow.cells e.row))

/-- Logs each event and asks for nothing. -/
def logging [NumberText α] (name : String) (level : Log.Level) : Observer Unit ρ where
  state := ()
  respond _ e := { state := (), log := [⟨level, eventText name e⟩] }

end Observer

end RootFinding
