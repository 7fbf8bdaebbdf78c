/-!
# Traces

A run records one row per iteration; the rows in order are its trace. A trace has at least one row:
`Trace` keeps the last one apart, so the answer of a trace always exists.

`TraceRow` is what all rows have in common. The kinds of row are defined with their methods.
-/

namespace RootFinding

/-- What can be read off a row: named cells over `α`, an answer of type `ω`, and the quantities that
an observer may look at. -/
class TraceRow (ρ : Type) (α ω : outParam Type) where
  /-- The names of the cells. -/
  columns : ρ → List String
  /-- The cells, in the order of their names; a cell may be missing. -/
  cells : ρ → List (Option α)
  /-- The answer of a trace that ends with this row. -/
  answer : ρ → ω
  /-- The size of the step that led to this row, if there was one. -/
  step : ρ → Option α
  /-- The estimate of the root, of a row that has a single one. -/
  estimate : ρ → Option α
  /-- Whether the row holds a value for each cell it promises. -/
  isComplete : ρ → Bool := fun _ => true

/-- The cells of a row; none of them can be had when the row is incomplete. -/
def TraceRow.cells? {ρ α ω : Type} [TraceRow ρ α ω] (row : ρ) : Option (List (Option α)) :=
  if isComplete row then some (cells row) else none

/-- The rows of a run: those recorded `earlier` and the `last` one. -/
structure Trace (ρ : Type) where
  earlier : Array ρ
  last : ρ

namespace Trace

variable {ρ α ω : Type}

/-- All rows in order. -/
def rows (t : Trace ρ) : List ρ := t.earlier.toList ++ [t.last]

/-- The number of rows. -/
def size (t : Trace ρ) : Nat := t.earlier.size + 1

@[simp] theorem length_rows (t : Trace ρ) : t.rows.length = t.size := by
  simp [rows, size]

theorem rows_ne_nil (t : Trace ρ) : t.rows ≠ [] := by
  simp [rows]

/-- The answer: that of the last row. -/
def answer [TraceRow ρ α ω] (t : Trace ρ) : ω := TraceRow.answer t.last

/-- The names of the columns: those of the last row. -/
def columns [TraceRow ρ α ω] (t : Trace ρ) : List String := TraceRow.columns t.last

end Trace

/-- How a run came to its answer. -/
inductive Status where
  /-- The stopping rule of the method held. -/
  | converged
  /-- The observer asked to stop. -/
  | stoppedByObserver
deriving DecidableEq, Repr

/-- The result of a run: how it ended, the number of iterations, and all rows. -/
structure Solution (ρ : Type) where
  status : Status
  iters : Nat
  trace : Trace ρ

/-- The answer of the trace. -/
def Solution.answer {ρ α ω : Type} [TraceRow ρ α ω] (s : Solution ρ) : ω := s.trace.answer

end RootFinding
