import RootFinding.Number
import RootFinding.Trace
import RootFinding.VectorFunction

/-!
# Rows of the system solver

A row holds a point and, except for the first row of a run, how far each coordinate has moved.
-/

namespace RootFinding.Systems

open Number

variable {α : Type}

/-- A point of the iteration and the changes that led to it. -/
structure Row (α : Type) where
  values : Point α
  changes : Option (List α)
deriving DecidableEq, Repr

namespace Row

/-- The row of a start point, to which no change has led. -/
def seed (start : Point α) : Row α := ⟨start, none⟩

/-- The largest change. Changes that are not numbers are passed over; without any change it is
zero. -/
def maxChange [Number α] (r : Row α) : Option α :=
  r.changes.map fun changes => changes.foldl maxWith zero

/-- A coordinate and its change, by name. -/
def columnPair (i : Nat) : List String :=
  ["x_" ++ toString i, "|x_" ++ toString i ++ "^k - x_" ++ toString i ++ "^(k-1)|"]

/-- The change of a coordinate, if the row tells it. -/
def change? (r : Row α) (i : Nat) : Option α := r.changes.bind fun changes => changes[i]?

/-- Whether there is a change for each coordinate, when there are changes at all. -/
def isComplete (r : Row α) : Bool :=
  r.changes.all fun changes => r.values.length ≤ changes.length

end Row

instance [Number α] : TraceRow (Row α) α (Point α) where
  columns r := (List.range r.values.length).flatMap Row.columnPair
  cells r := r.values.zipIdx.flatMap fun (value, i) => [some value, r.change? i]
  answer r := r.values
  step := Row.maxChange
  estimate _ := none
  isComplete := Row.isComplete

end RootFinding.Systems
