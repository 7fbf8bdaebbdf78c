import RootFinding.Iteration
import RootFinding.Systems.Contraction
import RootFinding.Systems.Row

/-!
# Fixed-point iteration

The system `x = f(x)` is solved by applying `f` again and again, from a start point in a search box.
The box has to pass the contraction check, and no iterate may leave it. The start point is the first
row of the run; the iteration stops when no coordinate changes by more than the precision.
-/

namespace RootFinding.Systems.FixedPoint

open Number

variable {α τ : Type} [Number α]

/-- Where the iteration stands. -/
inductive State (α : Type) where
  /-- Nothing is recorded yet. -/
  | seed (start : Point α)
  /-- The last row holds this point. -/
  | iterate (point : Point α)
deriving DecidableEq, Repr

/-- The first coordinate that lies outside its interval, counted from `index` on. -/
def firstOutside? : Point α → List (Interval α) → (index : Nat) → Option (Nat × α × Interval α)
  | value :: values, interval :: intervals, index =>
    if interval.contains value then firstOutside? values intervals (index + 1)
    else some (index, value, interval)
  | _, _, _ => none

/-- How far each coordinate moves from one point to the next. -/
def changesBetween (point next : Point α) : List α :=
  List.zipWith (fun old new => abs (old - new)) point next

/-- Whether no change exceeds the precision. -/
def isSettled (precision : α) (changes : List α) : Bool :=
  changes.all fun change => decide (change ≤ precision)

/-- One iteration: the start point itself, or the next point, which has to lie in the box. -/
def scheme (system : EquationSystem α) (intervals : List (Interval α)) (precision : α) :
    Scheme (State α) (Row α) (Error α) Unit
  | .seed start => .ok (.seed start, .next (.iterate start))
  | .iterate point =>
    match system.apply point with
    | .error cause => .error (.argument cause)
    | .ok next =>
      match firstOutside? next intervals 0 with
      | some (index, value, interval) => .error (.leftInterval index value interval)
      | none =>
        let changes := changesBetween point next
        .ok (⟨next, some changes⟩,
          if isSettled precision changes then .halt () else .next (.iterate next))

/-- Checks the sizes, the precision and the start point, in this order. -/
def checkInputs (system : EquationSystem α) (intervals : List (Interval α)) (point : Point α)
    (precision : α) : Except (Error α) Unit :=
  if intervals.length ≠ system.dimension ∨ point.length ≠ system.dimension then
    .error (.dimensionMismatch system.dimension intervals.length point.length)
  else if !isTolerance precision then
    .error (.invalidPrecision precision)
  else
    match firstOutside? point intervals 0 with
    | some (index, value, interval) => .error (.startOutsideInterval index value interval)
    | none => .ok ()

/-- The state to start from, after everything has been checked. -/
def start (system : EquationSystem α) (intervals : List (Interval α)) (point : Point α)
    (precision : α) (limits : Limits α) : Except (Error α) (State α) := do
  checkInputs system intervals point precision
  checkContraction system intervals limits
  return .seed point

/-- Looks for a solution of the system in the box of the given sides, from a point on. This point is
a row, but no iteration: the rows are counted from zero on. -/
def solve (system : EquationSystem α) (intervals : List (Interval α)) (point : Point α)
    (precision : α) (limits : Limits α) (observer : Observer τ (Row α)) :
    Run τ (Row α) (Error α) :=
  (scheme system intervals precision).call observer (limits.maxIters + 1) 0
    (.maxIters limits.maxIters)
    (start system intervals point precision limits)

/-- The unobserved call with the default limits. -/
def solveByDefault (system : EquationSystem α) (intervals : List (Interval α)) (point : Point α)
    (precision : α) : Run Unit (Row α) (Error α) :=
  match Limits.of Limits.defaultMaxIters Limits.defaultGridStep with
  | .error cause => .refused .silent (.invalidLimits cause)
  | .ok limits => solve system intervals point precision limits .silent

/-- The trace of the unobserved call with the default limits. -/
def evaluateRoot (system : EquationSystem α) (intervals : List (Interval α)) (point : Point α)
    (precision : α) : Except (Error α) (Trace (Row α)) :=
  (solveByDefault system intervals point precision).result.map Solution.trace

/-- The coordinates that a trace ends with. -/
def extractAnswer (trace : Trace (Row α)) : Point α := trace.answer

end RootFinding.Systems.FixedPoint
