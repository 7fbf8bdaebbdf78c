import RootFinding.Iteration
import RootFinding.Scalar.Guard

/-!
# Simple iteration

The equation `f(x) = 0` is solved as the fixed-point equation `x = x + c · f(x)`, from the left end
of the bracket on. The coefficient `c` has the magnitude of the reciprocal of the steepest slope
that is found in the bracket.

Which sign of `c` leads to the root is not known beforehand. The iteration is first run with the
negative sign. If it leaves the bracket, that pass is given up and the iteration is run again from
the start with the positive sign; if this leaves the bracket too, the method fails.
-/

namespace RootFinding.Scalar.SimpleIteration

open Number

variable {α τ : Type}

/-- One iteration: a point, the next one with its value, and the length of the step. -/
structure Row (α : Type) where
  x : α
  next : α
  fNext : α
  change : α
deriving DecidableEq, Repr

/-- The names of the cells. -/
def columns : List String := ["x_k", "x_(k+1)", "f(x_(k+1))", "|x_(k+1) - x_k|"]

instance : TraceRow (Row α) α α where
  columns _ := columns
  cells r := [r.x, r.next, r.fNext, r.change].map some
  answer r := r.next
  step r := some r.change
  estimate r := some r.next

/-- How the iteration halts with one coefficient. -/
inductive Outcome (α : Type) where
  /-- The last step stayed in the bracket and was shorter than the precision. -/
  | converged
  /-- The last step led out of the bracket, to `x`. -/
  | escaped (x : α)
deriving DecidableEq, Repr

variable [Number α]

/-- The number of steps in which the steepest slope is looked for when none is given. -/
def defaultSamples : Nat := 10000

/-- One iteration; the state is the point. -/
def scheme (f : ScalarFunction α) (interval : Interval α) (precision coefficient : α) :
    Scheme α (Row α) (Error α) (Outcome α) := fun x => do
  let fX ← Guard.value f x
  let next ← Guard.finite x (x + coefficient * fX)
  let fNext ← Guard.value f next
  let row : Row α := ⟨x, next, fNext, abs (next - x)⟩
  return (row,
    if !interval.contains next then .halt (.escaped next)
    else if row.change < precision then .halt .converged
    else .next next)

/-- The largest of `steepest` and the slopes at `count` samples from index `i` on. -/
def steepestFrom (f : ScalarFunction α) (interval : Interval α) (step : α) :
    (count i : Nat) → (steepest : α) → Except (Error α) α
  | 0, _, steepest => .ok steepest
  | count + 1, i, steepest =>
    match Guard.derivative f (interval.sample step i) with
    | .error cause => .error cause
    | .ok slope => steepestFrom f interval step count (i + 1) (maxWith steepest (abs slope))

/-- The steepest slope at the ends of `samples` equal steps through the interval. -/
def steepestSlope (f : ScalarFunction α) (interval : Interval α) (samples : Nat) :
    Except (Error α) α :=
  steepestFrom f interval (interval.width / ofNat samples) (samples + 1) 0 zero

/-- The bracket, and the coefficient to begin with. -/
def start (f : ScalarFunction α) (left right precision : α) (samples : Nat) (limits : Limits α) :
    Except (Error α) (Interval α × α) := do
  let interval ← Guard.inputs left right precision
  if samples = 0 then
    throw (.invalidParameter .samples)
  let slope ← steepestSlope f interval samples
  let divisor ← Guard.divisor limits interval.left slope
  return (interval, -one / divisor)

/-- One pass of the iteration, from the left end of the bracket on. -/
def pass (f : ScalarFunction α) (interval : Interval α) (precision : α) (limits : Limits α)
    (coefficient : α) (observer : Observer τ (Row α)) :
    Pass τ (Row α) (Error α) (Outcome α) :=
  (scheme f interval precision coefficient).run observer limits.maxIters 1 interval.left

/-- The entry that tells of the change of sign. -/
def retryEntry [NumberText α] (interval : Interval α) (x coefficient : α) : Log.Entry where
  level := .debug
  text :=
    "simple iteration left [" ++ NumberText.plain interval.left ++ ", " ++
      NumberText.plain interval.right ++ "] at x = " ++ NumberText.plain x ++ " with lambda = " ++
      NumberText.plain coefficient ++ ", retrying with the sign flipped"

/-- The result of a pass after which there is no further one. -/
def lastResult (interval : Interval α) (limits : Limits α) :
    Ending (Row α) (Error α) (Outcome α) → Except (Error α) (Solution (Row α))
  | .halted trace iters .converged => .ok ⟨.converged, iters, trace⟩
  | .halted _ _ (.escaped x) => .error (.diverged interval.left interval.right x)
  | .stopped trace iters => .ok ⟨.stoppedByObserver, iters, trace⟩
  | .exhausted => .error (.maxIters limits.maxIters)
  | .failed cause => .error cause

/-- Looks for a root of `f` between `left` and `right`. -/
def solve [NumberText α] (f : ScalarFunction α) (left right precision : α) (samples : Nat)
    (limits : Limits α) (observer : Observer τ (Row α)) : Run τ (Row α) (Error α) :=
  match start f left right precision samples limits with
  | .error cause => .refused observer cause
  | .ok (interval, coefficient) =>
    let first := pass f interval precision limits coefficient observer
    match first.ending with
    | .halted _ _ (.escaped x) =>
      let second := pass f interval precision limits (-coefficient) first.observer
      { events := first.events ++ second.events
        log := first.log.toList ++ retryEntry interval x coefficient :: second.log.toList
        observer := second.observer
        result := lastResult interval limits second.ending }
    | ending =>
      { events := first.events
        log := first.log.toList
        observer := first.observer
        result := lastResult interval limits ending }

end RootFinding.Scalar.SimpleIteration
