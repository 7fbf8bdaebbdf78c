import RootFinding.Iteration
import RootFinding.Scalar.Guard

/-!
# The secant method

The next point is where the straight line through the values at the last two points crosses zero.
The first point is the end of the bracket chosen by `Guard.startingSide`, the second lies an offset
further into the bracket. The method stops when the step or the value at the next point is smaller
than the precision.
-/

namespace RootFinding.Scalar.Secant

open Number

variable {α τ : Type}

/-- One iteration: the last two points, the next one with its value, and the length of the step. -/
structure Row (α : Type) where
  prev : α
  x : α
  next : α
  fNext : α
  change : α
deriving DecidableEq, Repr

/-- The names of the cells. -/
def columns : List String := ["x_(k-1)", "x_k", "x_(k+1)", "f(x_(k+1))", "|x_(k+1) - x_k|"]

instance : TraceRow (Row α) α α where
  columns _ := columns
  cells r := [r.prev, r.x, r.next, r.fNext, r.change].map some
  answer r := r.next
  step r := some r.change
  estimate r := some r.next

/-- The last two points, and the value at the earlier one. -/
structure Pair (α : Type) where
  prev : α
  x : α
  fPrev : α
deriving DecidableEq, Repr

variable [Number α]

/-- The offset of the second point when none is given. -/
def defaultOffset : α := decimal 1 1

/-- Whether a row satisfies the stopping rule. -/
def Row.isFinal (precision : α) (r : Row α) : Bool :=
  decide (r.change < precision) || decide (abs r.fNext < precision)

/-- One iteration. -/
def scheme (f : ScalarFunction α) (precision : α) (limits : Limits α) :
    Scheme (Pair α) (Row α) (Error α) Unit := fun s => do
  let fX ← Guard.value f s.x
  let slope ← Guard.divisor limits s.x (fX - s.fPrev)
  let next ← Guard.finite s.x (s.x - (s.x - s.prev) / slope * fX)
  let fNext ← Guard.value f next
  let row : Row α := ⟨s.prev, s.x, next, fNext, abs (next - s.x)⟩
  return (row, if row.isFinal precision then .halt () else .next ⟨s.x, next, fX⟩)

/-- The point that lies `offset` further inside an interval than the endpoint on a side. -/
def inward (interval : Interval α) (offset : α) : Guard.Side → α
  | .left => interval.left + offset
  | .right => interval.right - offset

/-- The first two points, and the value at the first one. -/
def start (f : ScalarFunction α) (left right precision offset : α) :
    Except (Error α) (Pair α) := do
  let interval ← Guard.inputs left right precision
  if !isTolerance offset then
    throw (.invalidParameter .firstOffset)
  let side ← Guard.startingSide f interval
  let prev := side.endpoint interval
  let fPrev ← Guard.value f prev
  return ⟨prev, inward interval offset side, fPrev⟩

/-- Looks for a root of `f` from one end of the bracket between `left` and `right`. -/
def solve (f : ScalarFunction α) (left right precision offset : α) (limits : Limits α)
    (observer : Observer τ (Row α)) : Run τ (Row α) (Error α) :=
  (scheme f precision limits).call observer limits.maxIters 1 (.maxIters limits.maxIters)
    (start f left right precision offset)

end RootFinding.Scalar.Secant
