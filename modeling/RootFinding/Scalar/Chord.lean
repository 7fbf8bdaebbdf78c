import RootFinding.Iteration
import RootFinding.Scalar.Bracket

/-!
# The chord method

The bracket is cut where the straight line through the values at its ends crosses zero, and the part
at whose ends the function changes sign is kept. The method stops when the bracket or the distance
between successive crossings is smaller than the precision, or the value at the crossing is. The
first crossing is compared with the left end of the bracket.
-/

namespace RootFinding.Scalar.Chord

open Number

variable {α τ : Type}

/-- One iteration: the bracket, the crossing, the values at these three points, and the distance
from the crossing before. -/
structure Row (α : Type) where
  left : α
  right : α
  x : α
  fLeft : α
  fRight : α
  fX : α
  change : α
deriving DecidableEq, Repr

/-- The names of the cells. -/
def columns : List String := ["a", "b", "x", "f(a)", "f(b)", "f(x)", "|x_(n+1) - x_n|"]

instance : TraceRow (Row α) α α where
  columns _ := columns
  cells r := [r.left, r.right, r.x, r.fLeft, r.fRight, r.fX, r.change].map some
  answer r := r.x
  step r := some r.change
  estimate r := some r.x

/-- A bracket, and the crossing before. -/
structure State (α : Type) extends Bracket α where
  lastX : α
deriving DecidableEq, Repr

variable [Number α]

/-- Whether a row satisfies the stopping rule. -/
def Row.isFinal (precision : α) (r : Row α) : Bool :=
  decide (r.right - r.left < precision) || decide (r.change < precision) ||
    decide (abs r.fX < precision)

/-- One iteration. -/
def scheme (f : ScalarFunction α) (precision : α) (limits : Limits α) :
    Scheme (State α) (Row α) (Error α) Unit := fun s => do
  let slope ← Guard.divisor limits s.left (s.fRight - s.fLeft)
  let x := (s.left * s.fRight - s.right * s.fLeft) / slope
  let fX ← Guard.value f x
  let row : Row α := ⟨s.left, s.right, x, s.fLeft, s.fRight, fX, abs (s.lastX - x)⟩
  return (row, if row.isFinal precision then .halt () else .next ⟨s.cut x fX, x⟩)

/-- The bracket to start with; its left end stands for the crossing before. -/
def start (f : ScalarFunction α) (left right precision : α) : Except (Error α) (State α) := do
  let bracket ← Bracket.of f left right precision
  return ⟨bracket, bracket.left⟩

/-- Looks for a root of `f` between `left` and `right`. -/
def solve (f : ScalarFunction α) (left right precision : α) (limits : Limits α)
    (observer : Observer τ (Row α)) : Run τ (Row α) (Error α) :=
  (scheme f precision limits).call observer limits.maxIters 1 (.maxIters limits.maxIters)
    (start f left right precision)

end RootFinding.Scalar.Chord
