import RootFinding.Iteration
import RootFinding.Scalar.Guard

/-!
# Newton's method

The next point is where the tangent crosses zero; its slope is the estimated derivative. The method
starts at the end of the bracket chosen by `Guard.startingSide`, and may leave the bracket. It stops
when the step or the value at the point is smaller than the precision.
-/

namespace RootFinding.Scalar.Newton

open Number

variable {α τ : Type}

/-- One iteration: a point, the value and the derivative there, the next point and its distance. -/
structure Row (α : Type) where
  x : α
  fX : α
  derivative : α
  next : α
  change : α
deriving DecidableEq, Repr

/-- The names of the cells. -/
def columns : List String := ["x_k", "f(x_k)", "f'(x_k)", "x_(k+1)", "|x_(k+1) - x_k|"]

instance : TraceRow (Row α) α α where
  columns _ := columns
  cells r := [r.x, r.fX, r.derivative, r.next, r.change].map some
  answer r := r.next
  step r := some r.change
  estimate r := some r.next

variable [Number α]

/-- Whether a row satisfies the stopping rule. -/
def Row.isFinal (precision : α) (r : Row α) : Bool :=
  decide (r.change < precision) || decide (abs (r.fX / r.derivative) < precision) ||
    decide (abs r.fX < precision)

/-- One iteration; the state is the point. -/
def scheme (f : ScalarFunction α) (precision : α) (limits : Limits α) :
    Scheme α (Row α) (Error α) Unit := fun x => do
  let fX ← Guard.value f x
  let derivative ← Guard.divisor limits x (← Guard.derivative f x)
  let next ← Guard.finite x (x - fX / derivative)
  let row : Row α := ⟨x, fX, derivative, next, abs (next - x)⟩
  return (row, if row.isFinal precision then .halt () else .next next)

/-- The end of the bracket to start at. -/
def start (f : ScalarFunction α) (left right precision : α) : Except (Error α) α := do
  let interval ← Guard.inputs left right precision
  return (← Guard.startingSide f interval).endpoint interval

/-- Looks for a root of `f` from one end of the bracket between `left` and `right`. -/
def solve (f : ScalarFunction α) (left right precision : α) (limits : Limits α)
    (observer : Observer τ (Row α)) : Run τ (Row α) (Error α) :=
  (scheme f precision limits).call observer limits.maxIters 1 (.maxIters limits.maxIters)
    (start f left right precision)

end RootFinding.Scalar.Newton
