import RootFinding.Iteration
import RootFinding.Scalar.Bracket

/-!
# Bisection

The bracket is halved in each iteration, and the half at whose ends the function changes sign is
kept. The method stops when the bracket is narrower than the precision, or when the value at the
middle is smaller.
-/

namespace RootFinding.Scalar.Bisection

open Number

variable {α τ : Type}

/-- One iteration: the bracket, its middle, and the values at these three points. -/
structure Row (α : Type) where
  left : α
  right : α
  x : α
  fLeft : α
  fRight : α
  fX : α
  width : α
deriving DecidableEq, Repr

/-- The names of the cells. -/
def columns : List String := ["a", "b", "x", "f(a)", "f(b)", "f(x)", "|a - b|"]

instance : TraceRow (Row α) α α where
  columns _ := columns
  cells r := [r.left, r.right, r.x, r.fLeft, r.fRight, r.fX, r.width].map some
  answer r := r.x
  step r := some r.width
  estimate r := some r.x

variable [Number α]

/-- Whether a row satisfies the stopping rule. -/
def Row.isFinal (precision : α) (r : Row α) : Bool :=
  decide (r.width < precision) || decide (abs r.fX < precision)

/-- One iteration. -/
def scheme (f : ScalarFunction α) (precision : α) :
    Scheme (Bracket α) (Row α) (Error α) Unit := fun s => do
  let x := s.left + (s.right - s.left) / two
  let fX ← Guard.value f x
  let row : Row α := ⟨s.left, s.right, x, s.fLeft, s.fRight, fX, s.width⟩
  return (row, if row.isFinal precision then .halt () else .next (s.cut x fX))

/-- Looks for a root of `f` between `left` and `right`. -/
def solve (f : ScalarFunction α) (left right precision : α) (limits : Limits α)
    (observer : Observer τ (Row α)) : Run τ (Row α) (Error α) :=
  (scheme f precision).call observer limits.maxIters 1 (.maxIters limits.maxIters)
    (Bracket.of f left right precision)

end RootFinding.Scalar.Bisection
