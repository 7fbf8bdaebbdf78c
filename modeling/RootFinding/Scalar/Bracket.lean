import RootFinding.Scalar.Guard

/-!
# Brackets

A bracket is a pair of points and the values of a function there. The bracketing methods cut it at a
point between them, and keep the part at whose ends the function changes sign. The test for this is
the sign of the product of two values, as computed.
-/

namespace RootFinding.Scalar

open Number

/-- Two points, and the values of a function at them. -/
structure Bracket (α : Type) where
  left : α
  right : α
  fLeft : α
  fRight : α
deriving DecidableEq, Repr

namespace Bracket

variable {α : Type} [Number α]

/-- The distance from the left point to the right one. -/
def width (b : Bracket α) : α := b.right - b.left

/-- The part of the bracket on the side of `x` where the sign changes: the left one, unless the
product of the values at the left point and at `x` is positive or not a number. -/
def cut (b : Bracket α) (x fX : α) : Bracket α :=
  if b.fLeft * fX ≤ zero then { b with right := x, fRight := fX }
  else { b with left := x, fLeft := fX }

/-- The bracket to start with: the interval between two points, where the values must not have one
common sign. -/
def of (f : ScalarFunction α) (left right precision : α) : Except (Error α) (Bracket α) := do
  let interval ← Guard.inputs left right precision
  let fLeft ← Guard.value f interval.left
  let fRight ← Guard.value f interval.right
  Guard.signChange interval fLeft fRight
  return ⟨interval.left, interval.right, fLeft, fRight⟩

end Bracket

end RootFinding.Scalar
