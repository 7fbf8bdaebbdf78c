import RootFinding.Derivative
import RootFinding.Text.Quoted

/-!
# Functions of several variables

A `VectorFunction` takes a point with a fixed number of coordinates, its arity. Its value and its
partial derivatives refuse a point of another length; the norm leaves this to the partial
derivatives that it adds up.
-/

namespace RootFinding

open Number

/-- A point: its coordinates in order. -/
abbrev Point (α : Type) := List α

/-- Why the arguments of a function of several variables are refused. -/
inductive ArgumentError where
  /-- The point has the wrong number of coordinates. -/
  | arityMismatch (expected actual : Nat)
  /-- There is no coordinate of this index. -/
  | indexOutOfRange (index arity : Nat)
deriving DecidableEq, Repr

/-- The text of a refusal. -/
def ArgumentError.message : ArgumentError → String
  | .arityMismatch expected actual =>
    "expected " ++ toString expected ++ " arguments, got " ++ toString actual
  | .indexOutOfRange index arity =>
    "argument index " ++ toString index ++ " is out of range for arity " ++ toString arity

/-- A function of `arity` variables and the label it is shown by. -/
structure VectorFunction (α : Type) where
  label : String
  arity : Nat
  eval : Point α → α

section Fold

variable {β : Type} {m : Type → Type} [Monad m]

/-- Folds `f` over `count` numbers from `index` on. The numbers are not listed: there may be more of
them than a list can hold, of which a fold that fails looks at the first ones only. -/
@[specialize]
def foldFromM (f : β → Nat → m β) : (count index : Nat) → β → m β
  | 0, _, b => pure b
  | count + 1, index, b => do foldFromM f count (index + 1) (← f b index)

/-- It is the fold over the list of these numbers. -/
theorem foldFromM_eq (f : β → Nat → m β) (count index : Nat) (b : β) :
    foldFromM f count index b = (List.range' index count).foldlM f b := by
  induction count generalizing index b with
  | zero => rfl
  | succ count ih => simp only [foldFromM, List.range'_succ, List.foldlM_cons, ih]

end Fold

namespace VectorFunction

variable {α : Type} [Number α]

/-- Refuses a point that does not have `arity` coordinates. -/
def checkArity (f : VectorFunction α) (x : Point α) : Except ArgumentError Unit :=
  if x.length = f.arity then .ok () else .error (.arityMismatch f.arity x.length)

/-- The value at a point. -/
def apply (f : VectorFunction α) (x : Point α) : Except ArgumentError α := do
  f.checkArity x
  return f.eval x

/-- The estimate of the partial derivative in one coordinate. Both moved points are made in one copy
of the point, whose other coordinates stay as they are. -/
def partialDerivative (f : VectorFunction α) (x : Point α) (index : Nat)
    (precision : α := Derivative.defaultPrecision) : Except ArgumentError α := do
  f.checkArity x
  match x[index]? with
  | none => throw (.indexOutOfRange index f.arity)
  | some xi =>
    let step := precision / two
    let mut shifted := x
    shifted := shifted.set index (xi - step)
    let left := f.eval shifted
    shifted := shifted.set index (xi + step)
    let right := f.eval shifted
    let center := f.eval x
    return Derivative.blend left center right step

/-- The sum of the magnitudes of all partial derivatives, added up in the order of the
coordinates. -/
def partialDerivativeNorm (f : VectorFunction α) (x : Point α) : Except ArgumentError α :=
  foldFromM (fun sum index => do return sum + abs (← f.partialDerivative x index)) f.arity 0 zero

/-- The function as text: its label and its arity. -/
def describe (f : VectorFunction α) : String :=
  "VectorFunction \x7b label: " ++ Text.quoted f.label ++ ", arity: " ++ toString f.arity ++
    ", .. \x7d"

end VectorFunction

end RootFinding
