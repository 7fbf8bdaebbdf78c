import RootFinding.VectorFunction

/-!
# Square systems

An `EquationSystem` holds the right-hand sides of the equations `xᵢ = fᵢ(x₀, …, xₙ₋₁)`: at least one
function, and as many as each of them has arguments. `EquationSystem.ofFunctions` checks this once,
so that a point with the right number of coordinates is never refused later.
-/

namespace RootFinding

open Number

/-- Why a list of functions is not a square system. -/
inductive SystemError where
  /-- There is no function. -/
  | empty
  /-- A function has another number of arguments than the first one. -/
  | mixedArity (index expected actual : Nat)
  /-- There are more or fewer functions than arguments. -/
  | notSquare (functions arity : Nat)
deriving DecidableEq, Repr

/-- The text of a refusal. -/
def SystemError.message : SystemError → String
  | .empty => "a system needs at least one function"
  | .mixedArity index expected actual =>
    "function " ++ toString index ++ " takes " ++ toString actual ++ " arguments, expected " ++
      toString expected
  | .notSquare functions arity =>
    "system has " ++ toString functions ++ " functions of " ++ toString arity ++
      " arguments; it must be square"

/-- The equations `xᵢ = fᵢ(x)`, with as many functions as unknowns. -/
structure EquationSystem (α : Type) where
  label : String
  functions : List (VectorFunction α)
  nonempty : functions ≠ []
  square : ∀ f ∈ functions, f.arity = functions.length

namespace EquationSystem

variable {α : Type}

/-- The first function that does not have `arity` arguments, with its index. -/
def firstMixed? (arity : Nat) (functions : List (VectorFunction α)) :
    Option (VectorFunction α × Nat) :=
  functions.zipIdx.find? fun entry => entry.1.arity != arity

theorem arity_eq_of_firstMixed?_eq_none {arity : Nat} {functions : List (VectorFunction α)}
    (h : firstMixed? arity functions = none) : ∀ f ∈ functions, f.arity = arity := by
  intro f hf
  obtain ⟨i, hi⟩ := List.mem_iff_getElem?.1 hf
  have := List.find?_eq_none.1 h (f, i) (List.mem_zipIdx_iff_getElem?.2 hi)
  simpa using this

/-- The system of a list of functions. -/
def ofFunctions (label : String) (functions : List (VectorFunction α)) :
    Except SystemError (EquationSystem α) :=
  match head : functions.head? with
  | none => .error .empty
  | some first =>
    match mixed : firstMixed? first.arity functions with
    | some (f, index) => .error (.mixedArity index first.arity f.arity)
    | none =>
      if square : functions.length = first.arity then
        .ok {
          label
          functions
          nonempty := by rintro rfl; simp at head
          square := fun f hf => by
            rw [square]; exact arity_eq_of_firstMixed?_eq_none mixed f hf }
      else .error (.notSquare functions.length first.arity)

/-- The number of equations, and of unknowns. -/
def dimension (s : EquationSystem α) : Nat := s.functions.length

variable [Number α]

/-- The values of all functions at a point: the next iterate. -/
def apply (s : EquationSystem α) (x : Point α) : Except ArgumentError (Point α) :=
  s.functions.mapM fun f => f.apply x

/-- The differences `xᵢ - fᵢ(x)`, all zero at a solution. -/
def residuals (s : EquationSystem α) (x : Point α) : Except ArgumentError (Point α) := do
  return List.zipWith (fun xi fi => xi - fi) x (← s.apply x)

/-- The piece of a tall brace that stands before line `i` of `count` lines. -/
def brace (count i : Nat) : String :=
  if count = 1 then "\x7b"
  else if i = 0 then "/"
  else if i + 1 = count then "\\"
  else "|"

/-- The equations under each other, held together by a brace. -/
def drawing (s : EquationSystem α) : String :=
  "\n".intercalate (s.functions.zipIdx.map fun (f, i) => brace s.dimension i ++ " " ++ f.label)

/-- The system as text: its label and its functions. -/
def describe (s : EquationSystem α) : String :=
  "EquationSystem \x7b label: " ++ Text.quoted s.label ++ ", functions: [" ++
    ", ".intercalate (s.functions.map VectorFunction.describe) ++ "] \x7d"

end EquationSystem

end RootFinding
