import RootFinding.EquationSystem
import RootFinding.ScalarFunction

/-!
# A catalog of examples

Functions of one variable with brackets that hold one root each, and systems with a search box and a
start point in it. Some of them use transcendental functions, so the catalog is over doubles.
-/

namespace RootFinding.Catalog

open Number

/-- A function of one variable and brackets around its roots. -/
structure ScalarExample where
  function : ScalarFunction Float
  brackets : List (Float × Float)

/-- A system with the sides of its search box and its start point. -/
structure SystemExample where
  system : EquationSystem Float
  intervals : List (Interval Float)
  start : Point Float

/-- The functions of one variable. -/
def scalarExamples : List ScalarExample := [
  { function := {
      label := "-0.38x^3 - 3.42x^2 + 2.51x + 8.75"
      eval x := -0.38 * pow x 3 - 3.42 * pow x 2 + 2.51 * x + 8.75 }
    brackets := [(-10.0, -9.0), (-2.0, -1.0), (1.0, 2.0)] },
  { function := { label := "x^2 - 2", eval x := x * x - 2.0 }
    brackets := [(0.0, 2.0)] },
  { function := { label := "sin(x) - x/2", eval x := x.sin - x / 2.0 }
    brackets := [(1.5, 2.5)] },
  { function := { label := "e^x - 3", eval x := x.exp - 3.0 }
    brackets := [(0.0, 2.0)] }]

/-- The double that is not a number. -/
def notANumber : Float := 0.0 / 0.0

/-- A function of a pair of coordinates. Any other point has no value. -/
def ofPair (label : String) (f : Float → Float → Float) : VectorFunction Float where
  label
  arity := 2
  eval
    | [x, y] => f x y
    | _ => notANumber

/-- The system of two functions of a pair of coordinates. -/
def pairSystem (label firstLabel secondLabel : String) (first second : Float → Float → Float) :
    EquationSystem Float where
  label
  functions := [ofPair firstLabel first, ofPair secondLabel second]
  nonempty := by simp
  square := by simp [ofPair]

/-- An example system, with the bounds of its box; bounds that are refused are left out. -/
def systemExample (system : EquationSystem Float) (box : List (Float × Float))
    (start : Point Float) : SystemExample where
  system
  intervals := box.filterMap fun (left, right) => (Interval.ofBounds left right).toOption
  start

/-- The systems. -/
def systemExamples : List SystemExample := [
  systemExample
    (pairSystem "quadratic"
      "x_0 = 0.3 - 0.1 x_0^2 - 0.2 x_1^2" "x_1 = 0.7 - 0.2 x_0^2 - 0.1 x_0 x_1"
      (fun x y => 0.3 - 0.1 * x * x - 0.2 * y * y)
      (fun x y => 0.7 - 0.2 * x * x - 0.1 * x * y))
    [(0.0, 1.0), (0.0, 1.0)] [0.3, 0.7],
  systemExample
    (pairSystem "trigonometric"
      "x_0 = cos(x_1)/3 + 1.3" "x_1 = sin(x_0 - 0.6) - 1.6"
      (fun _ y => y.cos / 3.0 + 1.3)
      (fun x _ => (x - 0.6).sin - 1.6))
    [(1.0, 2.0), (-1.5, -0.5)] [1.5, -1.0]]

end RootFinding.Catalog
