import RootFinding.EquationSystem
import RootFinding.ScalarFunction

/-!
# Functions given as expressions

An `Expression` is a formula in the coordinates of a point. It is evaluated over doubles, each
operation as it stands: nothing is reordered or fused.

The methods take functions of any kind and know nothing of formulas. These are for the outermost
layer only, the programs that read a function from text; no other module of the library refers to
them.
-/

namespace RootFinding

open Number

/-- A formula in the coordinates of a point. -/
inductive Expression where
  | constant (value : Float)
  /-- A coordinate of the point. One that the point does not have is not a number. -/
  | coordinate (index : Nat)
  | add (a b : Expression)
  | sub (a b : Expression)
  | mul (a b : Expression)
  | div (a b : Expression)
  | neg (a : Expression)
  | abs (a : Expression)
  | sqrt (a : Expression)
  | floor (a : Expression)
  | sin (a : Expression)
  | cos (a : Expression)
  | exp (a : Expression)
  | ln (a : Expression)
  | atan (a : Expression)
  | power (a : Expression) (exponent : Int)
  /-- The third formula where the first is less than the second, and the fourth elsewhere. -/
  | ifLess (a b less notLess : Expression)
deriving Inhabited

namespace Expression

/-- The double that is not a number. -/
def notANumber : Float := 0.0 / 0.0

/-- The value at a point. -/
def eval (point : Point Float) : Expression → Float
  | constant value => value
  | coordinate index => point.getD index notANumber
  | add a b => a.eval point + b.eval point
  | sub a b => a.eval point - b.eval point
  | mul a b => a.eval point * b.eval point
  | div a b => a.eval point / b.eval point
  | neg a => -(a.eval point)
  | abs a => (a.eval point).abs
  | sqrt a => (a.eval point).sqrt
  | floor a => (a.eval point).floor
  | sin a => (a.eval point).sin
  | cos a => (a.eval point).cos
  | exp a => (a.eval point).exp
  | ln a => (a.eval point).log
  | atan a => (a.eval point).atan
  | power a exponent => zpow (a.eval point) exponent
  | ifLess a b less notLess =>
    if a.eval point < b.eval point then less.eval point else notLess.eval point

/-- The function of the first coordinate. -/
def toScalar (label : String) (e : Expression) : ScalarFunction Float where
  label
  eval x := e.eval [x]

/-- The function of `arity` coordinates. -/
def toVector (label : String) (arity : Nat) (e : Expression) : VectorFunction Float where
  label
  arity
  eval x := e.eval x

end Expression

end RootFinding
