import RootFinding.Scalar.Bisection
import RootFinding.Scalar.Chord
import RootFinding.Scalar.Newton
import RootFinding.Scalar.Secant
import RootFinding.Scalar.SimpleIteration

/-!
# The scalar methods under one roof

A `Finder` is a scalar method with its limits and its own parameters fixed, so that all of them can
be called alike and shown by name.
-/

namespace RootFinding.Scalar

variable {α ρ ω : Type} [Number α]

/-- A scalar method whose rows are of type `ρ`, as a function of the function, the two ends of the
bracket and the precision. -/
structure Finder (α ρ : Type) where
  name : String
  solve : ScalarFunction α → (left right precision : α) → Run Unit ρ (Error α)

namespace Finder

/-- The trace of an unobserved call. -/
def evaluateRoot (finder : Finder α ρ) (f : ScalarFunction α) (left right precision : α) :
    Except (Error α) (Trace ρ) :=
  (finder.solve f left right precision).result.map Solution.trace

/-- The answer that a trace holds. -/
def extractAnswer [TraceRow ρ α ω] (_ : Finder α ρ) (trace : Trace ρ) : ω := trace.answer

/-- Bisection. -/
def bisection (limits : Limits α) : Finder α (Bisection.Row α) where
  name := "half division method"
  solve f left right precision := Bisection.solve f left right precision limits .silent

/-- The chord method. -/
def chord (limits : Limits α) : Finder α (Chord.Row α) where
  name := "chord method"
  solve f left right precision := Chord.solve f left right precision limits .silent

/-- Newton's method. -/
def newton (limits : Limits α) : Finder α (Newton.Row α) where
  name := "newton method"
  solve f left right precision := Newton.solve f left right precision limits .silent

/-- The secant method with a given offset. -/
def secant (limits : Limits α) (offset : α := Secant.defaultOffset) :
    Finder α (Secant.Row α) where
  name := "secant method"
  solve f left right precision := Secant.solve f left right precision offset limits .silent

/-- Simple iteration with a given number of samples. -/
def simpleIteration [NumberText α] (limits : Limits α)
    (samples : Nat := SimpleIteration.defaultSamples) :
    Finder α (SimpleIteration.Row α) where
  name := "simple iteration method"
  solve f left right precision :=
    SimpleIteration.solve f left right precision samples limits .silent

end Finder

end RootFinding.Scalar
