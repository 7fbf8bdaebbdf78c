import Mathlib.Tactic.Ring
import RootFinding.Proofs.Methods.Stopping
import RootFinding.Proofs.Rational.Differences
import RootFinding.Proofs.Rational.Guards
import RootFinding.Proofs.Run.Mirroring

/-!
# The opposite function has the same roots

Four of the scalar methods cannot tell a function from its opposite. Over the rational numbers they
go through the same points, and what they show of the function is the opposite: the values and the
derivative. They halt at the same row, and they fail for the same reason
(`opposite_moves_alike`).

A sign enters in three ways. A product of two values decides where a method starts and which part of
a bracket is kept, and has the same sign for both functions. A magnitude decides whether a divisor
is large enough and whether a value is small enough. And the next point is computed from a quotient
of two values.
-/

namespace RootFinding

open Number Rational

variable {α : Type} [Number α]

/-- The function with the opposite values. -/
def ScalarFunction.opposite (f : ScalarFunction α) : ScalarFunction α where
  label := "-(" ++ f.label ++ ")"
  eval x := -f.eval x

namespace Scalar

/-- The same failure for the opposite function. -/
def Error.opposite : Error α → Error α
  | .noSignChange left right leftValue rightValue =>
    .noSignChange left right (-leftValue) (-rightValue)
  | .nonFinite x value => .nonFinite x (-value)
  | .degenerateDenominator x value => .degenerateDenominator x (-value)
  | cause => cause

/-- The same bracket for the opposite function. -/
def Bracket.opposite (b : Bracket α) : Bracket α :=
  { b with fLeft := -b.fLeft, fRight := -b.fRight }

/-- The same state for the opposite function. -/
def Chord.State.opposite (s : State α) : State α := ⟨s.toBracket.opposite, s.lastX⟩

/-- The same points, for the opposite function. -/
def Secant.Pair.opposite (s : Pair α) : Pair α := { s with fPrev := -s.fPrev }

/-- The row at the same points, with the opposite values. -/
def Bisection.Row.opposite (r : Row α) : Row α :=
  { r with fLeft := -r.fLeft, fRight := -r.fRight, fX := -r.fX }

/-- The row at the same points, with the opposite values. -/
def Chord.Row.opposite (r : Row α) : Row α :=
  { r with fLeft := -r.fLeft, fRight := -r.fRight, fX := -r.fX }

/-- The row at the same points, with the opposite value and the opposite derivative. -/
def Newton.Row.opposite (r : Row α) : Row α :=
  { r with fX := -r.fX, derivative := -r.derivative }

/-- The row at the same points, with the opposite value. -/
def Secant.Row.opposite (r : Row α) : Row α := { r with fNext := -r.fNext }

/-! ## Derivatives -/

section Derivatives

variable (f : ScalarFunction ℚ) (x : ℚ)

@[simp] theorem eval_opposite : f.opposite.eval x = -f.eval x := rfl

@[simp] theorem derivative_opposite : f.opposite.derivative x = -f.derivative x := by
  have nonzero := Derivative.defaultPrecision_ne_zero
  simp only [ScalarFunction.derivative, Derivative.blended_eq_central _ _ nonzero, eval_opposite]
  ring

@[simp] theorem secondDerivative_opposite :
    f.opposite.secondDerivative x = -f.secondDerivative x := by
  have nonzero := Derivative.defaultPrecision_ne_zero
  simp only [ScalarFunction.secondDerivative_eq_central _ _ nonzero, eval_opposite]
  ring

end Derivatives

/-! ## Guards -/

section Guards

variable (f : ScalarFunction ℚ) (left right precision : ℚ) (limits : Limits ℚ) (x v : ℚ)

theorem inputs_mirrors :
    Mirrors Error.opposite id (Guard.inputs left right precision)
      (Guard.inputs left right precision) := by
  rw [Guard.inputs]
  cases Interval.ofBounds left right with
  | error cause => exact .error (Error.invalidInterval cause)
  | ok interval =>
    by_cases tolerance : isTolerance precision = true
    · simp only [tolerance, if_true]
      exact .ok interval
    · simp only [tolerance]
      exact .error (Error.invalidPrecision precision)

theorem finite_mirrors : Mirrors Error.opposite id (Guard.finite x v) (Guard.finite x v) := .ok v

theorem value_mirrors :
    Mirrors Error.opposite Neg.neg (Guard.value f x) (Guard.value f.opposite x) := .ok (f.eval x)

theorem derivative_mirrors :
    Mirrors Error.opposite Neg.neg (Guard.derivative f x) (Guard.derivative f.opposite x) := by
  rw [Guard.derivative_eq, Guard.derivative_eq, derivative_opposite]
  exact .ok (f.derivative x)

theorem divisor_mirrors :
    Mirrors Error.opposite Neg.neg (Guard.divisor limits x v) (Guard.divisor limits x (-v)) := by
  rw [Guard.divisor, Guard.divisor, abs_eq, abs_eq, abs_neg]
  by_cases small : |v| < limits.minDenominator
  · rw [if_pos small, if_pos small]
    exact .error (Error.degenerateDenominator x v)
  · rw [if_neg small, if_neg small]
    exact .ok v

theorem signChange_mirrors (interval : Interval ℚ) (w : ℚ) :
    Mirrors Error.opposite id (Guard.signChange interval v w)
      (Guard.signChange interval (-v) (-w)) := by
  rw [Guard.signChange, Guard.signChange, neg_mul_neg]
  by_cases same : zero < v * w
  · rw [if_pos same, if_pos same]
    exact .error (Error.noSignChange interval.left interval.right v w)
  · rw [if_neg same, if_neg same]
    exact .ok ()

/-- The value and the second derivative both change their sign, so their product stays. -/
theorem startingSide_mirrors (interval : Interval ℚ) :
    Mirrors Error.opposite id (Guard.startingSide f interval)
      (Guard.startingSide f.opposite interval) := by
  have side : Guard.startingSide f interval = .ok
      (if zero < f.eval interval.left * f.secondDerivative interval.left then .left else .right) :=
    Guard.startingSide_eq_ok.2 ⟨rfl, rfl, rfl⟩
  have same : Guard.startingSide f.opposite interval = Guard.startingSide f interval := by
    rw [side, Guard.startingSide_eq_ok]
    refine ⟨rfl, rfl, ?_⟩
    rw [eval_opposite, secondDerivative_opposite, neg_mul_neg]
  rw [same, side]
  exact .ok _

end Guards

/-! ## Iterations -/

section Steps

variable {f : ScalarFunction ℚ} {left right precision offset : ℚ} {limits : Limits ℚ}

theorem bracket_mirrors :
    Mirrors Error.opposite Bracket.opposite (Bracket.of f left right precision)
      (Bracket.of f.opposite left right precision) := by
  refine (inputs_mirrors left right precision).bind fun interval => ?_
  refine (value_mirrors f interval.left).bind fun leftValue => ?_
  refine (value_mirrors f interval.right).bind fun rightValue => ?_
  refine (signChange_mirrors leftValue interval rightValue).bind fun _ => ?_
  exact .ok (Bracket.mk interval.left interval.right leftValue rightValue)

/-- The part that is kept is the same for both functions. -/
theorem cut_opposite (b : Bracket ℚ) (x v : ℚ) : b.opposite.cut x (-v) = (b.cut x v).opposite := by
  have product : b.opposite.fLeft * -v = b.fLeft * v := neg_mul_neg _ _
  rw [Bracket.cut, Bracket.cut, product]
  split <;> rfl

theorem Bisection.isFinal_opposite (r : Row ℚ) :
    r.opposite.isFinal precision = r.isFinal precision := by
  rw [Bool.eq_iff_iff, isFinal_iff, isFinal_iff]
  simp [Row.opposite, abs_eq]

theorem Chord.isFinal_opposite (r : Row ℚ) :
    r.opposite.isFinal precision = r.isFinal precision := by
  rw [Bool.eq_iff_iff, isFinal_iff, isFinal_iff]
  simp [Row.opposite, abs_eq]

theorem Newton.isFinal_opposite (r : Row ℚ) :
    r.opposite.isFinal precision = r.isFinal precision := by
  rw [Bool.eq_iff_iff, isFinal_iff, isFinal_iff]
  simp [Row.opposite, abs_eq]

theorem Secant.isFinal_opposite (r : Row ℚ) :
    r.opposite.isFinal precision = r.isFinal precision := by
  rw [Bool.eq_iff_iff, isFinal_iff, isFinal_iff]
  simp [Row.opposite, abs_eq]

theorem Bisection.scheme_mirrors (s : Bracket ℚ) :
    Mirrors Error.opposite (Prod.map Row.opposite (Verdict.map Bracket.opposite))
      (scheme f precision s) (scheme f.opposite precision s.opposite) := by
  rw [scheme, scheme]
  refine (value_mirrors f _).bind fun fX => ?_
  let row : Row ℚ :=
    ⟨s.left, s.right, s.left + (s.right - s.left) / two, s.fLeft, s.fRight, fX, s.width⟩
  exact .step rfl (isFinal_opposite row) (cut_opposite s row.x fX)

theorem Chord.scheme_mirrors (s : State ℚ) :
    Mirrors Error.opposite (Prod.map Row.opposite (Verdict.map State.opposite))
      (scheme f precision limits s) (scheme f.opposite precision limits s.opposite) := by
  have rise : s.opposite.fRight - s.opposite.fLeft = -(s.fRight - s.fLeft) := by
    show -s.fRight - -s.fLeft = _
    ring
  have crossing (slope : ℚ) :
      (s.opposite.left * s.opposite.fRight - s.opposite.right * s.opposite.fLeft) / -slope =
        (s.left * s.fRight - s.right * s.fLeft) / slope := by
    show (s.left * -s.fRight - s.right * -s.fLeft) / -slope = _
    ring
  rw [scheme, scheme, rise]
  refine (divisor_mirrors limits s.left _).bind fun slope => ?_
  rw [crossing]
  generalize (s.left * s.fRight - s.right * s.fLeft) / slope = x
  refine (value_mirrors f x).bind fun fX => ?_
  let row : Row ℚ :=
    ⟨s.left, s.right, x, s.fLeft, s.fRight, fX, Number.abs (s.lastX - x)⟩
  exact .step rfl (isFinal_opposite row)
    (congrArg (State.mk · x) (cut_opposite s.toBracket x fX))

theorem Newton.scheme_mirrors (x : ℚ) :
    Mirrors Error.opposite (Prod.map Row.opposite (Verdict.map id))
      (scheme f precision limits x) (scheme f.opposite precision limits x) := by
  rw [scheme, scheme]
  refine (value_mirrors f x).bind fun fX => (derivative_mirrors f x).bind fun slope =>
    (divisor_mirrors limits x slope).bind fun derivative => ?_
  rw [neg_div_neg_eq]
  refine (finite_mirrors x _).bind fun next => ?_
  let row : Row ℚ := ⟨x, fX, derivative, next, Number.abs (next - x)⟩
  exact .step rfl (isFinal_opposite row) rfl

theorem Secant.scheme_mirrors (s : Pair ℚ) :
    Mirrors Error.opposite (Prod.map Row.opposite (Verdict.map Pair.opposite))
      (scheme f precision limits s) (scheme f.opposite precision limits s.opposite) := by
  rw [scheme, scheme]
  refine (value_mirrors f s.x).bind fun fX => ?_
  have rise : -fX - s.opposite.fPrev = -(fX - s.fPrev) := by
    show -fX - -s.fPrev = _
    ring
  rw [rise]
  refine (divisor_mirrors limits s.x _).bind fun slope => ?_
  have step : s.opposite.x - (s.opposite.x - s.opposite.prev) / -slope * -fX =
      s.x - (s.x - s.prev) / slope * fX := by
    show s.x - (s.x - s.prev) / -slope * -fX = _
    ring
  rw [step]
  refine (finite_mirrors s.x _).bind fun next => (value_mirrors f next).bind fun fNext => ?_
  let row : Row ℚ := ⟨s.prev, s.x, next, fNext, Number.abs (next - s.x)⟩
  exact .step rfl (isFinal_opposite row) rfl

/-! ## Where the methods start -/

theorem Chord.start_mirrors :
    Mirrors Error.opposite State.opposite (start f left right precision)
      (start f.opposite left right precision) :=
  bracket_mirrors.bind fun bracket => .ok (State.mk bracket bracket.left)

theorem Newton.start_mirrors :
    Mirrors Error.opposite id (start f left right precision)
      (start f.opposite left right precision) :=
  (inputs_mirrors left right precision).bind fun interval =>
    (startingSide_mirrors f interval).bind fun side => .ok (side.endpoint interval)

theorem Secant.start_mirrors :
    Mirrors Error.opposite Pair.opposite (start f left right precision offset)
      (start f.opposite left right precision offset) := by
  refine (inputs_mirrors left right precision).bind fun interval => ?_
  dsimp only
  split
  · exact .error (Error.invalidParameter .firstOffset)
  · refine (startingSide_mirrors f interval).bind fun side => ?_
    refine (value_mirrors f (side.endpoint interval)).bind fun fPrev => ?_
    exact .ok (Pair.mk (side.endpoint interval) (inward interval offset side) fPrev)

end Steps

/-! ## Calls -/

/-- What the unobserved call for the opposite function has to do with the one for the function
itself. `opposite` tells what becomes of a row. -/
structure MovesAlike {ρ : Type} (opposite : ρ → ρ)
    (result result' : Except (Error ℚ) (Solution ρ)) : Prop where
  /-- If one of the calls succeeds, both do, with the same status, as many iterations and as many
  rows, and each row of one is the opposite of a row of the other. -/
  success : ∀ {solution}, result = .ok solution → ∃ solution', result' = .ok solution' ∧
    solution'.status = solution.status ∧ solution'.iters = solution.iters ∧
    solution'.trace.size = solution.trace.size ∧
    solution'.trace.rows = solution.trace.rows.map opposite
  /-- If one of the calls fails, both do, for the same reason. -/
  failure : ∀ {cause}, result = .error cause → result' = .error cause.opposite

theorem movesAlike_of_mirrors {ρ : Type} {opposite : ρ → ρ}
    {result result' : Except (Error ℚ) (Solution ρ)}
    (h : Mirrors Error.opposite (Solution.mirrored opposite) result result') :
    MovesAlike opposite result result' := by
  refine ⟨fun {solution} success => ⟨_, h.eq_ok success, rfl, rfl, ?_, ?_⟩, h.eq_error⟩
  · simp [Solution.mirrored, Trace.size]
  · exact Solution.rows_mirrored opposite solution

/-- For every function, every bracket, every precision and all limits, four methods move alike for
the function and its opposite. -/
theorem opposite_moves_alike (f : ScalarFunction ℚ) (left right precision offset : ℚ)
    (limits : Limits ℚ) :
    MovesAlike Bisection.Row.opposite (Bisection.solve f left right precision limits .silent).result
        (Bisection.solve f.opposite left right precision limits .silent).result ∧
      MovesAlike Chord.Row.opposite (Chord.solve f left right precision limits .silent).result
        (Chord.solve f.opposite left right precision limits .silent).result ∧
      MovesAlike Newton.Row.opposite (Newton.solve f left right precision limits .silent).result
        (Newton.solve f.opposite left right precision limits .silent).result ∧
      MovesAlike Secant.Row.opposite
        (Secant.solve f left right precision offset limits .silent).result
        (Secant.solve f.opposite left right precision offset limits .silent).result := by
  have passive {ρ : Type} : (Observer.silent : Observer Unit ρ).IsPassive :=
    Observer.isPassive_silent
  refine ⟨?_, ?_, ?_, ?_⟩
  · exact movesAlike_of_mirrors
      (Scheme.call_mirrors Bisection.scheme_mirrors bracket_mirrors passive passive _ _ _)
  · exact movesAlike_of_mirrors
      (Scheme.call_mirrors Chord.scheme_mirrors Chord.start_mirrors passive passive _ _ _)
  · exact movesAlike_of_mirrors
      (Scheme.call_mirrors Newton.scheme_mirrors Newton.start_mirrors passive passive _ _ _)
  · exact movesAlike_of_mirrors
      (Scheme.call_mirrors Secant.scheme_mirrors Secant.start_mirrors passive passive _ _ _)

end Scalar

end RootFinding
