import RootFinding.Proofs.Double.Order
import RootFinding.Proofs.Methods.Stopping
import RootFinding.Proofs.Run.Tightening

/-!
# Tightening the precision only extends the trace

The precision is read in two places: the check of the inputs, which asks only whether it is a
tolerance, and the stopping rule. So two calls that differ only in the precision start alike and
iterate alike, and the one with the larger precision is the first to halt.

Simple iteration is left out: with a larger precision its first pass may converge before it leaves
the bracket, and then there is no second pass, whose rows the other call returns.
-/

namespace RootFinding

open Number

variable {α : Type} [Number α]

/-! ## Scalar methods -/

namespace Scalar

variable {f : ScalarFunction α} {left right offset p q : α} {limits : Limits α}

section Start

variable (hp : isTolerance p = true) (hq : isTolerance q = true)

include hp hq

/-- The checks before the first iteration do not tell two tolerances apart. -/
theorem inputs_eq_of_tolerance : Guard.inputs left right p = Guard.inputs left right q := by
  rw [Guard.inputs, Guard.inputs, hp, hq]
  cases Interval.ofBounds left right with
  | error cause => rfl
  | ok interval => rfl

theorem bracket_eq_of_tolerance : Bracket.of f left right p = Bracket.of f left right q := by
  rw [Bracket.of, Bracket.of, inputs_eq_of_tolerance hp hq]

theorem Chord.start_eq_of_tolerance :
    Chord.start f left right p = Chord.start f left right q := by
  rw [Chord.start, Chord.start, bracket_eq_of_tolerance hp hq]

theorem Newton.start_eq_of_tolerance :
    Newton.start f left right p = Newton.start f left right q := by
  rw [Newton.start, Newton.start, inputs_eq_of_tolerance hp hq]

theorem Secant.start_eq_of_tolerance :
    Secant.start f left right p offset = Secant.start f left right q offset := by
  rw [Secant.start, Secant.start, inputs_eq_of_tolerance hp hq]

end Start

section Steps

variable (less : ∀ x : α, x < q → x < p)

include less

theorem Bisection.scheme_haltsFirst (s : Bracket α) :
    HaltsFirst (Bisection.scheme f p s) (Bisection.scheme f q s) := by
  refine .bind _ fun fX => .test ?_ _ _
  rw [isFinal_iff, isFinal_iff]
  exact Or.imp (less _) (less _)

theorem Chord.scheme_haltsFirst (s : Chord.State α) :
    HaltsFirst (Chord.scheme f p limits s) (Chord.scheme f q limits s) := by
  refine .bind _ fun slope => .bind _ fun fX => .test ?_ _ _
  rw [isFinal_iff, isFinal_iff]
  exact Or.imp (less _) (Or.imp (less _) (less _))

theorem Newton.scheme_haltsFirst (x : α) :
    HaltsFirst (Newton.scheme f p limits x) (Newton.scheme f q limits x) := by
  refine .bind _ fun fX => .bind _ fun slope => .bind _ fun derivative => .bind _ fun next =>
    .test ?_ _ _
  rw [isFinal_iff, isFinal_iff]
  exact Or.imp (less _) (Or.imp (less _) (less _))

theorem Secant.scheme_haltsFirst (s : Secant.Pair α) :
    HaltsFirst (Secant.scheme f p limits s) (Secant.scheme f q limits s) := by
  refine .bind _ fun fX => .bind _ fun slope => .bind _ fun next => .bind _ fun fNext =>
    .test ?_ _ _
  rw [isFinal_iff, isFinal_iff]
  exact Or.imp (less _) (less _)

end Steps

end Scalar

/-! ## Fixed-point iteration -/

namespace Systems.FixedPoint

variable {system : EquationSystem α} {intervals : List (Interval α)} {point : Point α} {p q : α}
  {limits : Limits α}

theorem start_eq_of_tolerance (hp : isTolerance p = true) (hq : isTolerance q = true) :
    start system intervals point p limits = start system intervals point q limits := by
  rw [start, start, checkInputs, checkInputs, hp, hq]
  rfl

theorem scheme_haltsFirst (atMost : ∀ x : α, x ≤ q → x ≤ p) (s : State α) :
    HaltsFirst (scheme system intervals p s) (scheme system intervals q s) := by
  cases s with
  | seed start => exact .inl rfl
  | iterate point =>
    rw [scheme, scheme]
    cases system.apply point with
    | error refusal => exact .inl rfl
    | ok next =>
      dsimp only
      split
      · exact .inl rfl
      · refine .test ?_ _ _
        rw [isSettled_iff, isSettled_iff]
        exact fun settled change hchange => atMost _ (settled change hchange)

end Systems.FixedPoint

/-- Unobserved calls that differ only in the precision, `q` being at most `p`: the trace with the
precision `q` extends the one with the precision `p`, the call with `q` fails if the one with `p`
does, and the call with `p` fails in the same way if the one with `q` does, unless it stops
before. -/
theorem tightening_extends_trace (f : ScalarFunction Float) (left right offset p q : Float)
    (hp : isTolerance p = true) (hq : isTolerance q = true) (le : q ≤ p)
    (limits : Scalar.Limits Float) (system : EquationSystem Float)
    (intervals : List (Interval Float)) (point : Point Float) (bounds : Systems.Limits Float) :
    Extends (Scalar.Bisection.solve f left right p limits .silent).result
        (Scalar.Bisection.solve f left right q limits .silent).result ∧
      Extends (Scalar.Chord.solve f left right p limits .silent).result
        (Scalar.Chord.solve f left right q limits .silent).result ∧
      Extends (Scalar.Newton.solve f left right p limits .silent).result
        (Scalar.Newton.solve f left right q limits .silent).result ∧
      Extends (Scalar.Secant.solve f left right p offset limits .silent).result
        (Scalar.Secant.solve f left right q offset limits .silent).result ∧
      Extends (Systems.FixedPoint.solve system intervals point p bounds .silent).result
        (Systems.FixedPoint.solve system intervals point q bounds .silent).result := by
  have finite_p : p.isFinite = true := (Bool.and_eq_true_iff.1 hp).1
  have finite_q : q.isFinite = true := (Bool.and_eq_true_iff.1 hq).1
  have less : ∀ x : Float, x < q → x < p := fun _ => Double.lt_of_bound_le finite_q finite_p le
  have atMost : ∀ x : Float, x ≤ q → x ≤ p := fun _ => Double.le_of_bound_le finite_q finite_p le
  refine ⟨?_, ?_, ?_, ?_, ?_⟩
  · exact Scheme.call_extends (Scalar.Bisection.scheme_haltsFirst less) Observer.isPassive_silent
      _ _ _ (Scalar.bracket_eq_of_tolerance hp hq)
  · exact Scheme.call_extends (Scalar.Chord.scheme_haltsFirst less) Observer.isPassive_silent
      _ _ _ (Scalar.Chord.start_eq_of_tolerance hp hq)
  · exact Scheme.call_extends (Scalar.Newton.scheme_haltsFirst less) Observer.isPassive_silent
      _ _ _ (Scalar.Newton.start_eq_of_tolerance hp hq)
  · exact Scheme.call_extends (Scalar.Secant.scheme_haltsFirst less) Observer.isPassive_silent
      _ _ _ (Scalar.Secant.start_eq_of_tolerance hp hq)
  · exact Scheme.call_extends (Systems.FixedPoint.scheme_haltsFirst atMost)
      Observer.isPassive_silent _ _ _ (Systems.FixedPoint.start_eq_of_tolerance hp hq)

/-- A parabola with its positive root between one and two. -/
def parabola : ScalarFunction Float where
  label := "x^2 - 2"
  eval x := x * x - 2

/-- One equation, which halves its unknown. -/
def halving : EquationSystem Float where
  label := "halving"
  functions := [⟨"x_0 / 2", 1, fun x => 0.5 * x.headD 0⟩]
  nonempty := by simp
  square := by simp

/-- A box for it, around its solution zero. -/
def aroundZero : Interval Float := ⟨-0.25, 0.25, by decide, by decide, by decide⟩

/-- From one eighth to a quarter of that, two more rows are recorded in either of two methods. -/
theorem tightening_extends_parabola_and_halving :
    ∃ (limits : Scalar.Limits Float) (bounds : Systems.Limits Float),
      isTolerance (0.125 : Float) = true ∧ isTolerance (0.03125 : Float) = true ∧
      (0.03125 : Float) ≤ 0.125 ∧
      Extends (Scalar.Bisection.solve parabola 0 2 0.125 limits .silent).result
        (Scalar.Bisection.solve parabola 0 2 0.03125 limits .silent).result ∧
      (Scalar.Bisection.solve parabola 0 2 0.125 limits .silent).events.length = 4 ∧
      (Scalar.Bisection.solve parabola 0 2 0.03125 limits .silent).events.length = 6 ∧
      Extends
        (Systems.FixedPoint.solve halving [aroundZero] [0.25] 0.125 bounds .silent).result
        (Systems.FixedPoint.solve halving [aroundZero] [0.25] 0.03125 bounds .silent).result ∧
      (Systems.FixedPoint.solve halving [aroundZero] [0.25] 0.125 bounds .silent).events.length
        = 2 ∧
      (Systems.FixedPoint.solve halving [aroundZero] [0.25] 0.03125 bounds .silent).events.length
        = 4 := by
  have p : isTolerance (0.125 : Float) = true := by decide
  have q : isTolerance (0.03125 : Float) = true := by decide
  have le : (0.03125 : Float) ≤ 0.125 := by decide
  obtain ⟨bisection, -, -, -, system⟩ := tightening_extends_trace parabola 0 2 0.1 0.125 0.03125
    p q le ⟨10, 1e-12, by decide, by decide, by decide⟩ halving [aroundZero] [0.25]
    ⟨10, 0.1, by decide, by decide, by decide⟩
  exact ⟨_, _, p, q, le, bisection, by decide +kernel, by decide +kernel, system,
    by decide +kernel, by decide +kernel⟩

end RootFinding
