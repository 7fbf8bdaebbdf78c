import Mathlib.Tactic.FieldSimp
import Mathlib.Tactic.NormNum
import Mathlib.Tactic.Ring
import RootFinding.Proofs.Rational.Differences
import RootFinding.Proofs.Rational.Guards
import RootFinding.Proofs.Run.Convergence
import RootFinding.Proofs.Scalar.Textbook

/-!
# Affine functions are solved exactly

The chord method, the secant method and Newton's method replace a function by a straight line. Over
the rational numbers, where an affine function is this line, the next point is its root. The first
two methods look at the value there in the same iteration, so they take one iteration. Newton's
method takes at most one more (`solves_affine`).

## Shape of the arguments

* The next point is the root, whatever the points before are (`Chord.crossing_eq_root`,
  `Secant.crossing_eq_root`, `Newton.next_eq_root`).
* An iteration that finds the value zero halts whatever the precision (`scheme_halts`), and a call
  is known from the iterations up to there (`Scheme.call_of_halt`).
-/

namespace RootFinding.Scalar

open Number Rational

variable {f : ScalarFunction ℚ} {a b left right precision : ℚ} {limits : Limits ℚ}

/-! ## Rows that are final at a root -/

theorem Chord.Row.isFinal_of_root (positive : 0 < precision) {row : Row ℚ} (root : row.fX = 0) :
    row.isFinal precision = true := by
  simp [isFinal, abs_eq, root, positive]

theorem Secant.Row.isFinal_of_root (positive : 0 < precision) {row : Row ℚ}
    (root : row.fNext = 0) : row.isFinal precision = true := by
  simp [isFinal, abs_eq, root, positive]

theorem Newton.Row.isFinal_of_root (positive : 0 < precision) {row : Row ℚ} (root : row.fX = 0) :
    row.isFinal precision = true := by
  simp [isFinal, abs_eq, root, positive]

/-! ## Where the methods start -/

/-- An affine function has no curvature, so the right end is the one to start at. -/
theorem startingSide_of_affine (affine : f.IsAffine a b) (interval : Interval ℚ) :
    Guard.startingSide f interval = .ok .right := by
  refine Guard.startingSide_eq_ok.2 ⟨rfl, rfl, ?_⟩
  rw [affine.secondDerivative_eq, mul_zero, zero_eq, if_neg (lt_irrefl 0)]

theorem Newton.start_of_affine (affine : f.IsAffine a b) (order : left < right)
    (positive : 0 < precision) : start f left right precision = .ok right := by
  simp only [start, Guard.inputs_of_lt order positive, startingSide_of_affine affine]
  rfl

theorem Secant.start_of_affine (affine : f.IsAffine a b) (order : left < right)
    (positive : 0 < precision) {offset : ℚ} (forward : 0 < offset) :
    start f left right precision offset = .ok ⟨right, right - offset, f.eval right⟩ := by
  simp only [start, Guard.inputs_of_lt order positive, startingSide_of_affine affine,
    isTolerance_iff.2 forward]
  rfl

section Lines

variable (affine : f.IsAffine a b) (slope : a ≠ 0)

include affine slope

theorem Chord.start_of_affine (order : left < right) (above : left ≤ -b / a)
    (below : -b / a ≤ right) (positive : 0 < precision) :
    start f left right precision = .ok ⟨⟨left, right, f.eval left, f.eval right⟩, left⟩ := by
  rw [start, Bracket.of_of_mul_nonpos order positive (affine.mul_nonpos slope above below)]
  rfl

/-! ## Where the lines cross zero -/

theorem Chord.crossing_eq_root (e : Scalar.Ends ℚ) (distinct : e.left ≠ e.right) :
    crossing f e = -b / a := by
  have nonzero : e.right - e.left ≠ 0 := sub_ne_zero.2 distinct.symm
  have rise_eq : rise f e = a * (e.right - e.left) := affine.sub_eq _ _
  rw [crossing, rise_eq, affine, affine]
  field_simp
  ring

theorem Secant.crossing_eq_root (p : Points ℚ) (distinct : p.prev ≠ p.x) :
    crossing f p = -b / a := by
  have nonzero : p.x - p.prev ≠ 0 := sub_ne_zero.2 distinct.symm
  have rise_eq : rise f p = a * (p.x - p.prev) := affine.sub_eq _ _
  rw [crossing, rise_eq, affine]
  field_simp
  ring

theorem Newton.next_eq_root (x : ℚ) : (textbook f).next x = -b / a := by
  show x - f.eval x / f.derivative x = -b / a
  rw [affine.derivative_eq, affine]
  field_simp
  ring

/-! ## The last iterations -/

theorem Chord.scheme_halts (order : left < right) (positive : 0 < precision)
    (large : limits.minDenominator ≤ |a| * (right - left)) (lastX : ℚ) :
    ∃ row, scheme f precision limits ⟨⟨left, right, f.eval left, f.eval right⟩, lastX⟩ =
      .ok (row, .halt ()) ∧ row.x = -b / a := by
  have root : (left * f.eval right - right * f.eval left) / (f.eval right - f.eval left) = -b / a :=
    crossing_eq_root affine slope ⟨left, right⟩ order.ne
  have rise_large : limits.minDenominator ≤ |f.eval right - f.eval left| := by
    rwa [affine.sub_eq, abs_mul, abs_of_pos (sub_pos.2 order)]
  refine ⟨_, scheme_eq_ok.2 ⟨_, _, Guard.divisor_of_le rise_large, rfl, rfl, ?final⟩, root⟩
  case final =>
    rw [if_pos (Row.isFinal_of_root positive ?_)]
    exact root ▸ affine.eval_root slope

theorem Secant.scheme_halts (p : Points ℚ) (distinct : p.prev ≠ p.x) (positive : 0 < precision)
    (large : limits.minDenominator ≤ |a| * |p.x - p.prev|) :
    ∃ row, scheme f precision limits ⟨p.prev, p.x, f.eval p.prev⟩ =
      .ok (row, .halt ()) ∧ row.next = -b / a := by
  have root : p.x - (p.x - p.prev) / (f.eval p.x - f.eval p.prev) * f.eval p.x = -b / a :=
    crossing_eq_root affine slope p distinct
  have rise_large : limits.minDenominator ≤ |f.eval p.x - f.eval p.prev| := by
    rwa [affine.sub_eq, abs_mul]
  refine ⟨_, scheme_eq_ok.2 ⟨_, _, _, _, rfl, Guard.divisor_of_le rise_large, rfl, rfl, rfl,
    ?final⟩, root⟩
  case final =>
    rw [if_pos (Row.isFinal_of_root positive ?_)]
    exact root ▸ affine.eval_root slope

/-- From every point, Newton's method comes to the root. -/
theorem Newton.scheme_eq_of_affine (large : limits.minDenominator ≤ |a|) (precision x : ℚ) :
    scheme f precision limits x = .ok ((textbook f).row x,
      if ((textbook f).row x).isFinal precision then .halt () else .next (-b / a)) := by
  have derivative_large : limits.minDenominator ≤ |f.derivative x| := by
    rwa [affine.derivative_eq]
  refine scheme_eq_ok.2 ⟨f.eval x, f.derivative x, f.derivative x, (textbook f).next x, rfl, rfl,
    Guard.divisor_of_le derivative_large, rfl, rfl, ?verdict⟩
  case verdict => rw [next_eq_root affine slope]

end Lines

/-! ## Calls -/

/-- What calls find whose function is `x ↦ a x + b`. -/
structure SolvesAffine (f : ScalarFunction ℚ) (a b left right precision : ℚ) (limits : Limits ℚ) :
    Prop where
  /-- The chord method takes one iteration if the values at the ends differ enough. -/
  chord : limits.minDenominator ≤ |a| * (right - left) →
    ∃ solution, (Chord.solve f left right precision limits .silent).result = .ok solution ∧
      solution.status = .converged ∧ solution.iters = 1 ∧ solution.answer = -b / a
  /-- So does the secant method if the values at its first two points do. -/
  secant : ∀ offset, 0 < offset → limits.minDenominator ≤ |a| * offset →
    ∃ solution, (Secant.solve f left right precision offset limits .silent).result = .ok solution ∧
      solution.status = .converged ∧ solution.iters = 1 ∧ solution.answer = -b / a
  /-- Newton's method starts at the right end, and takes two iterations at most. -/
  newton : limits.minDenominator ≤ |a| → 2 ≤ limits.maxIters →
    ∃ solution, (Newton.solve f left right precision limits .silent).result = .ok solution ∧
      solution.status = .converged ∧ solution.iters ≤ 2 ∧ solution.answer = -b / a ∧
      solution.trace.rows.head?.map Newton.Row.x = some right

/-- For every affine function that is not constant, every bracket around its root and every
precision, the three methods return exactly the root. -/
theorem solves_affine (f : ScalarFunction ℚ) (a b left right precision : ℚ) (limits : Limits ℚ)
    (affine : f.IsAffine a b) (slope : a ≠ 0) (order : left < right) (above : left ≤ -b / a)
    (below : -b / a ≤ right) (positive : 0 < precision) :
    SolvesAffine f a b left right precision limits where
  chord large := by
    obtain ⟨row, halts, root⟩ := Chord.scheme_halts affine slope order positive large left
    have accepted := Chord.start_of_affine affine slope order above below positive
    exact ⟨_, Scheme.call_of_halt accepted (.refl _) halts limits.maxIters_pos, rfl, rfl, root⟩
  secant offset forward large := by
    have step : |right - offset - right| = offset := by
      rw [sub_sub_cancel_left, abs_neg, abs_of_pos forward]
    obtain ⟨row, halts, root⟩ := Secant.scheme_halts affine slope ⟨right, right - offset⟩
      (sub_lt_self right forward).ne' positive (step.symm ▸ large)
    have accepted := Secant.start_of_affine affine order positive forward
    exact ⟨_, Scheme.call_of_halt accepted (.refl _) halts limits.maxIters_pos, rfl, rfl, root⟩
  newton large room := by
    have accepted := Newton.start_of_affine affine order positive
    have root := Newton.next_eq_root affine slope
    have first := Newton.scheme_eq_of_affine affine slope large precision right
    by_cases final : ((Newton.textbook f).row right).isFinal precision = true
    · rw [if_pos final] at first
      exact ⟨_, Scheme.call_of_halt accepted (.refl _) first limits.maxIters_pos, rfl,
        Nat.le_succ 1, root right, rfl⟩
    · rw [if_neg final] at first
      -- the first step ends at the root, where the second iteration halts
      have halts := Newton.scheme_eq_of_affine affine slope large precision (-b / a)
      rw [if_pos (Newton.Row.isFinal_of_root positive (affine.eval_root slope))] at halts
      exact ⟨_, Scheme.call_of_halt accepted (.step first (.refl _)) halts room, rfl, le_rfl,
        root (-b / a), rfl⟩

/-- A line with the root three halves. -/
def risingLine : ScalarFunction ℚ where
  label := "2x - 3"
  eval x := 2 * x + -3

/-- The slope of the line and the length of the bracket are large enough for all three methods. -/
theorem risingLine_solved : ∃ limits : Limits ℚ, limits.maxIters = 2 ∧
    limits.minDenominator = 1 / 10 ∧ risingLine.IsAffine 2 (-3) ∧ (2 : ℚ) ≠ 0 ∧ (0 : ℚ) < 2 ∧
    (0 : ℚ) ≤ -(-3) / 2 ∧ -(-3) / 2 ≤ (2 : ℚ) ∧ (0 : ℚ) < 1 / 10 ∧
    SolvesAffine risingLine 2 (-3) 0 2 (1 / 10) limits ∧
    ∃ solution, (Newton.solve risingLine 0 2 (1 / 10) limits .silent).result = .ok solution ∧
      solution.answer = 3 / 2 := by
  have affine : risingLine.IsAffine 2 (-3) := fun _ => rfl
  have above : (0 : ℚ) ≤ -(-3) / 2 := by norm_num
  have below : -(-3) / 2 ≤ (2 : ℚ) := by norm_num
  have positive : (0 : ℚ) < 1 / 10 := by norm_num
  have solves := solves_affine risingLine 2 (-3) 0 2 (1 / 10)
    ⟨2, 1 / 10, by norm_num, rfl, by norm_num⟩ affine two_ne_zero zero_lt_two above below positive
  have steep : (1 : ℚ) / 10 ≤ |2| := by norm_num
  obtain ⟨solution, success, -, -, answer_eq, -⟩ := solves.newton steep le_rfl
  refine ⟨_, rfl, rfl, affine, two_ne_zero, zero_lt_two, above, below, positive, solves, solution,
    success, answer_eq.trans ?_⟩
  norm_num

end RootFinding.Scalar
