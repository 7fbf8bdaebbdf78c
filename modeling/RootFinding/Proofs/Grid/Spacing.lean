import Mathlib.Tactic.Linarith
import Mathlib.Tactic.Ring
import RootFinding.Proofs.Grid.Segments
import RootFinding.Proofs.Rational.Arithmetic

/-!
# Grids of exact numbers

Over the rational numbers a grid does what it is for. Its points are evenly spaced, in gaps of at
most the step that was asked for, and there are no more of them than that takes: no walk from the
left end to the right one in steps of at most that length has fewer points (`IsLeastGrid`). A grid
is refused exactly if it would have too many points (`grid_isLeast_or_refused`).

## Shape of the arguments

* All points, the last one too, are the left end and a multiple of the spacing (`point_eq`).
* A walk of `n + 1` points leads at most `n` steps away (`IsWalk.distance_le`), so the number of
  steps in the width, rounded up, is a lower bound.
-/

namespace RootFinding.Grid

open Number Rational

variable {s : Interval ℚ} {step : ℚ} {g : Grid ℚ}

/-- The least number of steps that are as long as an interval, rounded up, and at least one. -/
def stepsIn (s : Interval ℚ) (step : ℚ) : ℕ := max 1 ⌈s.width / step⌉₊

/-- A list of points that starts at `a`, ends at `b` and goes no farther than `step` at a time; it
may go back. -/
structure IsWalk (a b step : ℚ) (points : List ℚ) : Prop where
  first : points.head? = some a
  last : points.getLast? = some b
  near : points.IsChain fun x y => y - x ≤ step

/-- What the points of a grid over an interval, asked for with a positive step, should be. -/
structure IsLeastGrid (s : Interval ℚ) (step : ℚ) (points : List ℚ) : Prop where
  count : points.length = stepsIn s step + 1
  first : points.head? = some s.left
  last : points.getLast? = some s.right
  increasing : points.Pairwise (· < ·)
  /-- All gaps are the same one, which is no longer than the step. -/
  even : ∃ gap ≤ step, points.IsChain fun x y => y - x = gap
  /-- No walk with such steps has fewer points. -/
  least : ∀ walk, IsWalk s.left s.right step walk → points.length ≤ walk.length

/-! ## Walks -/

theorem getLast_sub_le {xs : List ℚ} (a : ℚ)
    (near : (a :: xs).IsChain fun x y => y - x ≤ step) :
    (a :: xs).getLast (List.cons_ne_nil a xs) - a ≤ xs.length * step := by
  induction xs generalizing a with
  | nil => simp
  | cons x xs ih =>
    obtain ⟨here, rest⟩ := List.isChain_cons_cons.1 near
    have later := ih x rest
    rw [List.getLast_cons (List.cons_ne_nil x xs), List.length_cons, Nat.cast_succ, add_mul,
      one_mul]
    linarith only [here, later]

/-- A walk has one point more than it takes steps, and it is at least as long as the way. -/
theorem IsWalk.distance_le {a b : ℚ} {points : List ℚ} (h : IsWalk a b step points) :
    ∃ n : ℕ, points.length = n + 1 ∧ b - a ≤ n * step := by
  obtain ⟨first, last, near⟩ := h
  cases points with
  | nil => cases first
  | cons x xs =>
    obtain rfl : x = a := Option.some.inj first
    rw [List.getLast?_eq_some_getLast (List.cons_ne_nil x xs)] at last
    have bound := getLast_sub_le x near
    rw [Option.some.inj last] at bound
    exact ⟨xs.length, rfl, bound⟩

/-! ## The number of steps -/

theorem width_pos (s : Interval ℚ) : 0 < s.width := sub_pos.2 s.left_lt_right

theorem width_le_mul (positive : 0 < step) : s.width ≤ stepsIn s step * step := by
  rw [← div_le_iff₀ positive]
  exact (Nat.le_ceil _).trans (Nat.cast_le.2 (le_max_right _ _))

/-- So many steps lead from end to end only if they are at least as many as it takes. -/
theorem stepsIn_le_of_width_le (positive : 0 < step) {n : ℕ} (h : s.width ≤ n * step) :
    stepsIn s step ≤ n := by
  have some_steps : 0 < n := by
    rcases Nat.eq_zero_or_pos n with rfl | some_steps
    · rw [Nat.cast_zero, zero_mul] at h
      exact absurd (width_pos s) (not_lt.2 h)
    · exact some_steps
  exact max_le some_steps (Nat.ceil_le.2 ((div_le_iff₀ positive).2 h))

/-- The test on the number of points is a test of the number of steps. -/
theorem points_le_iff (positive : 0 < step) :
    ceil (s.width / step) + one ≤ (ofNat maxGridPoints : ℚ) ↔
      stepsIn s step + 1 ≤ maxGridPoints := by
  have quotient_pos : 0 < s.width / step := div_pos (width_pos s) positive
  have least_one : 1 ≤ ⌈s.width / step⌉₊ := Nat.ceil_pos.2 quotient_pos
  rw [stepsIn, max_eq_right least_one, ceil_eq, one_eq, ofNat_eq,
    ← natCast_ceil_eq_intCast_ceil quotient_pos.le]
  norm_cast

/-! ## Points -/

/-- The grid that is asked for with a positive step. -/
theorem segments_eq (positive : 0 < step) (h : s.grid step = .ok g) :
    g.interval = s ∧ g.segments = stepsIn s step := by
  rcases Interval.grid_eq_ok.1 h with ⟨-, -, -, interval_eq, segments_eq⟩ | ⟨unusable, -⟩
  · refine ⟨interval_eq, ?_⟩
    rw [segments_eq, ceil_eq, toNat_eq, ← Int.floor_toNat, Int.floor_intCast, Int.ceil_toNat,
      stepsIn, max_comm]
  · exact absurd (unusable.symm.trans (isTolerance_iff.2 positive)) Bool.false_ne_true

theorem segments_ne_zero (g : Grid ℚ) : (g.segments : ℚ) ≠ 0 :=
  Nat.cast_ne_zero.2 g.segments_pos.ne'

theorem spacing_pos (g : Grid ℚ) : 0 < g.spacing :=
  div_pos (width_pos g.interval) (Nat.cast_pos.2 g.segments_pos)

/-- The last point is no exception. -/
theorem point_eq (g : Grid ℚ) {i : ℕ} (hi : i ≤ g.segments) :
    g.point i = g.interval.left + g.spacing * i := by
  rcases hi.lt_or_eq with earlier | rfl
  · exact if_neg earlier.ne
  · have whole : g.spacing * g.segments = g.interval.width :=
      div_mul_cancel₀ _ (segments_ne_zero g)
    rw [point_last, whole, Interval.width]
    ring

theorem isChain_points (g : Grid ℚ) : g.points.IsChain fun x y => y - x = g.spacing := by
  rw [points, size, List.isChain_map, List.isChain_range_succ]
  intro i hi
  rw [g.point_eq hi.le, g.point_eq hi, Nat.cast_succ]
  ring

theorem pairwise_points (g : Grid ℚ) : g.points.Pairwise (· < ·) := by
  rw [points, size, List.pairwise_map]
  refine List.pairwise_lt_range.imp_of_mem ?_
  intro i j _ hj less
  have last : j ≤ g.segments := Nat.lt_succ_iff.1 (List.mem_range.1 hj)
  rw [g.point_eq (less.le.trans last), g.point_eq last]
  have farther := mul_lt_mul_of_pos_left (Nat.cast_lt (α := ℚ).2 less) g.spacing_pos
  linarith only [farther]

/-- A grid has evenly spaced points, and as few of them as the step allows. -/
theorem isLeastGrid_points (positive : 0 < step) (h : s.grid step = .ok g) :
    IsLeastGrid s step g.points := by
  obtain ⟨rfl, count⟩ := segments_eq positive h
  have length : g.points.length = stepsIn g.interval step + 1 := by
    rw [g.length_points, size, count]
  have starts : g.point 0 = g.interval.left := by
    rw [g.point_eq (Nat.zero_le _), Nat.cast_zero, mul_zero, add_zero]
  have short : g.spacing ≤ step := by
    refine (div_le_iff₀' (Nat.cast_pos.2 g.segments_pos)).2 ?_
    rw [ofNat_eq, count]
    exact width_le_mul positive
  refine ⟨length, starts ▸ g.head?_points, g.getLast?_points, g.pairwise_points,
    ⟨g.spacing, short, g.isChain_points⟩, ?_⟩
  intro walk isWalk
  obtain ⟨n, walk_length, distance_le⟩ := isWalk.distance_le
  rw [length, walk_length]
  exact Nat.succ_le_succ (stepsIn_le_of_width_le positive distance_le)

/-- A grid that is asked for with a positive step is given, evenly spaced and with the least number
of points, if this number is allowed, and it is refused with the number otherwise. -/
theorem grid_isLeast_or_refused (s : Interval ℚ) (step : ℚ) (positive : 0 < step) :
    (stepsIn s step + 1 ≤ maxGridPoints →
        ∃ g, s.grid step = .ok g ∧ IsLeastGrid s step g.points) ∧
      (maxGridPoints < stepsIn s step + 1 →
        s.grid step = .error (.gridTooLarge (⌈s.width / step⌉ + 1) maxGridPoints)) := by
  have tolerance : isTolerance step = true := isTolerance_iff.2 positive
  constructor
  · intro few
    obtain ⟨g, h⟩ : ∃ g, s.grid step = .ok g := by
      have within := (points_le_iff positive).2 few
      exact ⟨⟨s, max (toNat (ceil (s.width / step))) 1, by omega⟩, Interval.grid_eq_ok.2
        (.inl ⟨tolerance, rfl, within, rfl, rfl⟩)⟩
    exact ⟨g, h, isLeastGrid_points positive h⟩
  · intro many
    have beyond : ¬ceil (s.width / step) + one ≤ (ofNat maxGridPoints : ℚ) :=
      fun within => absurd ((points_le_iff positive).1 within) (not_le.2 many)
    rw [ceil_eq, one_eq] at beyond
    simp only [Interval.grid, tolerance, isFinite_eq, true_and, if_true, ceil_eq, one_eq, beyond,
      if_false]

/-- Three tenths, from the first to the fourth, as exact numbers. -/
def exactTenths : Interval ℚ := ⟨1 / 10, 4 / 10, rfl, rfl, by decide +kernel⟩

/-- A step of a tenth divides them into three segments, with nothing to be rounded up; a step that
is too fine is refused. -/
theorem exactTenths_isLeast_or_refused : (0 : ℚ) < 1 / 10 ∧ (0 : ℚ) < 1 / 10 ^ 8 ∧
    (∃ g, exactTenths.grid (1 / 10) = .ok g ∧ g.points = [1 / 10, 2 / 10, 3 / 10, 4 / 10] ∧
      IsLeastGrid exactTenths (1 / 10) g.points) ∧
    exactTenths.grid (1 / 10 ^ 8) = .error (.gridTooLarge 30000001 maxGridPoints) := by
  have coarse : (0 : ℚ) < 1 / 10 := by norm_num
  have fine : (0 : ℚ) < 1 / 10 ^ 8 := by norm_num
  have few : stepsIn exactTenths (1 / 10) + 1 ≤ maxGridPoints := by decide +kernel
  have many : maxGridPoints < stepsIn exactTenths (1 / 10 ^ 8) + 1 := by decide +kernel
  have computed : (exactTenths.grid (1 / 10)).toOption.map Grid.points =
      some [1 / 10, 2 / 10, 3 / 10, 4 / 10] := by decide +kernel
  obtain ⟨g, h, least⟩ := (grid_isLeast_or_refused exactTenths (1 / 10) coarse).1 few
  rw [h] at computed
  refine ⟨coarse, fine, ⟨g, h, Option.some.inj computed, least⟩, ?_⟩
  have count : (⌈exactTenths.width / (1 / 10 ^ 8)⌉ : ℚ) + 1 = 30000001 := by decide +kernel
  rw [(grid_isLeast_or_refused exactTenths (1 / 10 ^ 8) fine).2 many, count]

end RootFinding.Grid
