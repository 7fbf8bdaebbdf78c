import RootFinding.Grid
import RootFinding.Proofs.Double.Whole

/-!
# How many segments a grid has

A grid is asked for by a step. Where the step can be used, the grid has as many segments as steps
are needed, which is the computed quotient of width and step, rounded up (`IsDivided`); a grid that
would have too many points is refused. In doubles none of the conversions between the quotient, the
number of segments and the number of points loses anything, so that every grid has at least two
points and at most `maxGridPoints` (`size_bounds`).

## Shape of the arguments

* `Interval.grid_eq_ok` reads the definition: the refused requests are left out once.
* The test on the number of points is made in doubles. One more than a double is never too large for
  one (`abs_value_add_one_lt`), and whole numbers of points are not rounded across the limit
  (`lt_of_add_one_le`).
-/

namespace RootFinding

open Number

/-- The requests for a grid that are granted. -/
theorem Interval.grid_eq_ok {α : Type} [Number α] {s : Interval α} {step : α} {g : Grid α} :
    s.grid step = .ok g ↔
      (isTolerance step = true ∧ isFinite (ceil (s.width / step)) = true ∧
        ceil (s.width / step) + one ≤ ofNat maxGridPoints ∧
        g.interval = s ∧ g.segments = max (toNat (ceil (s.width / step))) 1) ∨
      (isTolerance step = false ∧ g.interval = s ∧ g.segments = 1) := by
  obtain ⟨interval, segments, positive⟩ := g
  unfold Interval.grid
  dsimp only
  split
  · next tolerance =>
    split
    · next within =>
      constructor
      · rintro ⟨⟩
        exact .inl ⟨tolerance, within.1, within.2, rfl, rfl⟩
      · rintro (⟨-, -, -, rfl, rfl⟩ | ⟨unusable, -⟩)
        · rfl
        · exact absurd (unusable.symm.trans tolerance) Bool.false_ne_true
    · next many =>
      refine iff_of_false nofun ?_
      rintro (⟨-, finite, below, -⟩ | ⟨unusable, -⟩)
      · exact many ⟨finite, below⟩
      · exact Bool.false_ne_true (unusable.symm.trans tolerance)
  · next unusable =>
    constructor
    · rintro ⟨⟩
      exact .inr ⟨eq_false_of_ne_true unusable, rfl, rfl⟩
    · rintro (⟨tolerance, -⟩ | ⟨-, rfl, rfl⟩)
      · exact absurd tolerance unusable
      · rfl

namespace Grid

open Double

variable {s : Interval Float} {step : Float} {g : Grid Float}

/-! ## The width -/

/-- The exact distance between the ends of an interval. -/
def distance (s : Interval Float) : ℚ := value s.right - value s.left

theorem distance_pos (s : Interval Float) : 0 < distance s :=
  sub_pos.2 ((lt_iff_value s.finite_left s.finite_right).1 s.left_lt_right)

/-- The width is the exact distance, rounded. -/
theorem isRounding_width (s : Interval Float) : IsRounding (distance s) s.width :=
  isRounding_sub s.finite_right s.finite_left

theorem width_nonneg (hw : s.width.isFinite = true) : 0 ≤ value s.width :=
  (isRounding_width s).nonneg hw (distance_pos s).le

/-! ## Counting points -/

/-- One more than the value of a double is not too large for a double: the largest doubles are
multiples of large units. -/
theorem abs_value_add_one_lt {x : Float} (hx : x.isFinite = true) :
    |value x| + 1 < overflowBound := by
  have unit_large : (1 : ℚ) < 2 ^ (970 : ℤ) := one_lt_zpow₀ one_lt_two (by norm_num)
  have cases := multiple_or_small (isCanonical_decoded x) hx 970
  have bound : |value x| < overflowBound := abs_value_lt
  change (∃ k : ℤ, value x = k * 2 ^ (970 : ℤ)) ∨ (_ ∧ |value x| < 2 ^ 52 * 2 ^ (970 : ℤ)) at cases
  rw [overflowBound] at bound ⊢
  generalize (2 : ℚ) ^ (970 : ℤ) = unit at unit_large cases bound ⊢
  have unit_pos : 0 < unit := zero_lt_one.trans unit_large
  rcases cases with ⟨k, hk⟩ | ⟨-, small⟩
  · rw [hk, abs_mul, abs_of_pos unit_pos] at bound ⊢
    have few : |(k : ℚ)| < 2 ^ 54 - 1 := (mul_lt_mul_iff_left₀ unit_pos).1 bound
    have units : |k| + 1 ≤ 2 ^ 54 - 1 := by exact_mod_cast few
    have scaled := mul_le_mul_of_nonneg_right (Int.cast_le (R := ℚ).2 units) unit_pos.le
    push_cast at scaled
    linarith only [scaled, unit_large]
  · linarith only [small, unit_large]

/-- A whole double that, with one added, passes the test on the number of points is less than their
largest number. -/
theorem lt_of_add_one_le {x : Float} {n : Nat} (hx : x.isFinite = true) (whole : value x = n)
    (below : x + one ≤ ofNat maxGridPoints) : n < maxGridPoints := by
  obtain ⟨finite_one, value_one⟩ := ofNat_eq (n := 1) (by norm_num)
  obtain ⟨finite_limit, value_limit⟩ := ofNat_eq (n := maxGridPoints) (by norm_num [maxGridPoints])
  obtain ⟨next, finite_next, value_next⟩ : ∃ y : Float, y.isFinite = true ∧
      value y = (maxGridPoints + 1 : ℕ) := ⟨_, ofNat_eq (by norm_num [maxGridPoints])⟩
  have rounding := isRounding_add hx finite_one
  rw [value_one, whole] at rounding
  have small : |(n : ℚ) + (1 : ℕ)| < overflowBound := by
    have bound := abs_value_add_one_lt hx
    rw [whole, Nat.abs_cast] at bound
    rwa [← Nat.cast_add, Nat.abs_cast, Nat.cast_succ]
  have finite := rounding.isFinite_iff.2 small
  have points_le := (le_iff_value finite finite_limit).1 below
  rw [value_limit] at points_le
  by_contra many
  -- the next whole number after the limit is a double, and what is above it is not rounded below it
  have above : value next ≤ n + (1 : ℕ) := by
    rw [value_next]
    exact_mod_cast Nat.succ_le_succ (not_lt.1 many)
  have points_ge := (rounding.nearest finite).ge (isCanonical_decoded next) finite_next above
  have limits := points_ge.trans points_le
  change value next ≤ _ at limits
  rw [value_next] at limits
  exact absurd (Nat.cast_le.1 limits) (Nat.not_succ_le_self _)

/-! ## Segments -/

/-- A width is divided by a step that can be used: the number of segments is the computed quotient,
rounded up, and at least one. -/
structure IsDivided (width step : Float) (segments : Nat) : Prop where
  finite_width : width.isFinite = true
  width_nonneg : 0 ≤ value width
  finite_step : step.isFinite = true
  step_pos : 0 < value step
  finite_quotient : (width / step).isFinite = true
  /-- The computed number of steps. -/
  quotient : ∃ n : Nat, ⌈value (width / step)⌉ = n ∧ segments = max n 1
  few : segments < maxGridPoints

/-- A tolerance is finite and positive. -/
theorem of_isTolerance (h : isTolerance step = true) :
    step.isFinite = true ∧ 0 < value step := by
  obtain ⟨finite, positive⟩ := Bool.and_eq_true_iff.1 h
  exact ⟨finite, (zero_lt_iff finite).1 (of_decide_eq_true positive)⟩

/-- A grid divides the width by the step, or it has one segment because the step cannot be used. -/
theorem segments_cases (h : s.grid step = .ok g) : g.interval = s ∧
    ((isTolerance step = true ∧ IsDivided s.width step g.segments) ∨
      (isTolerance step = false ∧ g.segments = 1)) := by
  rcases Interval.grid_eq_ok.1 h with
    ⟨tolerance, finite, below, interval_eq, segments_eq⟩ | unusable
  · refine ⟨interval_eq, .inl ⟨tolerance, ?_⟩⟩
    obtain ⟨finite_step, step_pos⟩ := of_isTolerance tolerance
    have finite_quotient := isFinite_of_ceil finite
    have finite_width := (isFinite_of_div finite_quotient).1
    have width_nonneg := width_nonneg finite_width
    have quotient_nonneg : 0 ≤ value (s.width / step) :=
      (isRounding_div finite_width step_pos.ne').nonneg finite_quotient
        (div_nonneg width_nonneg step_pos.le)
    obtain ⟨n, hn⟩ := Int.eq_ofNat_of_zero_le (Int.ceil_nonneg quotient_nonneg)
    obtain ⟨-, value_ceil⟩ := ceil_eq finite_quotient
    rw [hn, Int.cast_natCast] at value_ceil
    have few := lt_of_add_one_le finite value_ceil below
    have toNat_eq : toNat (ceil (s.width / step)) = n := by
      have cut := toNat_toUInt64 finite (value_ceil ▸ Nat.cast_nonneg n) (by
        rw [value_ceil]
        exact_mod_cast few.trans (by norm_num [maxGridPoints]))
      rwa [value_ceil, Nat.floor_natCast] at cut
    rw [toNat_eq] at segments_eq
    have few_segments : g.segments < maxGridPoints :=
      segments_eq ▸ max_lt few (by norm_num [maxGridPoints])
    exact ⟨finite_width, width_nonneg, finite_step, step_pos, finite_quotient, ⟨n, hn, segments_eq⟩,
      few_segments⟩
  · exact ⟨unusable.2.1, .inr ⟨unusable.1, unusable.2.2⟩⟩

theorem length_points {α : Type} [Number α] (g : Grid α) : g.points.length = g.size := by
  rw [points, List.length_map, List.length_range]

theorem point_last {α : Type} [Number α] (g : Grid α) :
    g.point g.segments = g.interval.right := if_pos rfl

theorem head?_points {α : Type} [Number α] (g : Grid α) :
    g.points.head? = some (g.point 0) := by
  rw [points, List.head?_map, size, List.range_succ_eq_map]
  rfl

theorem getLast?_points {α : Type} [Number α] (g : Grid α) :
    g.points.getLast? = some g.interval.right := by
  rw [points, List.getLast?_map, size, List.range_succ, List.getLast?_concat, Option.map_some,
    point_last]

/-- A grid has two points at least, and not too many. -/
theorem size_bounds (h : s.grid step = .ok g) : 2 ≤ g.size ∧ g.size ≤ maxGridPoints := by
  have positive := g.segments_pos
  have few : g.segments < maxGridPoints := by
    rcases (segments_cases h).2 with ⟨-, divided⟩ | ⟨-, single⟩
    · exact divided.few
    · rw [single]
      norm_num [maxGridPoints]
  exact ⟨Nat.succ_le_succ positive, few⟩

end Grid

end RootFinding
