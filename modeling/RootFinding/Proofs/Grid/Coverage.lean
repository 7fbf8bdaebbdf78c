import RootFinding.Proofs.Double.Monotonicity
import RootFinding.Proofs.Grid.Segments

/-!
# Grids cover their intervals

The points of a grid begin with the left end of its interval, end with the right one, do not
decrease and do not leave the interval. Only the last point is the end itself; all others are
computed, the first one too, as the left end and a multiple of the spacing. So it is a question of
rounding whether they are where they should be, and the answer is that they are, unless the width of
the interval overflows (`covers_iff`): an infinite spacing, taken zero times, is not a number, and
the first point is lost.

## Shape of the arguments

* A multiple of the spacing has to be at most the exact distance between the ends, because then the
  rounded sum is between the ends as well (`IsRounding.between`).
* In a wide interval the last segment is longer than all that can be lost by rounding
  (`wide_estimate`).
* In a narrow one, sums and differences are exact, and so is the number of segments: the width is at
  most that many steps and more than one step less (`narrow_estimate`). So the spacing is at most
  the step, and one spacing less than all is less than the width.
-/

namespace RootFinding.Grid

open Number Double

variable {s : Interval Float} {step : Float} {g : Grid Float}

/-! ## Estimates -/

/-- The part of an interval that is taken by all segments but one, with all roundings, is less than
the whole if the interval is wide. -/
theorem wide_estimate {d w spacing : ℚ} {n i : Nat} (hi : i < n) (few : n < maxGridPoints)
    (width_error : |w - d| ≤ roundoff * |d|)
    (spacing_error : |spacing - w / n| ≤ roundoff * |w / n| + halfLeast) (width_nonneg : 0 ≤ w)
    (wide : 2 ^ 49 * halfLeast ≤ d) :
    (1 + roundoff) * (spacing * i) + halfLeast ≤ d := by
  have least_pos := halfLeast_pos
  have distance_nonneg : 0 ≤ d := (mul_nonneg (by positivity) least_pos.le).trans wide
  have divisor_pos : (0 : ℚ) < n := Nat.cast_pos.2 (Nat.zero_lt_of_lt hi)
  have few_segments : (n : ℚ) ≤ 10 ^ 7 := by exact_mod_cast few.le
  have earlier : (i : ℚ) ≤ n - 1 := by
    have succ_le : ((i + 1 : ℕ) : ℚ) ≤ n := Nat.cast_le.2 hi
    push_cast at succ_le
    linarith only [succ_le]
  rw [abs_of_nonneg distance_nonneg] at width_error
  rw [abs_of_nonneg (div_nonneg width_nonneg divisor_pos.le)] at spacing_error
  -- an exact segment is called `part`
  obtain ⟨part, rfl⟩ : ∃ part, d = part * n := ⟨d / n, (div_mul_cancel₀ d divisor_pos.ne').symm⟩
  have part_nonneg : 0 ≤ part := nonneg_of_mul_nonneg_left distance_nonneg divisor_pos
  have part_ge : 4 * 10 ^ 7 * halfLeast ≤ part := by
    have scaled := wide.trans (mul_le_mul_of_nonneg_left few_segments part_nonneg)
    linarith only [scaled, least_pos]
  have width_le : w / n ≤ (1 + roundoff) * part := by
    rw [div_le_iff₀ divisor_pos, mul_assoc]
    linarith only [(abs_le.1 width_error).2]
  have spacing_le : spacing ≤ (1 + roundoff) * ((1 + roundoff) * part) + halfLeast := by
    have scaled := mul_le_mul_of_nonneg_left width_le (add_nonneg zero_le_one roundoff_nonneg)
    linarith only [(abs_le.1 spacing_error).2, scaled]
  have bound_nonneg : 0 ≤ (1 + roundoff) * ((1 + roundoff) * part) + halfLeast := by
    have := roundoff_nonneg
    positivity
  have product_le : spacing * i ≤
      ((1 + roundoff) * ((1 + roundoff) * part) + halfLeast) * (n - 1) :=
    (mul_le_mul_of_nonneg_right spacing_le (Nat.cast_nonneg i)).trans
      (mul_le_mul_of_nonneg_left earlier bound_nonneg)
  have rest_le : (n : ℚ) - 1 ≤ 10 ^ 7 := by linarith only [few_segments]
  have part_product := mul_le_mul_of_nonneg_left rest_le part_nonneg
  have least_product := mul_le_mul_of_nonneg_left rest_le least_pos.le
  rw [roundoff] at *
  linarith only [product_le, part_product, least_product, part_ge, least_pos]

/-- If the computed number of steps is rounded up to `n`, all but one of these steps are shorter
than the width. -/
theorem steps_lt {w step : Float} {n : Nat} (hw : w.isFinite = true) (step_pos : 0 < value step)
    (fits : n < 2 ^ 53) (finite : (w / step).isFinite = true) (up : ⌈value (w / step)⌉ = n)
    (positive : 0 < n) : ((n - 1 : ℕ) : ℚ) * value step < value w := by
  rw [← lt_div_iff₀ step_pos]
  by_contra few
  obtain ⟨u, canonical, finite_u, same⟩ := exists_canonical_eq (show n - 1 < 2 ^ 53 by omega)
  have quotient_le :=
    ((isRounding_div hw step_pos.ne').nearest finite).le canonical finite_u (same ▸ not_lt.1 few)
  rw [same] at quotient_le
  have ceil_le := Int.ceil_le.2 (show value (w / step) ≤ ((n - 1 : ℕ) : ℤ) by
    rwa [Int.cast_natCast])
  omega

/-- If the width is small, the number of steps is not rounded to one that is too small. -/
theorem narrow_estimate {w step : Float} {n : Nat} (hw : w.isFinite = true)
    (step_pos : 0 < value step) (finite : (w / step).isFinite = true)
    (up : ⌈value (w / step)⌉ = n) (least_step : value step ≤ value w)
    (narrow : value w < 2 ^ 49 * halfLeast) : value w ≤ n * value step := by
  have least_pos := halfLeast_pos
  have least_small : halfLeast ≤ 1 / 2 ^ 50 := by
    rw [halfLeast, one_div, ← zpow_natCast, ← zpow_neg]
    exact two_zpow_le (by norm_num)
  by_contra more
  have gap := ((isWhole_value step).mul_natCast n).add_le_of_lt (isWhole_value w) (not_le.1 more)
  have quotient_le : value (w / step) ≤ n := by
    have := Int.le_ceil (value (w / step))
    rwa [up, Int.cast_natCast] at this
  have quotient_nonneg : 0 ≤ value w / value step :=
    div_nonneg (step_pos.le.trans least_step) step_pos.le
  have error := (abs_le.1 ((isRounding_div hw step_pos.ne').error_le finite)).1
  rw [abs_of_nonneg quotient_nonneg] at error
  -- the error of the quotient, in steps, is less than the gap
  have scaled := mul_le_mul_of_nonneg_right (show value w / value step - n ≤
    roundoff * (value w / value step) + halfLeast by linarith only [error, quotient_le]) step_pos.le
  rw [sub_mul, add_mul, mul_assoc, div_mul_cancel₀ _ step_pos.ne'] at scaled
  have step_product : halfLeast * value step ≤ 1 / 2 ^ 50 * (2 ^ 49 * halfLeast) :=
    mul_le_mul least_small (least_step.trans narrow.le) step_pos.le (by positivity)
  rw [roundoff] at scaled
  linarith only [scaled, gap, narrow, step_product, least_pos]

/-! ## Offsets -/

/-- The spacing of a grid is the width, divided by the number of segments and rounded. -/
theorem isRounding_spacing (h : s.grid step = .ok g) (hw : s.width.isFinite = true) :
    g.spacing.isFinite = true ∧ 0 ≤ value g.spacing ∧
      IsRounding (value s.width / g.segments) g.spacing := by
  obtain ⟨rfl, -⟩ := segments_cases h
  have few : g.segments < maxGridPoints := (size_bounds h).2
  obtain ⟨-, value_segments⟩ :=
    ofNat_eq (n := g.segments) (few.trans (by norm_num [maxGridPoints]))
  have segments_ge : (1 : ℚ) ≤ g.segments := Nat.one_le_cast.2 g.segments_pos
  have rounding : IsRounding (value g.interval.width / value (ofNat g.segments)) g.spacing :=
    isRounding_div hw (by rw [value_segments]; linarith only [segments_ge])
  rw [value_segments] at rounding
  have finite : g.spacing.isFinite = true := by
    rw [rounding.isFinite_iff, abs_div, Nat.abs_cast]
    exact (div_le_self (abs_nonneg _) segments_ge).trans_lt abs_value_lt
  exact ⟨finite, rounding.nonneg finite (div_nonneg (width_nonneg hw) (Nat.cast_nonneg _)),
    rounding⟩

/-- The offset of the point of an index from the left end. -/
def offset (g : Grid Float) (i : Nat) : Float := g.spacing * ofNat i

/-- The offset is the multiple of the spacing, rounded. -/
theorem isRounding_offset (hs : g.spacing.isFinite = true) {i : Nat} (few : i < maxGridPoints) :
    IsRounding (value g.spacing * i) (g.offset i) := by
  obtain ⟨finite, value_index⟩ := ofNat_eq (n := i) (few.trans (by norm_num [maxGridPoints]))
  have rounding := isRounding_mul hs finite
  rwa [value_index] at rounding

/-- The width of a narrow interval is the exact distance between its ends. -/
theorem width_eq_distance (hw : s.width.isFinite = true)
    (narrow : distance s < 2 ^ 49 * halfLeast) : value s.width = distance s := by
  have whole : IsWhole (distance s) := (isWhole_value s.right).sub (isWhole_value s.left)
  refine (isWhole_value s.width).eq_of_close whole ?_
  refine ((isRounding_width s).error_of_isWhole hw whole).trans ?_
  rw [abs_of_pos (distance_pos s), roundoff]
  linarith only [narrow, halfLeast_pos]

/-- In a wide interval, an offset stays below the distance of the ends with all that is rounded. -/
theorem offset_bounds_of_wide (h : s.grid step = .ok g) (hw : s.width.isFinite = true) {i : Nat}
    (hi : i < g.segments) (wide : 2 ^ 49 * halfLeast ≤ distance s) :
    (g.offset i).isFinite = true ∧ 0 ≤ value (g.offset i) ∧ value (g.offset i) ≤ distance s := by
  have few : g.segments < maxGridPoints := (size_bounds h).2
  obtain ⟨finite_spacing, spacing_nonneg, spacing⟩ := isRounding_spacing h hw
  have product := isRounding_offset finite_spacing (hi.trans few)
  have product_nonneg : 0 ≤ value g.spacing * i := mul_nonneg spacing_nonneg (Nat.cast_nonneg i)
  have bound := wide_estimate hi few ((isRounding_width s).error_of_isWhole hw
    ((isWhole_value _).sub (isWhole_value _))) (spacing.error_le finite_spacing)
    (width_nonneg hw) wide
  have in_range : |distance s| < overflowBound := (isRounding_width s).isFinite_iff.1 hw
  rw [abs_of_nonneg (distance_pos s).le] at in_range
  have least_pos := halfLeast_pos
  have finite : (g.offset i).isFinite = true := by
    have lost := mul_nonneg roundoff_nonneg product_nonneg
    rw [product.isFinite_iff, abs_of_nonneg product_nonneg]
    linarith only [bound, in_range, lost, least_pos]
  have error := (abs_le.1 (product.error_le finite)).2
  rw [abs_of_nonneg product_nonneg] at error
  exact ⟨finite, product.nonneg finite product_nonneg, by linarith only [bound, error]⟩

/-- In a narrow interval, the multiples of the spacing are at most the width: the spacing is at most
the step, and one step less than all is less than the width. -/
theorem spacing_mul_le_of_narrow (h : s.grid step = .ok g) (hw : s.width.isFinite = true)
    {i : Nat} (hi : i < g.segments) (narrow : value s.width < 2 ^ 49 * halfLeast) :
    value g.spacing * i ≤ value s.width := by
  obtain ⟨finite_spacing, -, spacing⟩ := isRounding_spacing h hw
  have segments_pos : (0 : ℚ) < g.segments := Nat.cast_pos.2 g.segments_pos
  rcases Nat.eq_zero_or_pos i with rfl | positive
  · rw [Nat.cast_zero, mul_zero]
    exact width_nonneg hw
  obtain ⟨-, ⟨-, divided⟩ | ⟨-, single⟩⟩ := segments_cases h
  · obtain ⟨n, up, segments_eq⟩ := divided.quotient
    obtain rfl : g.segments = n := by omega
    have fits : g.segments < 2 ^ 53 := divided.few.trans (by norm_num [maxGridPoints])
    have step_pos := divided.step_pos
    have steps := steps_lt hw step_pos fits divided.finite_quotient up g.segments_pos
    have least_step : value step ≤ value s.width :=
      (le_mul_of_one_le_left step_pos.le (Nat.one_le_cast.2 (by omega))).trans steps.le
    have all_steps := narrow_estimate hw step_pos divided.finite_quotient up least_step narrow
    have spacing_le : value g.spacing ≤ value step :=
      (spacing.nearest finite_spacing).le (isCanonical_decoded step) divided.finite_step
        ((div_le_iff₀ segments_pos).2 (by rwa [mul_comm]))
    have earlier : (i : ℚ) ≤ ((g.segments - 1 : ℕ) : ℚ) := Nat.cast_le.2 (by omega)
    calc value g.spacing * i ≤ value step * i :=
          mul_le_mul_of_nonneg_right spacing_le (Nat.cast_nonneg i)
      _ ≤ value step * (g.segments - 1 : ℕ) := mul_le_mul_of_nonneg_left earlier step_pos.le
      _ ≤ value s.width := by rw [mul_comm]; exact steps.le
  · omega

/-- No point but the last one is farther away from the left end than the right end is. -/
theorem offset_bounds (h : s.grid step = .ok g) (hw : s.width.isFinite = true) {i : Nat}
    (hi : i < g.segments) :
    (g.offset i).isFinite = true ∧ 0 ≤ value (g.offset i) ∧ value (g.offset i) ≤ distance s := by
  rcases le_or_gt (2 ^ 49 * halfLeast) (distance s) with wide | narrow
  · exact offset_bounds_of_wide h hw hi wide
  · obtain ⟨finite_spacing, spacing_nonneg, -⟩ := isRounding_spacing h hw
    have product := isRounding_offset finite_spacing (hi.trans (size_bounds h).2)
    have same := width_eq_distance hw narrow
    rw [← same] at narrow ⊢
    exact product.between (l := Number.zero) rfl hw
      (mul_nonneg spacing_nonneg (Nat.cast_nonneg i)) (spacing_mul_le_of_narrow h hw hi narrow)

/-! ## Points -/

theorem point_of_lt (g : Grid Float) {i : Nat} (hi : i < g.segments) :
    g.point i = g.interval.left + g.offset i := if_neg hi.ne

/-- All points are finite and between the ends. -/
theorem point_bounds (h : s.grid step = .ok g) (hw : s.width.isFinite = true) {i : Nat}
    (hi : i ≤ g.segments) : (g.point i).isFinite = true ∧ value s.left ≤ value (g.point i) ∧
      value (g.point i) ≤ value s.right := by
  obtain ⟨rfl, -⟩ := segments_cases h
  rcases hi.lt_or_eq with earlier | rfl
  · obtain ⟨finite, nonneg, le⟩ := offset_bounds h hw earlier
    rw [g.point_of_lt earlier]
    refine (isRounding_add g.interval.finite_left finite).between g.interval.finite_left
      g.interval.finite_right (le_add_of_nonneg_right nonneg) ?_
    rw [distance] at le
    linarith only [le]
  · rw [g.point_last]
    exact ⟨g.interval.finite_right, sub_nonneg.1 (distance_pos g.interval).le, le_rfl⟩

/-- The first point has the value of the left end. -/
theorem value_point_zero (h : s.grid step = .ok g) (hw : s.width.isFinite = true) :
    value (g.point 0) = value s.left := by
  obtain ⟨finite_spacing, -, -⟩ := isRounding_spacing h hw
  obtain ⟨rfl, -⟩ := segments_cases h
  have product := isRounding_offset finite_spacing (i := 0) (by norm_num [maxGridPoints])
  rw [Nat.cast_zero, mul_zero] at product
  have sum := isRounding_add g.interval.finite_left product.zero.1
  rw [product.zero.2, add_zero] at sum
  rw [g.point_of_lt g.segments_pos]
  exact (sum.exact g.interval.finite_left).2

/-- A later point is not to the left of an earlier one. -/
theorem value_point_le (h : s.grid step = .ok g) (hw : s.width.isFinite = true) {i j : Nat}
    (hij : i < j) (hj : j ≤ g.segments) : value (g.point i) ≤ value (g.point j) := by
  obtain ⟨finite_i, -, below_i⟩ := point_bounds h hw (hij.le.trans hj)
  rcases hj.lt_or_eq with earlier | rfl
  · obtain ⟨finite_j, -, -⟩ := point_bounds h hw hj
    obtain ⟨finite, -, -⟩ := offset_bounds h hw earlier
    obtain ⟨finite', -, -⟩ := offset_bounds h hw (hij.trans earlier)
    have few : g.segments < maxGridPoints := (size_bounds h).2
    obtain ⟨finite_spacing, spacing_nonneg, -⟩ := isRounding_spacing h hw
    obtain ⟨rfl, -⟩ := segments_cases h
    have product_i := isRounding_offset finite_spacing (hij.trans (earlier.trans few))
    have product_j := isRounding_offset finite_spacing (earlier.trans few)
    rw [g.point_of_lt (hij.trans earlier)] at finite_i ⊢
    rw [g.point_of_lt earlier] at finite_j ⊢
    refine value_add_le finite_i finite_j ?_
    rcases spacing_nonneg.eq_or_lt with none | positive
    · rw [← none, zero_mul] at product_i product_j
      rw [product_i.zero.2, product_j.zero.2]
    · exact product_i.value_le product_j finite' finite
        (mul_lt_mul_of_pos_left (Nat.cast_lt.2 hij) positive)
  · rw [g.point_last]
    obtain ⟨rfl, -⟩ := segments_cases h
    exact below_i

/-- If the first point is finite, the width has not overflowed. -/
theorem isFinite_width_of_point_zero (h : s.grid step = .ok g)
    (finite : (g.point 0).isFinite = true) : s.width.isFinite = true := by
  obtain ⟨rfl, -⟩ := segments_cases h
  rw [g.point_of_lt g.segments_pos] at finite
  exact (isFinite_of_div (isFinite_of_mul (isFinite_of_add finite).2).1).1

/-! ## Coverage -/

/-- What the points of a grid over an interval, asked for with a step, should be. -/
structure Covers (points : List Float) (s : Interval Float) (step : Float) : Prop where
  /-- The first point is the left end, up to the sign of a zero. -/
  first : ∃ x, points.head? = some x ∧ (x == s.left) = true
  /-- The last point is the right end itself. -/
  last : points.getLast? = some s.right
  inside : ∀ x ∈ points, s.contains x = true
  ordered : points.Pairwise (· ≤ ·)
  /-- A step that is not finite and positive gives the two ends and nothing else. -/
  endpoints : isTolerance step = false → (points == [s.left, s.right]) = true

theorem points_of_single (single : g.segments = 1) :
    g.points = [g.point 0, g.interval.right] := by
  rw [← point_last, single, points, size, single]
  rfl

theorem mem_points {x : Float} : x ∈ g.points ↔ ∃ i ≤ g.segments, g.point i = x := by
  simp only [points, size, List.mem_map, List.mem_range, Nat.lt_succ_iff]

/-- A grid covers its interval, for every step, exactly if the width of the interval does not
overflow. -/
theorem covers_iff (h : s.grid step = .ok g) :
    Covers g.points s step ↔ s.width.isFinite = true := by
  obtain ⟨interval_eq, cases⟩ := segments_cases h
  constructor
  · intro covers
    have inside := covers.inside _ (mem_points.2 ⟨0, Nat.zero_le _, rfl⟩)
    refine isFinite_width_of_point_zero h ?_
    by_contra infinite
    rw [not_contains_of_not_isFinite s (eq_false_of_ne_true infinite)] at inside
    exact Bool.false_ne_true inside
  · intro hw
    obtain ⟨finite, -, -⟩ := point_bounds h hw (Nat.zero_le g.segments)
    have starts : (g.point 0 == s.left) = true :=
      (beq_iff_value finite s.finite_left).2 (value_point_zero h hw)
    refine ⟨⟨_, g.head?_points, starts⟩, interval_eq ▸ g.getLast?_points, ?inside, ?ordered,
      ?endpoints⟩
    case inside =>
      intro x hx
      obtain ⟨i, hi, rfl⟩ := mem_points.1 hx
      obtain ⟨finite, above, below⟩ := point_bounds h hw hi
      exact Interval.contains_iff.2 ⟨(le_iff_value s.finite_left finite).2 above,
        (le_iff_value finite s.finite_right).2 below⟩
    case ordered =>
      rw [points, List.pairwise_map]
      refine List.pairwise_lt_range.imp_of_mem ?_
      intro i j hi hj hij
      have last := Nat.lt_succ_iff.1 (List.mem_range.1 hj)
      exact (le_iff_value (point_bounds h hw (hij.le.trans last)).1 (point_bounds h hw last).1).2
        (value_point_le h hw hij last)
    case endpoints =>
      intro unusable
      obtain ⟨tolerance, -⟩ | ⟨-, single⟩ := cases
      · exact absurd (unusable.symm.trans tolerance) Bool.false_ne_true
      · have ends : (s.right == s.right) = true :=
          (beq_iff_value s.finite_right s.finite_right).2 rfl
        rw [points_of_single single, interval_eq]
        show ((g.point 0 == s.left) && ((s.right == s.right) && true)) = true
        rw [starts, ends]
        rfl

/-- Three tenths, from the first to the fourth. -/
def threeTenths : Interval Float := ⟨0.1, 0.4, by decide, by decide, by decide⟩

/-- The width is rounded up to a little more than three steps, and the grid covers the interval in
four segments. -/
theorem threeTenths_covered : ∃ g, threeTenths.grid 0.1 = .ok g ∧ g.segments = 4 ∧
    Covers g.points threeTenths 0.1 := by
  have four : (threeTenths.grid 0.1).toOption.map Grid.segments = some 4 := by decide +kernel
  cases h : threeTenths.grid 0.1 with
  | error cause =>
    rw [h] at four
    cases four
  | ok g =>
    rw [h] at four
    exact ⟨g, rfl, Option.some.inj four, (covers_iff h).2 (by decide +kernel)⟩

/-- An interval whose width overflows. -/
def wideInterval : Interval Float :=
  ⟨-1e308, 1e308, by decide +kernel, by decide +kernel, by decide +kernel⟩

/-- The grid that is asked for to have the ends of an interval only may have a first point that is
not a number. -/
theorem wideInterval_not_covered : ∃ g, wideInterval.grid 0 = .ok g ∧
    (g.points.head?.map Float.isNaN) = some true ∧ ¬Covers g.points wideInterval 0 := by
  refine ⟨⟨wideInterval, 1, by decide⟩, Interval.grid_eq_ok.2 (.inr ⟨by decide, rfl, rfl⟩), ?_, ?_⟩
  · decide +kernel
  · intro covers
    exact absurd (covers.endpoints (by decide)) (by decide +kernel)

end RootFinding.Grid
