import RootFinding.Proofs.Double.Operations

/-!
# How close computed results are

Rounding respects the order of doubles: what lies between two of them is rounded to one between
them (`IsRounding.between`). A rounded number differs from the exact one by a part of it that is at
most `roundoff`, and by half of the smallest double at most.

Sums and differences are multiples of the smallest double, as all doubles are. So they are exact as
long as they are small, and only the first part of the error is left (`error_sub`).
-/

namespace RootFinding.Double

open Number
open Float.Model (UnpackedFloat)

/-! ## The order -/

section Order

variable {q y : ℚ} {u : UnpackedFloat}

/-- A nearest double is not above any double that is above the number. -/
theorem IsNearest.le (h : IsNearest q y) (canonical : IsCanonical u) (finite : u.isFinite = true)
    (above : q ≤ decodedValue u) : y ≤ decodedValue u := by
  have nearest := h u canonical finite
  rw [abs_of_nonneg (sub_nonneg.2 above)] at nearest
  exact sub_le_sub_iff_right q |>.1 ((le_abs_self _).trans nearest)

/-- A nearest double is not below any double that is below the number. -/
theorem IsNearest.ge (h : IsNearest q y) (canonical : IsCanonical u) (finite : u.isFinite = true)
    (below : decodedValue u ≤ q) : decodedValue u ≤ y := by
  have nearest := h u canonical finite
  rw [abs_of_nonpos (sub_nonpos.2 below), neg_sub] at nearest
  have distance := (neg_le_abs _).trans nearest
  rw [neg_sub] at distance
  exact sub_le_sub_iff_left q |>.1 distance

end Order

theorem abs_value_lt {x : Float} : |value x| < overflowBound :=
  abs_decodedValue_lt (isCanonical_decoded x)

section Rounding

variable {q : ℚ} {x l r : Float}

/-- A number between two doubles is rounded to a double between them. -/
theorem IsRounding.between (h : IsRounding q x) (hl : l.isFinite = true) (hr : r.isFinite = true)
    (above : value l ≤ q) (below : q ≤ value r) :
    x.isFinite = true ∧ value l ≤ value x ∧ value x ≤ value r := by
  have small : |q| < overflowBound :=
    abs_lt.2 ⟨(abs_lt.1 abs_value_lt).1.trans_le above, below.trans_lt (abs_lt.1 abs_value_lt).2⟩
  have finite := h.isFinite_iff.2 small
  exact ⟨finite, (h.nearest finite).ge (isCanonical_decoded l) hl above,
    (h.nearest finite).le (isCanonical_decoded r) hr below⟩

/-- A double is rounded to itself. -/
theorem IsRounding.exact (h : IsRounding (value l) x) (hl : l.isFinite = true) :
    x.isFinite = true ∧ value x = value l :=
  have ⟨finite, above, below⟩ := h.between hl hl le_rfl le_rfl
  ⟨finite, le_antisymm below above⟩

theorem IsRounding.zero (h : IsRounding 0 x) : x.isFinite = true ∧ value x = 0 :=
  IsRounding.exact (l := Number.zero) h rfl

/-- A number that is not negative is not rounded to a negative one. -/
theorem IsRounding.nonneg (h : IsRounding q x) (hx : x.isFinite = true) (nonneg : 0 ≤ q) :
    0 ≤ value x :=
  (h.nearest hx).ge (u := .zero .positive) trivial rfl nonneg

end Rounding

/-! ## The error -/

/-- The largest part of a number that is lost when it is rounded, if it is not too small. -/
def roundoff : ℚ := 1 / 2 ^ 53

/-- A whole multiple of the smallest positive double. -/
def IsWhole (q : ℚ) : Prop := ∃ n : ℤ, q = n * (2 * halfLeast)

theorem two_mul_halfLeast : 2 * halfLeast = 2 ^ (-1074 : ℤ) := by
  rw [halfLeast, ← zpow_one_add₀ two_ne_zero]
  rfl

theorem isWhole_value (x : Float) : IsWhole (value x) := by
  by_cases hx : (decoded x).isFinite = true
  · rcases multiple_or_small (isCanonical_decoded x) hx (-1074) with ⟨n, hn⟩ | ⟨above, -⟩
    · exact ⟨n, by rw [two_mul_halfLeast]; exact hn⟩
    · exact absurd above (lt_irrefl _)
  · have nothing : value x = 0 := by
      by_contra nonzero
      exact hx (isFinite_of_value_ne_zero nonzero)
    exact ⟨0, by rw [nothing, Int.cast_zero, zero_mul]⟩

theorem IsWhole.sub {p q : ℚ} (hp : IsWhole p) (hq : IsWhole q) : IsWhole (p - q) := by
  obtain ⟨m, rfl⟩ := hp
  obtain ⟨n, rfl⟩ := hq
  exact ⟨m - n, by rw [Int.cast_sub, sub_mul]⟩

theorem IsWhole.mul_natCast {q : ℚ} (h : IsWhole q) (n : Nat) : IsWhole (n * q) := by
  obtain ⟨k, rfl⟩ := h
  exact ⟨n * k, by rw [Int.cast_mul, Int.cast_natCast, mul_assoc]⟩

/-- Different multiples of the smallest double are that far apart. -/
theorem IsWhole.add_le_of_lt {p q : ℚ} (hp : IsWhole p) (hq : IsWhole q) (h : p < q) :
    p + 2 * halfLeast ≤ q := by
  obtain ⟨m, rfl⟩ := hp
  obtain ⟨n, rfl⟩ := hq
  have unit_pos : 0 < 2 * halfLeast := mul_pos two_pos halfLeast_pos
  have whole : m + 1 ≤ n := Int.cast_lt.1 ((mul_lt_mul_iff_left₀ unit_pos).1 h)
  have units := mul_le_mul_of_nonneg_right (Int.cast_le (R := ℚ).2 whole) unit_pos.le
  rwa [Int.cast_add, Int.cast_one, add_mul, one_mul] at units

/-- Multiples of the smallest double that are closer than that are equal. -/
theorem IsWhole.eq_of_close {p q : ℚ} (hp : IsWhole p) (hq : IsWhole q)
    (close : |p - q| ≤ halfLeast) : p = q := by
  have distance := abs_le.1 close
  rcases lt_trichotomy p q with below | same | above
  · linarith only [hp.add_le_of_lt hq below, distance.1, halfLeast_pos]
  · exact same
  · linarith only [hq.add_le_of_lt hp above, distance.2, halfLeast_pos]

theorem roundoff_nonneg : 0 ≤ roundoff := by
  rw [roundoff]
  positivity

section Error

variable {q : ℚ} {x : Float}

/-- A rounded number is close to the exact one. -/
theorem IsRounding.error_le (h : IsRounding q x) (hx : x.isFinite = true) :
    |value x - q| ≤ roundoff * |q| + halfLeast := by
  refine (h.error hx).trans (max_le ?_ ?_)
  · exact le_add_of_nonneg_left (mul_nonneg roundoff_nonneg (abs_nonneg q))
  · rw [roundoff, one_div_mul_eq_div]
    exact le_add_of_nonneg_right halfLeast_pos.le

/-- A multiple of the smallest double is not rounded as long as it is small. -/
theorem IsRounding.error_of_isWhole (h : IsRounding q x) (hx : x.isFinite = true)
    (whole : IsWhole q) : |value x - q| ≤ roundoff * |q| := by
  rcases le_max_iff.1 (h.error hx) with small | part
  · rw [(isWhole_value x).eq_of_close whole small, sub_self, abs_zero]
    exact mul_nonneg roundoff_nonneg (abs_nonneg q)
  · rwa [roundoff, one_div_mul_eq_div]

end Error

/-- A computed difference is off by a part of the exact one, however small it is. -/
theorem error_sub {x y : Float} (h : (x - y).isFinite = true) :
    |value (x - y) - (value x - value y)| ≤ roundoff * |value x - value y| :=
  have ⟨hx, hy⟩ := isFinite_of_sub h
  (isRounding_sub hx hy).error_of_isWhole h ((isWhole_value x).sub (isWhole_value y))

/-! ## Halves -/

theorem value_two : value two = 2 := by
  have decoded_two : decoded two = .finite .positive (2 ^ 52) (-51) (by decide) := rfl
  rw [value, decoded_two, decodedValue_finite, signed]
  norm_num

section Middle

variable {l r : Float} (le : value l ≤ value r) (hw : (r - l).isFinite = true)

include le hw

/-- A computed half of a computed difference is at most the whole exact difference, however small
this is. -/
theorem half_le : ((r - l) / two).isFinite = true ∧ 0 ≤ value ((r - l) / two) ∧
    value ((r - l) / two) ≤ value r - value l := by
  obtain ⟨hr, hl⟩ := isFinite_of_sub hw
  have width_nonneg := (isRounding_sub hr hl).nonneg hw (sub_nonneg.2 le)
  have width_error := (abs_le.1 (error_sub hw)).2
  have half : IsRounding (value (r - l) / value two) ((r - l) / two) :=
    isRounding_div hw (by rw [value_two]; exact two_ne_zero)
  rw [value_two] at half
  have half_nonneg : 0 ≤ value (r - l) / 2 := div_nonneg width_nonneg zero_le_two
  have half_lt : |value (r - l) / 2| < overflowBound := by
    rw [abs_of_nonneg half_nonneg]
    exact (half_le_self width_nonneg).trans_lt ((le_abs_self _).trans_lt abs_value_lt)
  have finite := half.isFinite_iff.2 half_lt
  refine ⟨finite, half.nonneg finite half_nonneg, not_lt.1 fun above => ?_⟩
  have half_error := (abs_le.1 (half.error_le finite)).2
  have gap := ((isWhole_value r).sub (isWhole_value l)).add_le_of_lt (isWhole_value _) above
  have distance_nonneg := sub_nonneg.2 le
  have half_least := halfLeast_pos
  rw [abs_of_nonneg distance_nonneg] at width_error
  rw [abs_of_nonneg half_nonneg] at half_error
  generalize value r - value l = distance at *
  rw [roundoff] at *
  linarith only [width_error, half_error, gap, distance_nonneg, half_least]

/-- The point that lies a computed half of a computed difference away from one double lies between
the two. -/
theorem middle_between : (l + (r - l) / two).isFinite = true ∧
    value l ≤ value (l + (r - l) / two) ∧ value (l + (r - l) / two) ≤ value r := by
  obtain ⟨hr, hl⟩ := isFinite_of_sub hw
  obtain ⟨finite, nonneg, half_le⟩ := half_le le hw
  exact (isRounding_add hl finite).between hl hr (by linarith) (by linarith)

end Middle

end RootFinding.Double
