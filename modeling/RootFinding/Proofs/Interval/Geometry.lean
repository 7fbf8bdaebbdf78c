import RootFinding.Proofs.Grid.Segments

/-!
# Widths and midpoints

The width of an interval of doubles is positive, and it is finite exactly if the exact distance of
the ends is not too large for a double. The midpoint is half of the sum of the ends, and where this
sum is not too large, it is a point of the interval (`geometry_is_sound`).

## Shape of the arguments

* No difference is so small that it is lost: two doubles that differ do so by the smallest double at
  least. A difference that is too large is rounded to an infinity of its own sign, so the computed
  width is positive in any case (`zero_lt_sub`).
* Twice a double is a double again, or too large for one (`exists_canonical_double`). So the
  computed sum of two doubles lies between twice the one and twice the other
  (`IsRounding.compare_double`), and half of it lies between the two themselves (`mean_between`).
  The half may be rounded too, below the normal doubles, but not beyond either of the two.
-/

namespace RootFinding

open Number
open Float.Model (UnpackedFloat)
open Float.Model.UnpackedFloat (Sign pack unpack)

namespace Double

/-! ## Differences -/

/-- What is at least the smallest double is rounded to something positive, though this may be
infinite. -/
theorem RoundsTo.isNonzero {q : ℚ} {u : UnpackedFloat} (h : RoundsTo q u)
    (least : 2 * halfLeast ≤ q) : IsNonzero .positive (unpack .binary64 (pack .binary64 u)) := by
  have smallest : decodedValue (.finite .positive 1 (-1074) Nat.one_pos) = 2 * halfLeast := by
    rw [decodedValue_finite, signed, Nat.cast_one, one_mul, two_mul_halfLeast]
  have above := h.nearest.ge (u := .finite .positive 1 (-1074) Nat.one_pos)
    ⟨by decide, by decide, by decide, .inr rfl⟩ rfl (smallest.trans_le least)
  rw [smallest] at above
  have positive : 0 < decodedValue u := (mul_pos two_pos halfLeast_pos).trans_le above
  have reduced := h.reduced
  cases u with
  | finite sign m e hm =>
    cases sign with
    | positive => exact unpack_pack_finite .positive hm reduced.1 reduced.2.1
    | negative => exact absurd positive (decodedValue_neg hm).not_gt
  | _ => exact absurd positive (lt_irrefl _)

/-- The computed difference of a double and a smaller one is positive. -/
theorem zero_lt_sub {x y : Float} (hx : x.isFinite = true) (hy : y.isFinite = true) (h : y < x) :
    zero < x - y := by
  have lt := (lt_iff_value hy hx).1 h
  have apart : 2 * halfLeast ≤ value x - value y :=
    le_sub_iff_add_le'.2 ((isWhole_value y).add_le_of_lt (isWhole_value x) lt)
  have rounds := roundsTo_sub (isCanonical_decoded x) (isCanonical_decoded y) hx hy
  exact zero_lt_iff_isNonzero.2 (rounds.isNonzero apart)

/-! ## Means -/

theorem two_mul_signed (sign : Sign) (q : ℚ) : 2 * signed sign q = signed sign (2 * q) := by
  cases sign with
  | positive => rfl
  | negative => exact mul_neg 2 q

/-- A form with an exponent that no double has stands for a number that is too large. -/
theorem overflowBound_le_of_isReduced {sign : Sign} {m : Nat} {e : Int} {positive : 0 < m}
    (reduced : IsReduced (.finite sign m e positive)) (above : 971 < e) :
    overflowBound ≤ m * 2 ^ e :=
  (mul_le_mul_of_nonneg_right (by norm_num) (zpow_nonneg zero_le_two _)).trans
    (two_pow_le_of_isReduced reduced above)

/-- Twice a double is a double, or too large for one. -/
theorem exists_canonical_double {u : UnpackedFloat} (canonical : IsCanonical u)
    (finite : u.isFinite = true) :
    (∃ v, IsCanonical v ∧ v.isFinite = true ∧ decodedValue v = 2 * decodedValue u) ∨
      overflowBound ≤ |2 * decodedValue u| := by
  cases u with
  | infinity sign => cases finite
  | notANumber => cases finite
  | zero sign => exact .inl ⟨.zero sign, trivial, rfl, (mul_zero 2).symm⟩
  | finite sign m e positive =>
    obtain ⟨bits, low, high, leading⟩ := canonical
    rw [decodedValue_finite, two_mul_signed]
    by_cases normal : 2 ^ 52 ≤ m
    · -- a full mantissa is kept, with the next exponent
      have doubled : (m : ℚ) * 2 ^ (e + 1) = 2 * (m * 2 ^ e) := by
        rw [zpow_add_one₀ two_ne_zero]
        ring
      rw [← doubled]
      rcases le_or_gt (e + 1) 971 with fits | above
      · exact .inl ⟨.finite sign m (e + 1) positive, ⟨bits, by omega, fits, .inl normal⟩, rfl,
          decodedValue_finite sign m (e + 1) positive⟩
      · have reduced : IsReduced (.finite sign m (e + 1) positive) :=
          ⟨bits, by omega, .inl normal⟩
        rw [abs_signed]
        exact .inr ((overflowBound_le_of_isReduced reduced above).trans (le_abs_self _))
    · -- a shorter one has room for one more bit
      obtain rfl : e = -1074 := leading.resolve_left normal
      refine .inl ⟨.finite sign (2 * m) (-1074) (Nat.mul_pos two_pos positive),
        ⟨by omega, le_rfl, high, .inr rfl⟩, rfl, ?_⟩
      rw [decodedValue_finite, Nat.cast_mul, Nat.cast_ofNat, mul_assoc]

section Means

variable {x y : Float}

/-- A rounded number is on the same side of twice a double as the exact one, even if this is too
large for a double. -/
theorem IsRounding.compare_double {q : ℚ} {s : Float} (h : IsRounding q s) (hs : s.isFinite = true)
    (hx : x.isFinite = true) :
    (2 * value x ≤ q → 2 * value x ≤ value s) ∧ (q ≤ 2 * value x → value s ≤ 2 * value x) := by
  rcases exists_canonical_double (isCanonical_decoded x) hx with ⟨v, canonical, finite, hv⟩ | large
  · rw [value, ← hv]
    exact ⟨(h.nearest hs).ge canonical finite, (h.nearest hs).le canonical finite⟩
  · have small := abs_lt.1 (h.isFinite_iff.1 hs)
    have small_rounded := abs_lt.1 (abs_value_lt (x := s))
    rcases le_abs'.1 large with below | above
    · exact ⟨fun _ => below.trans small_rounded.1.le,
        fun le => absurd (le.trans below) (not_le.2 small.1)⟩
    · exact ⟨fun le => absurd (above.trans le) (not_le.2 small.2),
        fun _ => small_rounded.2.le.trans above⟩

theorem value_half : value (decimal 5 1) = 1 / 2 := by
  have decoded_half : decoded (decimal 5 1) = .finite .positive (2 ^ 52) (-53) (by decide) := rfl
  rw [value, decoded_half, decodedValue_finite, signed]
  norm_num

/-- Half of a sum that is not too large lies between the two terms. -/
theorem mean_between (le : value x ≤ value y) (h : (x + y).isFinite = true) :
    (decimal 5 1 * (x + y)).isFinite = true ∧ value x ≤ value (decimal 5 1 * (x + y)) ∧
      value (decimal 5 1 * (x + y)) ≤ value y := by
  obtain ⟨hx, hy⟩ := isFinite_of_add h
  have sum := isRounding_add hx hy
  have above : 2 * value x ≤ value (x + y) := (sum.compare_double h hx).1 (by linarith)
  have below : value (x + y) ≤ 2 * value y := (sum.compare_double h hy).2 (by linarith)
  have half : IsRounding (value (decimal 5 1) * value (x + y)) (decimal 5 1 * (x + y)) :=
    isRounding_mul rfl h
  rw [value_half] at half
  exact half.between hx hy (by linarith) (by linarith)

end Means

end Double

namespace Interval

open Double Grid

variable (s : Interval Float)

/-- The width of an interval is positive, though it may be infinite. -/
theorem zero_lt_width : zero < s.width :=
  zero_lt_sub s.finite_right s.finite_left s.left_lt_right

/-- The width is finite exactly if the exact distance of the ends is not too large. -/
theorem isFinite_width_iff : s.width.isFinite = true ↔ distance s < overflowBound := by
  rw [(isRounding_width s).isFinite_iff, abs_of_pos (distance_pos s)]

/-- The midpoint is a point of the interval exactly if the sum of the ends is not too large. -/
theorem contains_midpoint_iff :
    s.contains s.midpoint = true ↔ |value s.left + value s.right| < overflowBound := by
  rw [← (isRounding_add s.finite_left s.finite_right).isFinite_iff]
  constructor
  · exact fun inside => (isFinite_of_mul (isFinite_of_contains inside)).2
  · intro finite
    have le := ((lt_iff_value s.finite_left s.finite_right).1 s.left_lt_right).le
    obtain ⟨finite', above, below⟩ := mean_between le finite
    exact contains_iff.2 ⟨(le_iff_value s.finite_left finite').2 above,
      (le_iff_value finite' s.finite_right).2 below⟩

/-- Every pair of finite doubles in order is accepted as an interval, with a width that is positive,
and finite exactly if the distance of the ends is not too large for a double. If their sum is not
too large either, the midpoint is a finite point of the interval. -/
theorem geometry_is_sound {left right : Float} (hleft : left.isFinite = true)
    (hright : right.isFinite = true) (lt : left < right) :
    ∃ s, ofBounds left right = .ok s ∧ zero < s.width ∧
      (s.width.isFinite = true ↔ value right - value left < overflowBound) ∧
      (|value left + value right| < overflowBound →
        s.midpoint.isFinite = true ∧ s.contains s.midpoint = true) := by
  let s : Interval Float := ⟨left, right, hleft, hright, lt⟩
  refine ⟨s, ofBounds_bounds s, s.zero_lt_width, s.isFinite_width_iff, fun small => ?_⟩
  have inside := s.contains_midpoint_iff.2 small
  exact ⟨isFinite_of_contains inside, inside⟩

/-- An interval around zero whose width overflows. -/
def aroundZero : Interval Float :=
  ⟨-1.2e308, 1.2e308, by decide +kernel, by decide +kernel, by decide +kernel⟩

/-- An interval whose ends have a sum that overflows. -/
def farFromZero : Interval Float :=
  ⟨1.1e308, 1.4e308, by decide +kernel, by decide +kernel, by decide +kernel⟩

/-- The ends of a wide interval around zero have a small sum. -/
theorem aroundZero_is_sound :
    (-1.2e308 : Float).isFinite = true ∧ (1.2e308 : Float).isFinite = true ∧
      (-1.2e308 : Float) < 1.2e308 ∧ |value (-1.2e308) + value 1.2e308| < overflowBound ∧
      ∃ s, ofBounds (-1.2e308) 1.2e308 = .ok s ∧ zero < s.width ∧ s.midpoint.isFinite = true ∧
        s.contains s.midpoint = true := by
  have small : |value (-1.2e308) + value 1.2e308| < overflowBound := by
    rw [value_neg, neg_add_cancel, abs_zero]
    exact overflowBound_pos
  obtain ⟨s, accepted, positive, -, sound⟩ :=
    geometry_is_sound aroundZero.finite_left aroundZero.finite_right aroundZero.left_lt_right
  exact ⟨aroundZero.finite_left, aroundZero.finite_right, aroundZero.left_lt_right, small, s,
    accepted, positive, sound small⟩

/-- Neither the width nor the midpoint of an accepted interval has to be finite. -/
theorem aroundZero_and_farFromZero_overflow :
    (ofBounds (-1.2e308) 1.2e308 = .ok aroundZero ∧ aroundZero.width.isFinite = false) ∧
      ofBounds 1.1e308 1.4e308 = .ok farFromZero ∧ farFromZero.midpoint.isFinite = false ∧
        farFromZero.contains farFromZero.midpoint = false := by
  refine ⟨⟨ofBounds_bounds aroundZero, ?_⟩, ofBounds_bounds farFromZero, ?_, ?_⟩
  · decide +kernel
  · decide +kernel
  · decide +kernel

end Interval

end RootFinding
