import RootFinding.Proofs.Double.Accuracy

/-!
# Equal doubles, and the order of rounded numbers

Finite doubles that compare as equal have the same value, and the other way round
(`beq_iff_value`); only the two zeros are then different doubles. A computed sum has a value that
depends on the values of its terms alone (`value_add_congr`).

Rounding keeps the order of numbers (`IsRounding.value_le`). Two numbers that are rounded to
different doubles, the larger one down, would both be nearer to the other double.
-/

namespace RootFinding.Double

open Number
open Float.Model (UnpackedFloat)
open Float.Model.UnpackedFloat

/-! ## Equal values -/

theorem beq_iff {x y : Float} :
    (x == y) = true ↔ (decoded x).compare (decoded y) = some .eq := by
  show (decoded x).beq (decoded y) = true ↔ _
  rw [UnpackedFloat.beq, beq_iff_eq]

/-- Finite doubles compare as equal if they have the same value. -/
theorem beq_iff_value {x y : Float} (hx : x.isFinite = true) (hy : y.isFinite = true) :
    (x == y) = true ↔ value x = value y := by
  rw [beq_iff, compare_eq_some hx hy, Option.some.injEq, compare_eq_iff_eq]

/-- Magnitudes that are equal have the same exponent and the same mantissa. -/
theorem magnitude_inj {m n : Nat} {e d : Int} {hm : 0 < m} {hn : 0 < n} {s t : Sign}
    (canonical_u : IsCanonical (.finite s m e hm)) (canonical_v : IsCanonical (.finite t n d hn))
    (h : (m : ℚ) * 2 ^ e = n * 2 ^ d) : m = n ∧ e = d := by
  rcases lt_trichotomy e d with below | rfl | above
  · have leading := canonical_v.2.2.2.resolve_right (by have := canonical_u.2.1; omega)
    exact absurd h (magnitude_lt canonical_u.1 leading below).ne
  · exact ⟨Nat.cast_injective (mul_right_cancel₀ (zpow_ne_zero e two_ne_zero) h), rfl⟩
  · have leading := canonical_u.2.2.2.resolve_right (by have := canonical_v.2.1; omega)
    exact absurd h (magnitude_lt canonical_v.1 leading above).ne'

/-- Except for zeros, a value has only one decoded form. -/
theorem eq_of_decodedValue_eq {u v : UnpackedFloat} (canonical_u : IsCanonical u)
    (canonical_v : IsCanonical v) (nonzero : decodedValue u ≠ 0)
    (h : decodedValue u = decodedValue v) : u = v := by
  cases u with
  | finite s m e hm =>
    cases v with
    | finite t n d hn =>
      have magnitudes : (m : ℚ) * 2 ^ e = n * 2 ^ d := by
        have abs_eq := congrArg (fun q : ℚ => |q|) h
        rw [decodedValue_finite, decodedValue_finite, abs_signed, abs_signed,
          abs_of_nonneg (by positivity), abs_of_nonneg (by positivity)] at abs_eq
        exact abs_eq
      obtain ⟨rfl, rfl⟩ := magnitude_inj canonical_u canonical_v magnitudes
      cases s with
      | positive =>
        cases t with
        | positive => rfl
        | negative => exact absurd h ((decodedValue_neg hn).trans (decodedValue_pos hm)).ne'
      | negative =>
        cases t with
        | positive => exact absurd h ((decodedValue_neg hm).trans (decodedValue_pos hn)).ne
        | negative => rfl
    | _ => exact absurd h nonzero
  | _ => exact absurd rfl nonzero

/-- The value of a sum depends on the values of its terms only. -/
theorem value_add_congr {x y z : Float} (hx : x.isFinite = true) (hy : y.isFinite = true)
    (hz : z.isFinite = true) (h : value y = value z) : value (x + y) = value (x + z) := by
  by_cases nothing : value y = 0
  · have left := isRounding_add hx hy
    have right := isRounding_add hx hz
    rw [nothing, add_zero] at left
    rw [← h, nothing, add_zero] at right
    rw [(left.exact hx).2, (right.exact hx).2]
  · have same : decoded y = decoded z :=
      eq_of_decodedValue_eq (isCanonical_decoded y) (isCanonical_decoded z) nothing h
    show decodedValue (unpack .binary64 (pack .binary64 (UnpackedFloat.add .binary64 (decoded x)
      (decoded y)))) = _
    rw [same]
    rfl

/-! ## The order of rounded numbers -/

/-- A smaller number is not rounded to a larger double. -/
theorem IsRounding.value_le {p q : ℚ} {x y : Float} (hx : IsRounding p x) (hy : IsRounding q y)
    (finite_x : x.isFinite = true) (finite_y : y.isFinite = true) (lt : p < q) :
    value x ≤ value y := by
  have nearer_x := sq_le_sq.2 (hx.nearest finite_x (decoded y) (isCanonical_decoded y) finite_y)
  have nearer_y := sq_le_sq.2 (hy.nearest finite_y (decoded x) (isCanonical_decoded x) finite_x)
  change (value x - p) ^ 2 ≤ (value y - p) ^ 2 at nearer_x
  change (value y - q) ^ 2 ≤ (value x - q) ^ 2 at nearer_y
  by_contra above
  -- the midpoint of the two doubles is at most `p` and at least `q`
  nlinarith only [nearer_x, nearer_y, mul_pos (sub_pos.2 lt) (sub_pos.2 (not_le.1 above))]

/-- A smaller term does not give a larger computed sum. -/
theorem value_add_le {x y z : Float} (hy : (x + y).isFinite = true) (hz : (x + z).isFinite = true)
    (le : value y ≤ value z) : value (x + y) ≤ value (x + z) := by
  obtain ⟨finite_x, finite_y⟩ := isFinite_of_add hy
  obtain ⟨-, finite_z⟩ := isFinite_of_add hz
  rcases le.eq_or_lt with same | lt
  · exact (value_add_congr finite_x finite_y finite_z same).le
  · exact (isRounding_add finite_x finite_y).value_le (isRounding_add finite_x finite_z) hy hz
      (add_lt_add_right lt _)

end RootFinding.Double
