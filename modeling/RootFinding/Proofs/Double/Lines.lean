import RootFinding.Proofs.Double.Accuracy

/-!
# Where a straight line crosses zero

The straight line that has the values `p` at `a` and `q` at `b` crosses zero at
`(a * q - b * p) / (q - p)`. If the values have no common sign, this is a point between `a` and `b`
(`lineCrossing_mem`). The point that is computed need not be one, but it is not far away
(`crossing_error`).

## Shape of the arguments

* The two products add up to at most the magnitude of the ends, times that of the divisor: values
  without a common sign are as far apart as their magnitudes add up to (`abs_products_le`). So
  nothing is lost when the products are subtracted from each other.
* Three estimates follow the errors of the five operations, for the dividend (`dividend_error`), for
  its quotient by the computed divisor (`quotient_error`) and for the rounding of the quotient
  (`rounded_error`). They are about rational numbers; `crossing_error` puts in the doubles.
-/

namespace RootFinding.Double

open Number

/-! ## Exact lines -/

/-- Where the line with the values `p` at `a` and `q` at `b` crosses zero. -/
def lineCrossing (a b p q : ℚ) : ℚ := (a * q - b * p) / (q - p)

section Exact

variable {a b p q : ℚ}

/-- Values without a common sign are as far apart as their magnitudes add up to. -/
theorem abs_sub_of_mul_nonpos (opposite : p * q ≤ 0) : |q - p| = |q| + |p| := by
  rcases mul_nonpos_iff.1 opposite with ⟨hp, hq⟩ | ⟨hp, hq⟩
  · rw [abs_of_nonneg hp, abs_of_nonpos hq, abs_of_nonpos (by linarith)]
    ring
  · rw [abs_of_nonpos hp, abs_of_nonneg hq, abs_of_nonneg (by linarith)]
    ring

theorem abs_products_le (opposite : p * q ≤ 0) :
    |a * q| + |b * p| ≤ max |a| |b| * |q - p| := by
  rw [abs_mul, abs_mul, abs_sub_of_mul_nonpos opposite, mul_add]
  exact add_le_add (mul_le_mul_of_nonneg_right (le_max_left _ _) (abs_nonneg q))
    (mul_le_mul_of_nonneg_right (le_max_right _ _) (abs_nonneg p))

/-- A line whose values have no common sign crosses zero between them. -/
theorem lineCrossing_mem (opposite : p * q ≤ 0) (distinct : q - p ≠ 0) :
    lineCrossing a b p q ∈ Set.uIcc a b := by
  -- the crossing is a mean of the two points, with these weights
  have weights : 0 ≤ q / (q - p) ∧ 0 ≤ -p / (q - p) := by
    rcases mul_nonpos_iff.1 opposite with ⟨hp, hq⟩ | ⟨hp, hq⟩
    · exact ⟨div_nonneg_of_nonpos hq (by linarith),
        div_nonneg_of_nonpos (by linarith) (by linarith)⟩
    · exact ⟨div_nonneg hq (by linarith), div_nonneg (by linarith) (by linarith)⟩
  have total : q / (q - p) + -p / (q - p) = 1 := by
    rw [← add_div, ← sub_eq_add_neg, div_self distinct]
  have mean : q / (q - p) * a + -p / (q - p) * b = lineCrossing a b p q := by
    rw [lineCrossing]
    ring
  rw [← segment_eq_uIcc]
  exact ⟨_, _, weights.1, weights.2, total, mean⟩

theorem abs_le_of_mem_uIcc {x : ℚ} (h : x ∈ Set.uIcc a b) : |x| ≤ max |a| |b| := by
  rcases Set.mem_uIcc.1 h with ⟨above, below⟩ | ⟨above, below⟩
  · exact abs_le_max_abs_abs above below
  · exact max_comm |b| |a| ▸ abs_le_max_abs_abs above below

end Exact

/-! ## Errors -/

/-- How far a computed crossing may be away from the exact one. -/
def crossingTolerance (a b p q : ℚ) : ℚ :=
  5 * (roundoff * max |a| |b|) + (1 + 3 / |q - p|) * halfLeast

section Errors

variable {s t x y K M D N S X : ℚ}

/-- The error of the difference of two computed products. -/
theorem dividend_error (size : |s| + |t| ≤ K) (hx : |x - s| ≤ roundoff * |s| + halfLeast)
    (hy : |y - t| ≤ roundoff * |t| + halfLeast) (hN : |N - (x - y)| ≤ roundoff * |x - y|) :
    |N - (s - t)| ≤ 5 / 2 * (roundoff * K + halfLeast) := by
  have products : |x - y - (s - t)| ≤ roundoff * K + 2 * halfLeast := by
    calc |x - y - (s - t)| = |(x - s) - (y - t)| := by ring_nf
      _ ≤ |x - s| + |y - t| := abs_sub _ _
      _ ≤ roundoff * (|s| + |t|) + 2 * halfLeast := by linarith
      _ ≤ roundoff * K + 2 * halfLeast :=
        add_le_add_left (mul_le_mul_of_nonneg_left size roundoff_nonneg) _
  have difference : |x - y| ≤ K + (roundoff * K + 2 * halfLeast) := by
    calc |x - y| = |(s - t) + (x - y - (s - t))| := by ring_nf
      _ ≤ |s - t| + |x - y - (s - t)| := abs_add_le _ _
      _ ≤ K + (roundoff * K + 2 * halfLeast) := add_le_add ((abs_sub _ _).trans size) products
  have K_nonneg : 0 ≤ K := (add_nonneg (abs_nonneg s) (abs_nonneg t)).trans size
  have least := halfLeast_pos
  calc |N - (s - t)| = |(N - (x - y)) + (x - y - (s - t))| := by ring_nf
    _ ≤ |N - (x - y)| + |x - y - (s - t)| := abs_add_le _ _
    _ ≤ 5 / 2 * (roundoff * K + halfLeast) := by
      rw [roundoff] at *
      linarith

/-- The error of its quotient by a computed divisor. -/
theorem quotient_error (hM : |x| ≤ M)
    (hN : |N - x * D| ≤ 5 / 2 * (roundoff * (M * |D|) + halfLeast))
    (hS : |S - D| ≤ roundoff * |D|) (nonzero : D ≠ 0) :
    |N / S - x| ≤ 15 / 4 * (roundoff * M) + 11 / 4 * (halfLeast / |D|) := by
  have D_pos := abs_pos.2 nonzero
  have M_nonneg := (abs_nonneg x).trans hM
  have least := halfLeast_pos
  have divisor : (1 - roundoff) * |D| ≤ |S| := by
    have distance := (abs_sub_abs_le_abs_sub D S).trans (abs_sub_comm D S ▸ hS)
    linarith
  have S_pos : 0 < |S| := by
    refine (mul_pos ?_ D_pos).trans_le divisor
    rw [roundoff]
    norm_num
  have dividend : |N - x * S| ≤ 7 / 2 * (roundoff * (M * |D|)) + 5 / 2 * halfLeast := by
    calc |N - x * S| = |(N - x * D) - x * (S - D)| := by ring_nf
      _ ≤ |N - x * D| + |x| * |S - D| := abs_mul x (S - D) ▸ abs_sub _ _
      _ ≤ 5 / 2 * (roundoff * (M * |D|) + halfLeast) + M * (roundoff * |D|) :=
        add_le_add hN (mul_le_mul hM hS (abs_nonneg _) M_nonneg)
      _ = 7 / 2 * (roundoff * (M * |D|)) + 5 / 2 * halfLeast := by ring
  have quotient : N / S - x = (N - x * S) / S := by
    rw [sub_div, mul_div_cancel_right₀ x (abs_pos.1 S_pos)]
  rw [quotient, abs_div, div_le_iff₀ S_pos]
  refine dividend.trans (le_trans ?_ (mul_le_mul_of_nonneg_left divisor ?_))
  · have parts : (15 / 4 * (roundoff * M) + 11 / 4 * (halfLeast / |D|)) * ((1 - roundoff) * |D|) =
        (1 - roundoff) * (15 / 4 * (roundoff * (M * |D|)) + 11 / 4 * halfLeast) := by
      field_simp
    rw [parts]
    have product := mul_nonneg M_nonneg D_pos.le
    rw [roundoff]
    linarith
  · have first := mul_nonneg roundoff_nonneg M_nonneg
    have second := div_nonneg least.le D_pos.le
    linarith

/-- The error of the quotient when it is rounded. -/
theorem rounded_error (hM : |x| ≤ M)
    (hN : |y - x| ≤ 15 / 4 * (roundoff * M) + 11 / 4 * (halfLeast / |D|))
    (hX : |X - y| ≤ roundoff * |y| + halfLeast) :
    |X - x| ≤ 5 * (roundoff * M) + (1 + 3 / |D|) * halfLeast := by
  have M_nonneg := (abs_nonneg x).trans hM
  have least : 0 ≤ halfLeast / |D| := div_nonneg halfLeast_pos.le (abs_nonneg D)
  have size : |y| ≤ M + (15 / 4 * (roundoff * M) + 11 / 4 * (halfLeast / |D|)) := by
    linarith [abs_sub_abs_le_abs_sub y x]
  have parts : (1 + 3 / |D|) * halfLeast = halfLeast + 3 * (halfLeast / |D|) := by ring
  rw [parts]
  calc |X - x| = |(X - y) + (y - x)| := by ring_nf
    _ ≤ |X - y| + |y - x| := abs_add_le _ _
    _ ≤ 5 * (roundoff * M) + (halfLeast + 3 * (halfLeast / |D|)) := by
      rw [roundoff] at *
      linarith

end Errors

/-! ## Computed lines -/

/-- A crossing that is finite, and comes from a divisor that does not overflow, is close to the
exact one, however large the values are. -/
theorem crossing_error {a b p q : Float} (hx : ((a * q - b * p) / (q - p)).isFinite = true)
    (hdivisor : (q - p).isInf = false) (opposite : value p * value q ≤ 0) :
    value q - value p ≠ 0 ∧
      |value ((a * q - b * p) / (q - p)) -
          lineCrossing (value a) (value b) (value p) (value q)| ≤
        crossingTolerance (value a) (value b) (value p) (value q) := by
  obtain ⟨finite_dividend, divisor⟩ := isFinite_of_div hx
  have nonzero : value (q - p) ≠ 0 := divisor.resolve_left (Bool.eq_false_iff.1 hdivisor)
  obtain ⟨finite_left, finite_right⟩ := isFinite_of_sub finite_dividend
  obtain ⟨ha, hq⟩ := isFinite_of_mul finite_left
  obtain ⟨hb, hp⟩ := isFinite_of_mul finite_right
  have distinct : value q - value p ≠ 0 := by
    intro same
    exact nonzero (sub_of_value_eq hq hp (sub_eq_zero.1 same)).2
  have mem : lineCrossing (value a) (value b) (value p) (value q) ∈ _ :=
    lineCrossing_mem opposite distinct
  have exact_dividend : lineCrossing (value a) (value b) (value p) (value q) *
      (value q - value p) = value a * value q - value b * value p :=
    div_mul_cancel₀ _ distinct
  have computed_dividend := dividend_error (abs_products_le opposite)
    ((isRounding_mul ha hq).error_le finite_left) ((isRounding_mul hb hp).error_le finite_right)
    (error_sub finite_dividend)
  rw [← exact_dividend] at computed_dividend
  have magnitude := abs_le_of_mem_uIcc mem
  exact ⟨distinct, rounded_error magnitude
    (quotient_error magnitude computed_dividend
      (error_sub (isFinite_of_value_ne_zero nonzero)) distinct)
    ((isRounding_div finite_dividend nonzero).error_le hx)⟩

end RootFinding.Double
