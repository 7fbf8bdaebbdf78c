import RootFinding.Proofs.Double.Order

/-!
# Rounding to the nearest double

A magnitude that is given by a mantissa, an exponent and how what is left out compares to one half
is rounded to a double that no other one is closer to (`roundsTo_roundWithAccuracy`). If it is too
large, that is from `overflowBound` on, it is rounded to an infinity.

## Shape of the arguments

* The rounding takes the whole number that is nearest to a magnitude, in terms of a unit that is a
  power of two (`IsQuotient.nearest`).
* Every double is a whole number of units, or it is smaller than all doubles that have this unit
  (`multiple_or_small`). In either case it is not closer to the magnitude (`nearest_magnitude`).
* The nearest whole number is at most half of the unit away, which is half of the smallest double or
  a small part of the magnitude (`error_magnitude`).
* In the largest unit of doubles, the nearest number has one bit too many exactly from the midpoint
  on, because the midpoint is rounded to an even number (`large_cases`).
* `IsRoundedTo` is all that is known about the whole number. The form that it gets stands for the
  same number (`IsRoundedTo.roundsTo`), and `IsRounding` says what this means after the encoding.
-/

namespace RootFinding.Double

open Number
open Float.Model (UnpackedFloat Format)
open Float.Model.UnpackedFloat

/-- No double has a value closer to `q` than `y` is. -/
def IsNearest (q y : ℚ) : Prop :=
  ∀ u, IsCanonical u → u.isFinite = true → |y - q| ≤ |decodedValue u - q|

/-! ## Whole numbers of units -/

/-- The rounded mantissa is the whole part of the quotient if the remainder is at most half of the
divisor, or the next number if it is at least half. -/
theorem IsQuotient.roundedMantissa_cases {n d : Nat} (positive : 0 < d) {em : ExtendedMantissa}
    (h : IsQuotient n d em) :
    (em.roundedMantissa = n / d ∧ 2 * (n % d) ≤ d) ∨
      (em.roundedMantissa = n / d + 1 ∧ d ≤ 2 * (n % d)) := by
  obtain ⟨mantissa, roundBit, stickyBit⟩ := em
  obtain ⟨hmantissa, hround, hsticky⟩ := h
  dsimp only at hmantissa hround hsticky
  rw [← hmantissa]
  have parity := Nat.mod_two_eq_zero_or_one mantissa
  cases roundBit <;> cases stickyBit <;>
    simp [ExtendedMantissa.roundedMantissa, ExtendedMantissa.accuracy,
      Accuracy.roundToNearestEven] at hround hsticky ⊢ <;> omega

/-- If the remainder is half of the divisor, the rounded mantissa is even. -/
theorem IsQuotient.even_of_half {n d : Nat} {em : ExtendedMantissa}
    (h : IsQuotient n d em) (half : 2 * (n % d) = d) : em.roundedMantissa % 2 = 0 := by
  obtain ⟨mantissa, roundBit, stickyBit⟩ := em
  obtain ⟨-, hround, hsticky⟩ := h
  dsimp only at hround hsticky
  have parity := Nat.mod_two_eq_zero_or_one mantissa
  cases roundBit <;> cases stickyBit <;>
    simp [ExtendedMantissa.roundedMantissa, ExtendedMantissa.accuracy,
      Accuracy.roundToNearestEven] at hround hsticky ⊢ <;> omega

/-- The rounded mantissa is at most half a unit away from the quotient. -/
theorem IsQuotient.nearest {n d : Nat} (positive : 0 < d) {em : ExtendedMantissa}
    (h : IsQuotient n d em) : 2 * |(em.roundedMantissa : ℤ) * d - n| ≤ d := by
  have division : ((n / d : Nat) : ℤ) * d + (n % d : Nat) = n := by
    exact_mod_cast Nat.div_add_mod' n d
  rcases h.roundedMantissa_cases positive with ⟨hr, low⟩ | ⟨hr, high⟩
  · have distance : ((n / d : Nat) : ℤ) * d - n = -(n % d : Nat) := by linarith
    rw [hr, distance, abs_neg, Nat.abs_cast]
    exact_mod_cast low
  · have distance : ((n / d + 1 : Nat) : ℤ) * d - n = d - (n % d : Nat) := by
      rw [Nat.cast_succ]
      linarith
    have below : (n % d : Nat) < d := Nat.mod_lt n positive
    rw [hr, distance, abs_of_nonneg (by omega)]
    omega

/-- A multiple of a unit that is at most half of it away is the nearest multiple. -/
theorem nearest_multiple {r m unit : ℤ} (h : 2 * |r * unit - m| ≤ unit) (n : ℤ) :
    |r * unit - m| ≤ |n * unit - m| := by
  rcases eq_or_ne n r with rfl | hne
  · exact le_rfl
  · have unit_nonneg : 0 ≤ unit := (mul_nonneg zero_le_two (abs_nonneg _)).trans h
    have apart : (1 : ℤ) ≤ |n - r| := Int.one_le_abs (sub_ne_zero.2 hne)
    have multiples : unit ≤ |n * unit - r * unit| := by
      rw [← sub_mul, abs_mul, abs_of_nonneg unit_nonneg]
      exact le_mul_of_one_le_left unit_nonneg apart
    have triangle : |n * unit - r * unit| ≤ |n * unit - m| + |r * unit - m| := by
      rw [abs_sub_comm (r * unit) m]
      exact abs_sub_le _ _ _
    linarith

/-! ## Doubles and units -/

/-- A double is a multiple of a unit, or it is smaller than all numbers of 53 bits in this unit. -/
theorem multiple_or_small {u : UnpackedFloat} (canonical : IsCanonical u)
    (finite : u.isFinite = true) (t : Int) :
    (∃ n : ℤ, decodedValue u = n * 2 ^ t) ∨ (-1074 < t ∧ |decodedValue u| < 2 ^ 52 * 2 ^ t) := by
  cases u with
  | infinity s => cases finite
  | notANumber => cases finite
  | zero s => exact .inl ⟨0, by rw [Int.cast_zero, zero_mul]; rfl⟩
  | finite s m e positive =>
    by_cases above : t ≤ e
    · refine .inl ⟨s.apply m * 2 ^ (e - t).toNat, ?_⟩
      have exponent_eq : e = ((e - t).toNat : Int) + t := by omega
      rw [decodedValue]
      nth_rewrite 1 [exponent_eq]
      rw [zpow_add₀ two_ne_zero, zpow_natCast]
      push_cast
      ring
    · have least := canonical.2.1
      have magnitude : (0 : ℚ) ≤ m * 2 ^ e := by positivity
      have magnitude_eq : |decodedValue (.finite s m e positive)| = m * 2 ^ e := by
        rw [decodedValue_finite, abs_signed, abs_of_nonneg magnitude]
      have small := magnitude_lt canonical.1 (le_refl (2 ^ 52)) (not_le.1 above)
      rw [magnitude_eq]
      exact .inr ⟨by omega, by exact_mod_cast small⟩

theorem scaled_sub (k n : ℤ) {d : Nat} (positive : 0 < d) (t : Int) :
    (k : ℚ) * 2 ^ t - n / d * 2 ^ t = ((k * d - n : ℤ) : ℚ) * (2 ^ t / d) := by
  have nonzero : (d : ℚ) ≠ 0 := Nat.cast_ne_zero.2 positive.ne'
  push_cast
  field_simp

theorem abs_scaled (k : ℤ) (d : Nat) (t : Int) :
    |(k : ℚ) * (2 ^ t / d)| = ((|k| : ℤ) : ℚ) * (2 ^ t / d) := by
  have unit_nonneg : (0 : ℚ) ≤ 2 ^ t / d := by positivity
  rw [abs_mul, Int.cast_abs, abs_of_nonneg unit_nonneg]

/-- The nearest multiple of the unit that a magnitude is rounded to is at least as close to it as
any double, if the magnitude has 53 bits in this unit or the unit is that of the smallest double. -/
theorem nearest_magnitude {n d : Nat} (positive : 0 < d) {t : Int} {r : Nat}
    (hr : 2 * |(r : ℤ) * d - n| ≤ d) (leading : t ≤ -1074 ∨ 2 ^ 52 * d ≤ n) {u : UnpackedFloat}
    (canonical : IsCanonical u) (finite : u.isFinite = true) :
    |(r : ℚ) * 2 ^ t - n / d * 2 ^ t| ≤ |decodedValue u - n / d * 2 ^ t| := by
  have unit_nonneg : (0 : ℚ) ≤ 2 ^ t / d := by positivity
  have closest (k : ℤ) : |(r : ℚ) * 2 ^ t - n / d * 2 ^ t| ≤ |(k : ℚ) * 2 ^ t - n / d * 2 ^ t| := by
    have nearest := nearest_multiple hr k
    have left := scaled_sub r n positive t
    have right := scaled_sub k n positive t
    rw [Int.cast_natCast, Int.cast_natCast] at left
    rw [Int.cast_natCast] at right
    rw [left, right, abs_scaled, abs_scaled]
    exact mul_le_mul_of_nonneg_right (by exact_mod_cast nearest) unit_nonneg
  rcases multiple_or_small canonical finite t with ⟨k, hk⟩ | ⟨above, small⟩
  · rw [hk]
    exact closest k
  · -- the double is on the other side of the least number of 53 bits
    have full : (2 : ℚ) ^ 52 ≤ n / d := by
      rw [le_div_iff₀ (by exact_mod_cast positive)]
      exact_mod_cast leading.resolve_left (by omega)
    have least := mul_le_mul_of_nonneg_right full (zpow_nonneg zero_le_two t)
    have below := (le_abs_self _).trans_lt small
    have bound := closest (2 ^ 52)
    rw [Int.cast_pow, Int.cast_ofNat, abs_of_nonpos (sub_nonpos.2 least)] at bound
    rw [abs_of_nonpos (sub_nonpos.2 (below.le.trans least))]
    linarith

theorem two_zpow_le {s t : Int} (h : s ≤ t) : (2 : ℚ) ^ s ≤ 2 ^ t :=
  zpow_le_zpow_right₀ one_le_two h

/-- The magnitude is rounded by at most half of the unit. This is half of the smallest double, or a
small part of the magnitude. -/
theorem error_magnitude {n d : Nat} (positive : 0 < d) {t : Int} {r : Nat}
    (hr : 2 * |(r : ℤ) * d - n| ≤ d) (leading : t ≤ -1074 ∨ 2 ^ 52 * d ≤ n) :
    |(r : ℚ) * 2 ^ t - n / d * 2 ^ t| ≤ max halfLeast (n / d * 2 ^ t / 2 ^ 53) := by
  have unit_pos : (0 : ℚ) < 2 ^ t := zpow_pos two_pos t
  have divisor_pos : (0 : ℚ) < d := Nat.cast_pos.2 positive
  have half : |(r : ℚ) * 2 ^ t - n / d * 2 ^ t| ≤ 2 ^ t / 2 := by
    have scaled := scaled_sub r n positive t
    have bound : 2 * ((|(r : ℤ) * d - n| : ℤ) : ℚ) ≤ d := by exact_mod_cast hr
    rw [Int.cast_natCast, Int.cast_natCast] at scaled
    rw [scaled, abs_scaled, ← mul_div_assoc, div_le_div_iff₀ divisor_pos two_pos]
    linarith only [mul_le_mul_of_nonneg_left bound unit_pos.le]
  rcases leading with least | full
  · refine half.trans (le_max_of_le_left ?_)
    have unit_le := two_zpow_le least
    rw [halfLeast, show (-1075 : ℤ) = -1074 - 1 from rfl, zpow_sub_one₀ two_ne_zero]
    exact div_le_div_of_nonneg_right unit_le zero_le_two
  · refine half.trans (le_max_of_le_right ?_)
    have quotient_le : (2 : ℚ) ^ 52 ≤ n / d := by
      rw [le_div_iff₀ divisor_pos]
      exact_mod_cast full
    rw [le_div_iff₀ (by positivity)]
    linarith only [mul_le_mul_of_nonneg_right quotient_le unit_pos.le]

/-! ## Rounding -/

/-- What rounding leaves: a mantissa of 53 bits, or fewer with the smallest exponent. Only the
exponent may be too large for a double. -/
def IsReduced : UnpackedFloat → Prop
  | .finite _ m e _ => m < 2 ^ 53 ∧ -1074 ≤ e ∧ (2 ^ 52 ≤ m ∨ e = -1074)
  | _ => True

/-- The number that a decoded form stands for is rounded to the nearest double, if it is not too
large for one. -/
structure IsRounded (q : ℚ) (u : UnpackedFloat) : Prop where
  finite : u.isFinite = true
  reduced : IsReduced u
  nearest : IsNearest q (decodedValue u)

/-- The midpoint between the largest double and the power of two after it. Magnitudes from here on
are too large for a double. -/
def overflowBound : ℚ := (2 ^ 54 - 1) * 2 ^ (970 : ℤ)

theorem overflowBound_pos : 0 < overflowBound :=
  mul_pos (by norm_num) (zpow_pos two_pos _)

/-- The unit of the largest doubles. -/
theorem largest_unit_eq : (2 : ℚ) ^ (971 : ℤ) = 2 * 2 ^ (970 : ℤ) := by
  rw [← zpow_one_add₀ two_ne_zero]
  norm_num

/-- A form with an exponent that no double has. -/
def IsTooLarge : UnpackedFloat → Prop
  | .finite _ _ e _ => 971 < e
  | _ => False

/-- A decoded form is what a number is rounded to. It is too large for a double if the number is. -/
structure RoundsTo (q : ℚ) (u : UnpackedFloat) : Prop extends IsRounded q u where
  error : |decodedValue u - q| ≤ max halfLeast (|q| / 2 ^ 53)
  overflow : overflowBound ≤ |q| → IsTooLarge u

/-- A number of units that exceeds one of larger units is the larger number. -/
theorem le_of_units {p q : ℚ} {s t : Int} (nonneg : 0 ≤ q) (le : t ≤ s)
    (h : p * 2 ^ s ≤ q * 2 ^ t) : p ≤ q :=
  (mul_le_mul_iff_left₀ (zpow_pos two_pos s)).1
    (h.trans (mul_le_mul_of_nonneg_left (two_zpow_le le) nonneg))

section Bits

variable {n d : Nat} (positive : 0 < d) {e : Int}

include positive

/-- The rounded mantissa has at most 53 bits, or is the least number of 54 bits. -/
theorem roundedMantissa_le {em : ExtendedMantissa}
    (h : IsQuotient n (d * 2 ^ shiftAmount (n / d) e) em) : em.roundedMantissa ≤ 2 ^ 53 := by
  have high : n / d < 2 ^ ((n / d).log2 + 1) := Nat.lt_log2_self
  have bits : n / (d * 2 ^ shiftAmount (n / d) e) < 2 ^ 53 := by
    rw [← Nat.div_div_eq_div_mul, Nat.div_lt_iff_lt_mul (Nat.two_pow_pos _), ← Nat.pow_add]
    refine lt_of_lt_of_le high (Nat.pow_le_pow_right Nat.two_pos ?_)
    rw [shiftAmount]
    omega
  rcases h.roundedMantissa_cases (Nat.mul_pos positive (Nat.two_pow_pos _)) with ⟨hr, -⟩ | ⟨hr, -⟩
  · omega
  · omega

/-- If bits above the unit of the smallest double are shifted out, 53 bits are left. -/
theorem leading_le (fits : 52 ≤ (n / d).log2 ∨ e ≤ -1074)
    (above : e + shiftAmount (n / d) e ≠ -1074) :
    2 ^ 52 * (d * 2 ^ shiftAmount (n / d) e) ≤ n := by
  have nonzero : n / d ≠ 0 := by
    intro zero
    rw [zero, Nat.log2_zero] at fits
    rw [zero, shiftAmount, Nat.log2_zero] at above
    omega
  have low : 2 ^ (n / d).log2 ≤ n / d := Nat.log2_self_le nonzero
  have bits : 2 ^ 52 ≤ n / d / 2 ^ shiftAmount (n / d) e := by
    rw [Nat.le_div_iff_mul_le (Nat.two_pow_pos _), ← Nat.pow_add]
    refine le_trans (Nat.pow_le_pow_right Nat.two_pos ?_) low
    rw [shiftAmount] at above ⊢
    omega
  rw [Nat.div_div_eq_div_mul] at bits
  exact (Nat.le_div_iff_mul_le (Nat.mul_pos positive (Nat.two_pow_pos _))).1 bits

theorem le_roundedMantissa {em : ExtendedMantissa} (h : IsQuotient n d em) (full : 2 ^ 52 * d ≤ n) :
    2 ^ 52 ≤ em.roundedMantissa := by
  have bits : 2 ^ 52 ≤ n / d := (Nat.le_div_iff_mul_le positive).2 full
  rcases h.roundedMantissa_cases positive with ⟨hr, -⟩ | ⟨hr, -⟩
  · omega
  · omega

/-! ## Magnitudes that are too large -/

/-- A quotient between the largest number of 53 bits and the next number leaves half of its divisor
as the remainder. -/
theorem half_of_tie (tie : 2 * n = (2 ^ 54 - 1) * d) : 2 * (n % d) = d := by
  obtain ⟨h, rfl⟩ : 2 ∣ d :=
    Nat.Coprime.dvd_of_dvd_mul_left (by norm_num) (tie ▸ Nat.dvd_mul_right 2 n)
  have split : n = (2 ^ 53 - 1) * (2 * h) + h := by omega
  rw [split, Nat.mul_add_mod', Nat.mod_eq_of_lt (by omega)]

/-- A quotient that is rounded to 53 bits has no more bits than that. -/
theorem lt_of_rounded_le {r : Nat} (hr : 2 * |(r : ℤ) * d - n| ≤ d) (bits : r ≤ 2 ^ 53) :
    (n : ℤ) < (2 ^ 54 - 1) * d := by
  have above := (abs_le.1 (show |2 * ((r : ℤ) * d - n)| ≤ d by rwa [abs_mul])).1
  have few : (r : ℤ) * d ≤ 2 ^ 53 * d :=
    mul_le_mul_of_nonneg_right (by exact_mod_cast bits) (Int.natCast_nonneg d)
  have divisor_pos : (0 : ℤ) < d := by exact_mod_cast positive
  linarith only [above, few, divisor_pos]

/-- From the midpoint between the largest number of 53 bits and the next number on, a quotient is
rounded up. -/
theorem le_rounded_of_midpoint_le {r : Nat} (hr : 2 * |(r : ℤ) * d - n| ≤ d)
    (even : 2 * (n % d) = d → r % 2 = 0) (large : (2 ^ 54 - 1) * (d : ℤ) ≤ 2 * n) :
    2 ^ 53 ≤ r := by
  have above := (abs_le.1 (show |2 * ((r : ℤ) * d - n)| ≤ d by rwa [abs_mul])).1
  have divisor_pos : (0 : ℤ) < d := by exact_mod_cast positive
  have product_le {k : ℤ} (h : (r : ℤ) ≤ k) : (r : ℤ) * d ≤ k * d :=
    mul_le_mul_of_nonneg_right h divisor_pos.le
  by_contra fewer
  have most : (r : ℤ) ≤ 2 ^ 53 - 1 := by clear large; omega
  have most_even (h : r % 2 = 0) : (r : ℤ) ≤ 2 ^ 53 - 2 := by clear large; omega
  -- the quotient is the midpoint itself, so the result is even, which leaves it one less
  have tie : 2 * (n : ℤ) = (2 ^ 54 - 1) * d := by linarith only [large, product_le most, above]
  have parity := even (half_of_tie positive (by zify; exact tie))
  linarith only [large, product_le (most_even parity), above, divisor_pos]

/-- A magnitude that is too large for a double is rounded in a unit that is too large, or to the
least number of 54 bits in the largest unit of doubles. -/
theorem large_cases {r : Nat} {t : Int} (hr : 2 * |(r : ℤ) * d - n| ≤ d)
    (even : 2 * (n % d) = d → r % 2 = 0) (bits : r ≤ 2 ^ 53)
    (large : overflowBound ≤ n / d * 2 ^ t) : 971 < t ∨ (t = 971 ∧ r = 2 ^ 53) := by
  have divisor_pos : (0 : ℚ) < d := Nat.cast_pos.2 positive
  rw [overflowBound] at large
  rcases lt_trichotomy t 971 with below | rfl | above
  · have units := le_of_units (by positivity) (by omega) large
    rw [le_div_iff₀ divisor_pos] at units
    exact absurd (lt_of_rounded_le positive hr bits) (not_lt.2 (by exact_mod_cast units))
  · have halves : ((2 : ℚ) ^ 54 - 1) * 2 ^ (970 : ℤ) ≤ 2 * n / d * 2 ^ (970 : ℤ) := by
      refine large.trans_eq ?_
      rw [largest_unit_eq, ← mul_assoc, div_mul_eq_mul_div, mul_comm (n : ℚ)]
    have units := le_of_units (by positivity) le_rfl halves
    rw [le_div_iff₀ divisor_pos] at units
    refine .inr ⟨rfl, le_antisymm bits ?_⟩
    exact le_rounded_of_midpoint_le positive hr even (by exact_mod_cast units)
  · exact .inl above

end Bits

/-- A mantissa that takes one bit too many is halved, and nothing is lost by it. -/
theorem leading_bits_exact {r : Nat} (bits : r ≤ 2 ^ 53) :
    r / 2 ^ (r.log2 - 52) * 2 ^ (r.log2 - 52) = r ∧
      (2 ^ 52 ≤ r / 2 ^ (r.log2 - 52) ∨ r.log2 - 52 = 0) := by
  rcases Nat.lt_or_eq_of_le bits with below | rfl
  · have short : r.log2 - 52 = 0 := by
      rcases Nat.eq_zero_or_pos r with rfl | pos
      · rfl
      · have := (Nat.log2_lt pos.ne').2 below
        omega
    rw [short, Nat.pow_zero, Nat.div_one, Nat.mul_one]
    exact ⟨rfl, .inr rfl⟩
  · rw [Nat.log2_two_pow]
    exact ⟨by decide, .inl (by decide)⟩

theorem IsCanonical.neg {u : UnpackedFloat} (h : IsCanonical u) : IsCanonical u.neg := by
  cases u with
  | finite sign m e positive => exact h
  | _ => trivial

theorem isFinite_neg (u : UnpackedFloat) : u.neg.isFinite = u.isFinite := by
  cases u with
  | _ => rfl

theorem signed_zero (sign : Sign) : signed sign 0 = 0 := by
  cases sign with
  | positive => rfl
  | negative => exact neg_zero

theorem signed_neg (sign : Sign) (q : ℚ) : signed (-sign) q = -signed sign q := by
  cases sign with
  | positive => rfl
  | negative => exact (neg_neg q).symm

theorem decodedValue_opposite (u : UnpackedFloat) : decodedValue u.neg = -decodedValue u := by
  cases u with
  | finite s m e positive =>
    rw [UnpackedFloat.neg, decodedValue_finite, decodedValue_finite, signed_neg]
  | _ => exact neg_zero.symm

/-- The opposite of a number is rounded to the opposite. -/
theorem IsNearest.signed {q y : ℚ} (h : IsNearest q y) (sign : Sign) :
    IsNearest (signed sign q) (Double.signed sign y) := by
  cases sign with
  | positive => exact h
  | negative =>
    intro u canonical finite
    have opposite := h u.neg canonical.neg ((isFinite_neg u).trans finite)
    rw [decodedValue_opposite, ← abs_neg, neg_sub] at opposite
    show |-y - -q| ≤ |decodedValue u - -q|
    rw [neg_sub_neg, sub_neg_eq_add]
    refine opposite.trans_eq ?_
    rw [← abs_neg, neg_sub, sub_neg_eq_add, add_comm]

theorem signed_sub (sign : Sign) (p q : ℚ) :
    signed sign p - signed sign q = signed sign (p - q) := by
  cases sign with
  | positive => rfl
  | negative => exact (neg_sub_neg p q).trans (neg_sub p q).symm

theorem signed_signed (sign : Sign) (q : ℚ) : signed sign (signed sign q) = q := by
  cases sign with
  | positive => rfl
  | negative => exact neg_neg q

/-- A magnitude is rounded to `r` units of `2 ^ t`. Unless this is the unit of the smallest double,
`r` has 53 bits, or is the least number of 54 bits. -/
structure IsRoundedTo (q : ℚ) (r : Nat) (t : Int) : Prop where
  nonneg : 0 ≤ q
  bits : r ≤ 2 ^ 53
  low : -1074 ≤ t
  leading : t ≠ -1074 → 2 ^ 52 ≤ r
  nearest : IsNearest q (r * 2 ^ t)
  error : |r * 2 ^ t - q| ≤ max halfLeast (q / 2 ^ 53)
  large : overflowBound ≤ q → 971 < t ∨ (t = 971 ∧ r = 2 ^ 53)

/-- The quotient of two whole numbers, times a power of two, is rounded to a number of units. It is
given by its whole part and by how the rest compares to one half. -/
theorem isRoundedTo_roundedMantissa {n d : Nat} (positive : 0 < d) {e : Int}
    (fits : 52 ≤ (n / d).log2 ∨ e ≤ -1074) {em : ExtendedMantissa} (h : IsQuotient n d em) :
    IsRoundedTo (n / d * 2 ^ e) (em >>> shiftAmount (n / d) e).roundedMantissa
      (e + shiftAmount (n / d) e) := by
  have quotient := h.shiftRight positive (shiftAmount (n / d) e)
  have unit_pos : 0 < d * 2 ^ shiftAmount (n / d) e := Nat.mul_pos positive (Nat.two_pow_pos _)
  have nearest := quotient.nearest unit_pos
  have bits := roundedMantissa_le positive quotient
  have full := leading_le positive fits
  have magnitude_eq : (n : ℚ) / d * 2 ^ e =
      n / (d * 2 ^ shiftAmount (n / d) e : Nat) * 2 ^ (e + shiftAmount (n / d) e) := by
    rw [zpow_add₀ two_ne_zero, zpow_natCast]
    push_cast
    field_simp
  have least_or_full : e + shiftAmount (n / d) e ≤ -1074 ∨
      2 ^ 52 * (d * 2 ^ shiftAmount (n / d) e) ≤ n :=
    Classical.or_iff_not_imp_left.2 fun above => full (by omega)
  refine ⟨by positivity, bits, le_add_shiftAmount _ _,
    fun above => le_roundedMantissa unit_pos quotient (full above), ?_, ?_, ?_⟩
  · rw [magnitude_eq]
    exact fun u canonical finite =>
      nearest_magnitude unit_pos nearest least_or_full canonical finite
  · rw [magnitude_eq]
    exact error_magnitude unit_pos nearest least_or_full
  · rw [magnitude_eq]
    exact large_cases unit_pos nearest quotient.even_of_half bits

/-- The form stands for the rounded magnitude, and has an exponent that no double has if the
magnitude is too large. -/
theorem IsRoundedTo.roundsTo {q : ℚ} {r : Nat} {t : Int} (h : IsRoundedTo q r t) (sign : Sign) :
    RoundsTo (signed sign q) (formOf sign r t) := by
  obtain ⟨whole, halved⟩ := leading_bits_exact h.bits
  have large (above : overflowBound ≤ |signed sign q|) : 971 < t ∨ (t = 971 ∧ r = 2 ^ 53) := by
    rw [abs_signed, abs_of_nonneg h.nonneg] at above
    exact h.large above
  have nearest := h.nearest.signed sign
  have error : |signed sign (r * 2 ^ t) - signed sign q| ≤
      max halfLeast (|signed sign q| / 2 ^ 53) := by
    rw [signed_sub, abs_signed, abs_signed, abs_of_nonneg h.nonneg]
    exact h.error
  have low := h.low
  rw [formOf]
  split
  · next none =>
    have nothing : r = 0 := by rw [← whole, none, Nat.zero_mul]
    have value_eq : decodedValue (.zero sign) = signed sign (r * 2 ^ t) := by
      rw [nothing, Nat.cast_zero, zero_mul, signed_zero]
      rfl
    rw [← value_eq] at nearest error
    refine ⟨⟨rfl, trivial, nearest⟩, error, fun above => ?_⟩
    -- the unit is not the smallest one, so 53 bits are left
    have := large above
    have := h.leading (by omega)
    omega
  · next some =>
    have pos : 0 < r := by
      refine Nat.pos_of_ne_zero ?_
      rintro rfl
      exact some (Nat.zero_div _)
    have value_eq : decodedValue (.finite sign (r / 2 ^ (r.log2 - 52)) (t + (r.log2 - 52 : Nat))
        (Nat.pos_of_ne_zero some)) = signed sign (r * 2 ^ t) := by
      have whole_cast : ((r / 2 ^ (r.log2 - 52) : Nat) : ℚ) * 2 ^ (r.log2 - 52) = r := by
        exact_mod_cast whole
      rw [decodedValue_finite, zpow_add₀ two_ne_zero, zpow_natCast, mul_left_comm, whole_cast,
        mul_comm]
    rw [← value_eq] at nearest error
    refine ⟨⟨rfl, ⟨(leading_bits pos).2, by omega, ?_⟩, nearest⟩, error, fun above => ?_⟩
    · rcases halved with halved | exact_bits
      · exact .inl halved
      · rw [exact_bits, Nat.pow_zero, Nat.div_one]
        by_cases least : t = -1074
        · exact .inr (by omega)
        · exact .inl (h.leading least)
    · show 971 < t + (r.log2 - 52 : Nat)
      rcases large above with beyond | ⟨top, rfl⟩
      · omega
      · rw [Nat.log2_two_pow]
        omega

/-- The quotient of two whole numbers, times a power of two, is rounded to the nearest double. -/
theorem roundsTo_roundWithAccuracy (sign : Sign) {n d : Nat} (positive : 0 < d) {e : Int}
    (fits : 52 ≤ (n / d).log2 ∨ e ≤ -1074) {accuracy : Accuracy}
    (h : IsQuotient n d (.ofMantissaAndAccuracy (n / d) accuracy)) :
    RoundsTo (signed sign (n / d * 2 ^ e))
      (roundWithAccuracy .binary64 sign (n / d) e accuracy) := by
  rw [roundWithAccuracy_eq]
  exact (isRoundedTo_roundedMantissa positive fits h).roundsTo sign

/-- A magnitude with a sign is rounded to the nearest double. -/
theorem roundsTo_exact (sign : Sign) {m : Nat} {e : Int} (fits : 52 ≤ m.log2 ∨ e ≤ -1074) :
    RoundsTo (signed sign (m * 2 ^ e)) (roundWithAccuracy .binary64 sign m e .exact) := by
  have whole : IsQuotient m 1 (.ofMantissaAndAccuracy (m / 1) .exact) := by
    rw [Nat.div_one]
    exact isQuotient_one m
  have rounds := roundsTo_roundWithAccuracy sign Nat.one_pos (by rwa [Nat.div_one]) whole
  rwa [Nat.div_one, Nat.cast_one, div_one] at rounds

/-- A smaller exponent with more bits is the same number. -/
theorem decreaseExponent_value (m : Nat) (e t : Int) :
    ((decreaseExponent m e t).1 : ℚ) * 2 ^ (decreaseExponent m e t).2 = m * 2 ^ e := by
  have exponents : ((e - t).toNat : Int) + (e - (e - t).toNat) = e := by omega
  show ((m <<< (e - t).toNat : Nat) : ℚ) * 2 ^ (e - (e - t).toNat) = m * 2 ^ e
  rw [Nat.shiftLeft_eq, Nat.cast_mul, Nat.cast_pow, Nat.cast_ofNat, mul_assoc, ← zpow_natCast,
    ← zpow_add₀ two_ne_zero, exponents]

/-- A positive magnitude with a sign is rounded to the nearest double, whatever its exponent. -/
theorem roundsTo_round (sign : Sign) {m : Nat} (positive : 0 < m) (e : Int) :
    RoundsTo (signed sign (m * 2 ^ e)) (UnpackedFloat.round .binary64 sign m e) := by
  unfold UnpackedFloat.round
  generalize ht : Format.binary64.targetExponent (Float.Model.totalExponent m e) = t
  rw [targetExponent_eq, Float.Model.totalExponent] at ht
  rw [← decreaseExponent_value m e t]
  have more : 0 < (decreaseExponent m e t).1 := by
    show 0 < m <<< (e - t).toNat
    rw [Nat.shiftLeft_eq]
    exact Nat.mul_pos positive (Nat.two_pow_pos _)
  refine roundsTo_exact sign ?_
  by_cases least : e - (e - t).toNat ≤ -1074
  · exact .inr least
  · -- the exponent is lowered until there are 53 bits
    refine .inl ((Nat.le_log2 more.ne').2 ?_)
    show 2 ^ 52 ≤ m <<< (e - t).toNat
    rw [Nat.shiftLeft_eq]
    have low : 2 ^ m.log2 ≤ m := Nat.log2_self_le positive.ne'
    calc 2 ^ 52 ≤ 2 ^ (m.log2 + (e - t).toNat) := Nat.pow_le_pow_right Nat.two_pos (by omega)
      _ = 2 ^ m.log2 * 2 ^ (e - t).toNat := Nat.pow_add _ _ _
      _ ≤ m * 2 ^ (e - t).toNat := Nat.mul_le_mul_right _ low

/-- The magnitude of a double is less than that of any number that is too large for one. -/
theorem abs_decodedValue_lt {u : UnpackedFloat} (canonical : IsCanonical u) :
    |decodedValue u| < overflowBound := by
  cases u with
  | finite sign m e positive =>
    obtain ⟨bits, -, high, -⟩ := canonical
    have mantissa_lt : 2 * (m : ℚ) < 2 ^ 54 - 1 := by
      have whole : 2 * (m : ℤ) < 2 ^ 54 - 1 := by omega
      exact_mod_cast whole
    rw [decodedValue_finite, abs_signed, abs_of_nonneg (by positivity)]
    calc (m : ℚ) * 2 ^ e ≤ m * 2 ^ (971 : ℤ) :=
          mul_le_mul_of_nonneg_left (two_zpow_le high) (Nat.cast_nonneg m)
      _ = 2 * m * 2 ^ (970 : ℤ) := by rw [largest_unit_eq, ← mul_assoc, mul_comm (m : ℚ)]
      _ < overflowBound := mul_lt_mul_of_pos_right mantissa_lt (zpow_pos two_pos _)
  | _ => exact abs_zero.trans_lt overflowBound_pos

/-- A double is rounded to itself. -/
theorem roundsTo_self {u : UnpackedFloat} (canonical : IsCanonical u)
    (finite : u.isFinite = true) : RoundsTo (decodedValue u) u := by
  refine ⟨⟨finite, ?_, fun v _ _ => ?_⟩, ?_, fun large => ?_⟩
  · cases u with
    | finite sign m e positive => exact ⟨canonical.1, canonical.2.1, canonical.2.2.2⟩
    | _ => trivial
  · rw [sub_self, abs_zero]
    exact abs_nonneg _
  · rw [sub_self, abs_zero]
    exact le_max_of_le_left halfLeast_pos.le
  · exact absurd large (not_le.2 (abs_decodedValue_lt canonical))

theorem roundsTo_zero (sign : Sign) : RoundsTo 0 (.zero sign) :=
  roundsTo_self (u := .zero sign) trivial rfl

/-- A number is rounded to the nearest double. -/
theorem roundsTo_normalize (n e : Int) (sign : Sign) :
    RoundsTo (n * 2 ^ e) (UnpackedFloat.normalize .binary64 n e sign) := by
  unfold UnpackedFloat.normalize
  rcases lt_trichotomy n 0 with negative | rfl | positive
  · have magnitude : (n : ℚ) * 2 ^ e = signed .negative ((-n).toNat * 2 ^ e) := by
      have cast : (((-n).toNat : Nat) : ℚ) = -n := by
        rw [← Int.cast_natCast, Int.toNat_of_nonneg (by omega), Int.cast_neg]
      rw [signed, cast, neg_mul, neg_neg]
    rw [compare_lt_iff_lt.2 negative, magnitude]
    exact roundsTo_round .negative (by omega) e
  · rw [compare_eq_iff_eq.2 rfl, Int.cast_zero, zero_mul]
    exact roundsTo_zero sign
  · have magnitude : (n : ℚ) * 2 ^ e = signed .positive (n.toNat * 2 ^ e) := by
      have cast : ((n.toNat : Nat) : ℚ) = n := by
        rw [← Int.cast_natCast, Int.toNat_of_nonneg positive.le]
      rw [signed, cast]
    rw [compare_gt_iff_gt.2 positive, magnitude]
    exact roundsTo_round .positive (by omega) e

/-! ## Encoding -/

/-- A form that is too large is encoded as an infinity. -/
theorem unpack_pack_of_isTooLarge {u : UnpackedFloat} (h : IsTooLarge u) :
    ∃ sign, unpack .binary64 (pack .binary64 u) = .infinity sign := by
  cases u with
  | finite sign m e positive =>
    have above : 971 < e := h
    refine ⟨sign, ?_⟩
    rw [pack]
    change unpack .binary64
      (if 2 ^ 11 ≤ (e + 1023 + 52).toNat + 1 then packedInfinity .binary64 sign
        else _) = .infinity sign
    rw [if_pos (by omega)]
    cases sign with
    | positive => rfl
    | negative => rfl
  | _ => cases h

/-- What is left of a number is a double, or too large for one. -/
theorem IsReduced.isCanonical_or {u : UnpackedFloat} (h : IsReduced u) :
    IsCanonical u ∨ IsTooLarge u := by
  cases u with
  | finite sign m e positive =>
    rcases le_or_gt e 971 with high | above
    · exact .inl ⟨h.1, h.2.1, high, h.2.2⟩
    · exact .inr above
  | _ => exact .inl trivial

/-- A rounded number that is encoded as a finite double has the form of a double. -/
theorem IsRounded.isCanonical {q : ℚ} {u : UnpackedFloat} (h : IsRounded q u)
    (finite : (unpack .binary64 (pack .binary64 u)).isFinite = true) : IsCanonical u := by
  refine h.reduced.isCanonical_or.resolve_right fun above => ?_
  obtain ⟨sign, hsign⟩ := unpack_pack_of_isTooLarge above
  rw [hsign] at finite
  cases finite

/-- The mantissa and the exponent of what is too large leave a gap to the largest double. -/
theorem two_pow_le_of_isReduced {sign : Sign} {m : Nat} {e : Int} {positive : 0 < m}
    (reduced : IsReduced (.finite sign m e positive)) (above : 971 < e) :
    (2 : ℚ) ^ 54 * 2 ^ (970 : ℤ) ≤ m * 2 ^ e := by
  have full : (2 : ℚ) ^ 52 ≤ m := by exact_mod_cast reduced.2.2.resolve_right (by omega)
  calc (2 : ℚ) ^ 54 * 2 ^ (970 : ℤ) = 2 ^ 53 * 2 ^ (971 : ℤ) := by
        rw [largest_unit_eq, ← mul_assoc, ← pow_succ]
    _ = 2 ^ 52 * 2 ^ (971 + 1 : ℤ) := by
        rw [zpow_add_one₀ two_ne_zero, mul_left_comm, ← pow_succ, mul_comm]
    _ ≤ m * 2 ^ e :=
        mul_le_mul full (two_zpow_le (by omega)) (zpow_nonneg zero_le_two _) (Nat.cast_nonneg m)

/-- A number that is small enough is rounded to a double: the largest double is closer to it than
what is too large. -/
theorem IsRounded.isCanonical_of_lt {q : ℚ} {u : UnpackedFloat} (h : IsRounded q u)
    (small : |q| < overflowBound) : IsCanonical u := by
  refine h.reduced.isCanonical_or.resolve_right fun above => ?_
  cases u with
  | finite sign m e positive =>
    have least := two_pow_le_of_isReduced h.reduced above
    have unit_pos : (0 : ℚ) < 2 ^ (970 : ℤ) := zpow_pos two_pos _
    have nearest := h.nearest.signed sign (.finite .positive (2 ^ 53 - 1) 971 (by decide))
      ⟨by decide, by decide, by decide, .inl (by decide)⟩ rfl
    rw [decodedValue_finite, decodedValue_finite, signed_signed] at nearest
    rw [← abs_signed sign, overflowBound] at small
    generalize signed sign q = p at nearest small
    have largest : 2 * ((2 ^ 53 - 1 : Nat) : ℚ) = 2 ^ 54 - 2 := by norm_num
    rw [signed, largest_unit_eq, mul_left_comm, ← mul_assoc, largest] at nearest
    generalize (2 : ℚ) ^ (970 : ℤ) = unit at unit_pos least nearest small
    have below := (le_abs_self p).trans_lt small
    have distance := (le_abs_self _).trans nearest
    rcases abs_cases ((2 ^ 54 - 2) * unit - p) with ⟨eq, -⟩ | ⟨eq, -⟩
    · rw [eq] at distance
      linarith only [distance, least, unit_pos]
    · rw [eq] at distance
      linarith only [distance, below, least]
  | _ => cases above

theorem decoded_neg (x : Float) : decoded (-x) = (decoded x).neg :=
  unpack_pack (isCanonical_decoded x).neg

/-- Only finite forms are encoded as finite doubles. -/
theorem isFinite_of_unpack_pack {u : UnpackedFloat}
    (h : (unpack .binary64 (pack .binary64 u)).isFinite = true) : u.isFinite = true := by
  cases u with
  | notANumber => cases h
  | infinity s => rwa [@unpack_pack (.infinity s) trivial] at h
  | zero s => rfl
  | finite s m e positive => rfl

/-- A double is what a number is rounded to. It is infinite if the number is too large. -/
structure IsRounding (q : ℚ) (x : Float) : Prop where
  isNaN : x.isNaN = false
  isFinite_iff : x.isFinite = true ↔ |q| < overflowBound
  nearest : x.isFinite = true → IsNearest q (value x)
  error : x.isFinite = true → |value x - q| ≤ max halfLeast (|q| / 2 ^ 53)

theorem RoundsTo.isRounding {q : ℚ} {u : UnpackedFloat} (h : RoundsTo q u) {x : Float}
    (hx : decoded x = unpack .binary64 (pack .binary64 u)) : IsRounding q x := by
  by_cases small : |q| < overflowBound
  · rw [unpack_pack (h.isCanonical_of_lt small)] at hx
    obtain rfl := hx
    refine ⟨?_, iff_of_true h.finite small, fun _ => h.nearest, fun _ => h.error⟩
    have finite := h.finite
    show (decoded x).isNaN = false
    cases hu : decoded x with
    | notANumber => rw [hu] at finite; cases finite
    | _ => rfl
  · obtain ⟨sign, hsign⟩ := unpack_pack_of_isTooLarge (h.overflow (not_lt.1 small))
    rw [hsign] at hx
    have infinite : x.isFinite = false := congrArg UnpackedFloat.isFinite hx
    refine ⟨congrArg UnpackedFloat.isNaN hx, ?_, ?_, ?_⟩
    · exact iff_of_false (Bool.eq_false_iff.1 infinite) small
    · exact fun finite => absurd (infinite.symm.trans finite) Bool.false_ne_true
    · exact fun finite => absurd (infinite.symm.trans finite) Bool.false_ne_true

end RootFinding.Double
