import RootFinding.Proofs.Double.Rounding
import RootFinding.Proofs.Double.Signs

/-!
# Sums, differences, products and quotients of doubles

A computed sum, difference, product or quotient of finite doubles is the exact one, rounded
(`isRounding_add` and so on). So it is finite exactly if the exact one is less than the midpoint
between the largest double and the next power of two, and then no double is closer to the exact one.

## Shape of the arguments

* Each operation is followed on the decoded forms first (`roundsTo_add`, `roundsTo_mul`,
  `roundsTo_div`). A zero operand is settled by cases, and for two positive mantissas the exact
  result is brought into the form in which it is rounded.
* A quotient is given by its whole part and by how its remainder compares to half of the divisor.
  Before it is divided, the first mantissa is shifted until the whole part has 53 bits
  (`two_pow_le_div`).
* What is not finite stays so: the operands of a finite result are finite (`isFinite_of_add` and so
  on).
-/

namespace RootFinding.Double

open Number
open Float.Model (UnpackedFloat Format)
open Float.Model.UnpackedFloat

/-! ## Sums and differences -/

theorem signed_apply (sign : Sign) (m : Nat) (e : Int) :
    ((sign.apply m : Int) : ℚ) * 2 ^ e = signed sign (m * 2 ^ e) := by
  cases sign with
  | positive => exact congrArg (· * 2 ^ e) (Int.cast_natCast m)
  | negative =>
    rw [Sign.apply, Int.cast_neg, Int.cast_natCast, neg_mul]
    rfl

/-- A number in a smaller exponent. -/
theorem decodedValue_decreased (sign : Sign) {m : Nat} (positive : 0 < m) {e t : Int} (h : t ≤ e) :
    decodedValue (.finite sign m e positive) = sign.apply (decreaseExponent m e t).1 * 2 ^ t := by
  have exponent_eq : (decreaseExponent m e t).2 = t := by
    show e - (e - t).toNat = t
    omega
  rw [decodedValue_finite, ← decreaseExponent_value m e t, exponent_eq, signed_apply]

theorem roundsTo_add {u v : UnpackedFloat} (canonical_u : IsCanonical u)
    (canonical_v : IsCanonical v) (hu : u.isFinite = true) (hv : v.isFinite = true) :
    RoundsTo (decodedValue u + decodedValue v) (UnpackedFloat.add .binary64 u v) := by
  cases u with
  | infinity s => cases hu
  | notANumber => cases hu
  | zero s =>
    have sum : decodedValue (.zero s) + decodedValue v = decodedValue v := zero_add _
    rw [sum]
    cases v with
    | infinity t => cases hv
    | notANumber => cases hv
    | zero t =>
      rw [UnpackedFloat.add]
      split
      · exact roundsTo_self (u := .zero s) trivial rfl
      · exact roundsTo_self (u := .zero .positive) trivial rfl
    | finite t n d positive => exact roundsTo_self canonical_v rfl
  | finite s m e hm =>
    cases v with
    | infinity t => cases hv
    | notANumber => cases hv
    | zero t =>
      have sum : decodedValue (.finite s m e hm) + decodedValue (.zero t) =
        decodedValue (.finite s m e hm) := add_zero _
      rw [sum]
      exact roundsTo_self canonical_u rfl
    | finite t n d hn =>
      rw [decodedValue_decreased s hm (min_le_left e d),
        decodedValue_decreased t hn (min_le_right e d), ← add_mul, ← Int.cast_add]
      exact roundsTo_normalize _ _ _

theorem Sign.apply_neg (sign : Sign) (n : Int) : (-sign).apply n = -sign.apply n := by
  cases sign with
  | positive => rfl
  | negative => exact (neg_neg n).symm

/-- A difference is the sum with the opposite. -/
theorem sub_eq_add_opposite (u v : UnpackedFloat) :
    UnpackedFloat.sub .binary64 u v = UnpackedFloat.add .binary64 u v.neg := by
  cases u with
  | finite s m e hm =>
    cases v with
    | finite t n d hn =>
      rw [UnpackedFloat.neg, UnpackedFloat.sub, UnpackedFloat.add]
      dsimp only
      rw [Sign.apply_neg, Int.sub_eq_add_neg]
    | _ => rfl
  | _ => cases v <;> rfl

theorem roundsTo_sub {u v : UnpackedFloat} (canonical_u : IsCanonical u)
    (canonical_v : IsCanonical v) (hu : u.isFinite = true) (hv : v.isFinite = true) :
    RoundsTo (decodedValue u - decodedValue v) (UnpackedFloat.sub .binary64 u v) := by
  rw [sub_eq_add_opposite, sub_eq_add_neg, ← decodedValue_opposite]
  exact roundsTo_add canonical_u canonical_v.neg hu ((isFinite_neg v).trans hv)

/-! ## Products -/

theorem log2_mul_of_canonical {s t : Sign} {m n : Nat} {e d : Int} {hm : 0 < m} {hn : 0 < n}
    (canonical_u : IsCanonical (.finite s m e hm)) (canonical_v : IsCanonical (.finite t n d hn)) :
    52 ≤ (m * n).log2 ∨ e + d ≤ -1074 := by
  have positive := Nat.mul_pos hm hn
  rcases canonical_u.2.2.2 with full | least
  · exact .inl ((Nat.le_log2 positive.ne').2 (full.trans (Nat.le_mul_of_pos_right m hn)))
  · rcases canonical_v.2.2.2 with full | least'
    · exact .inl ((Nat.le_log2 positive.ne').2 (full.trans (Nat.le_mul_of_pos_left n hm)))
    · exact .inr (by omega)

theorem roundsTo_mul {u v : UnpackedFloat} (canonical_u : IsCanonical u)
    (canonical_v : IsCanonical v) (hu : u.isFinite = true) (hv : v.isFinite = true) :
    RoundsTo (decodedValue u * decodedValue v) (UnpackedFloat.mul .binary64 u v) := by
  cases u with
  | infinity s => cases hu
  | notANumber => cases hu
  | zero s =>
    have product : decodedValue (.zero s) * decodedValue v = 0 := zero_mul _
    rw [product]
    cases v with
    | infinity t => cases hv
    | notANumber => cases hv
    | zero t => exact roundsTo_self (u := .zero (s * t)) trivial rfl
    | finite t n d hn => exact roundsTo_self (u := .zero (s * t)) trivial rfl
  | finite s m e hm =>
    cases v with
    | infinity t => cases hv
    | notANumber => cases hv
    | zero t =>
      have product : decodedValue (.finite s m e hm) * decodedValue (.zero t) = 0 := mul_zero _
      rw [product]
      exact roundsTo_self (u := .zero (s * t)) trivial rfl
    | finite t n d hn =>
      rw [decodedValue_mul]
      exact roundsTo_exact _ (log2_mul_of_canonical canonical_u canonical_v)

theorem Sign.neg_mul (s t : Sign) : -s * t = -(s * t) := by
  cases s <;> cases t <;> rfl

/-- The rounding of the opposite is the opposite. -/
theorem roundWithAccuracy_neg (sign : Sign) (m : Nat) (e : Int) :
    roundWithAccuracy .binary64 (-sign) m e .exact =
      (roundWithAccuracy .binary64 sign m e .exact).neg := by
  unfold roundWithAccuracy
  dsimp only
  split
  · rfl
  · rfl

/-- The product with the opposite is the opposite. -/
theorem mul_neg_left {u v : UnpackedFloat} (hu : u.isFinite = true) (hv : v.isFinite = true) :
    UnpackedFloat.mul .binary64 u.neg v = (UnpackedFloat.mul .binary64 u v).neg := by
  cases u with
  | infinity s => cases hu
  | notANumber => cases hu
  | zero s =>
    cases v with
    | infinity t => cases hv
    | notANumber => cases hv
    | zero t => exact congrArg UnpackedFloat.zero (Sign.neg_mul s t)
    | finite t n d hn => exact congrArg UnpackedFloat.zero (Sign.neg_mul s t)
  | finite s m e hm =>
    cases v with
    | infinity t => cases hv
    | notANumber => cases hv
    | zero t => exact congrArg UnpackedFloat.zero (Sign.neg_mul s t)
    | finite t n d hn =>
      rw [UnpackedFloat.neg, UnpackedFloat.mul, UnpackedFloat.mul, Sign.neg_mul,
        roundWithAccuracy_neg]

/-! ## Quotients -/

/-- A quotient is given by its whole part, and by how the remainder compares to half of the
divisor. -/
theorem isQuotient_accuracyOfFraction (n : Nat) {d : Nat} (positive : 0 < d) :
    IsQuotient n d (.ofMantissaAndAccuracy (n / d) (accuracyOfFraction (n % d) d)) := by
  unfold accuracyOfFraction
  split
  · next exact_quotient =>
    rw [ExtendedMantissa.ofMantissaAndAccuracy]
    exact ⟨rfl, by simp; omega, by simp; omega⟩
  · rcases lt_trichotomy (2 * (n % d)) d with below | half | above
    · rw [compare_lt_iff_lt.2 below, ExtendedMantissa.ofMantissaAndAccuracy]
      exact ⟨rfl, by simp; omega, by simp; omega⟩
    · rw [compare_eq_iff_eq.2 half, ExtendedMantissa.ofMantissaAndAccuracy]
      exact ⟨rfl, by simp; omega, by simp; omega⟩
    · rw [compare_gt_iff_gt.2 above, ExtendedMantissa.ofMantissaAndAccuracy]
      exact ⟨rfl, by simp; omega, by simp; omega⟩

/-- Shifting a mantissa far enough gives a quotient of 53 bits. -/
theorem two_pow_le_div {m n k : Nat} (hm : 0 < m) (hn : 0 < n) (h : n.log2 + 53 ≤ m.log2 + k) :
    2 ^ 52 ≤ m * 2 ^ k / n := by
  have low : 2 ^ m.log2 ≤ m := Nat.log2_self_le hm.ne'
  have high : n < 2 ^ (n.log2 + 1) := Nat.lt_log2_self
  rw [Nat.le_div_iff_mul_le hn]
  calc 2 ^ 52 * n ≤ 2 ^ 52 * 2 ^ (n.log2 + 1) := Nat.mul_le_mul_left _ high.le
    _ = 2 ^ (n.log2 + 53) := by rw [← Nat.pow_add, Nat.add_comm, Nat.add_right_comm, Nat.add_assoc]
    _ ≤ 2 ^ (m.log2 + k) := Nat.pow_le_pow_right Nat.two_pos h
    _ = 2 ^ m.log2 * 2 ^ k := Nat.pow_add _ _ _
    _ ≤ m * 2 ^ k := Nat.mul_le_mul_right _ low

theorem signed_div (s t : Sign) (p q : ℚ) : signed s p / signed t q = signed (s / t) (p / q) := by
  cases s with
  | positive =>
    cases t with
    | positive => rfl
    | negative => exact div_neg p
  | negative =>
    cases t with
    | positive => exact neg_div q p
    | negative => exact neg_div_neg_eq p q

theorem decodedValue_div {m₁ m₂ : Nat} (s₁ s₂ : Sign) (e₁ e₂ : Int) (h₁ : 0 < m₁) (h₂ : 0 < m₂) :
    decodedValue (.finite s₁ m₁ e₁ h₁) / decodedValue (.finite s₂ m₂ e₂ h₂) =
      signed (s₁ / s₂) (m₁ / m₂ * 2 ^ (e₁ - e₂)) := by
  rw [decodedValue_finite, decodedValue_finite, signed_div, zpow_sub₀ two_ne_zero,
    mul_div_mul_comm]

theorem roundsTo_div {u v : UnpackedFloat} (hu : u.isFinite = true) (hv : v.isFinite = true)
    (nonzero : decodedValue v ≠ 0) :
    RoundsTo (decodedValue u / decodedValue v) (UnpackedFloat.div .binary64 u v) := by
  cases u with
  | infinity s => cases hu
  | notANumber => cases hu
  | zero s =>
    have quotient : decodedValue (.zero s) / decodedValue v = 0 := zero_div _
    rw [quotient]
    cases v with
    | infinity t => cases hv
    | notANumber => cases hv
    | zero t => exact absurd rfl nonzero
    | finite t n d hn => exact roundsTo_zero (s / t)
  | finite s m e hm =>
    cases v with
    | infinity t => cases hv
    | notANumber => cases hv
    | zero t => exact absurd rfl nonzero
    | finite t n d hn =>
      rw [decodedValue_div, UnpackedFloat.div, divCore]
      dsimp only
      generalize ht : min (e - d) (Format.binary64.targetExponent
        (Float.Model.totalExponent m e - Float.Model.totalExponent n d)) = exponent
      rw [targetExponent_eq, Float.Model.totalExponent, Float.Model.totalExponent] at ht
      have exponents : e - d = ((e - d - exponent).toNat : Int) + exponent := by omega
      generalize (e - d - exponent).toNat = k at exponents ⊢
      have value_eq : (m : ℚ) / n * 2 ^ (e - d) = (m * 2 ^ k : Nat) / n * 2 ^ exponent := by
        rw [exponents, zpow_add₀ two_ne_zero, zpow_natCast]
        push_cast
        ring
      rw [value_eq, Nat.shiftLeft_eq]
      refine roundsTo_roundWithAccuracy _ hn ?_ (isQuotient_accuracyOfFraction _ hn)
      by_cases least : exponent ≤ -1074
      · exact .inr least
      · have full := two_pow_le_div (k := k) hm hn (by omega)
        exact .inl ((Nat.le_log2 (by omega)).2 full)

/-! ## Operands of finite results -/

theorem isFinite_of_add_form {u v : UnpackedFloat}
    (h : (UnpackedFloat.add .binary64 u v).isFinite = true) :
    u.isFinite = true ∧ v.isFinite = true := by
  cases u with
  | notANumber => cases h
  | infinity s =>
    cases v with
    | infinity t => cases s <;> cases t <;> cases h
    | _ => cases h
  | zero s =>
    cases v with
    | notANumber => cases h
    | infinity t => cases h
    | _ => exact ⟨rfl, rfl⟩
  | finite s m e hm =>
    cases v with
    | notANumber => cases h
    | infinity t => cases h
    | _ => exact ⟨rfl, rfl⟩

theorem isFinite_of_mul_form {u v : UnpackedFloat}
    (h : (UnpackedFloat.mul .binary64 u v).isFinite = true) :
    u.isFinite = true ∧ v.isFinite = true := by
  cases u with
  | notANumber => cases h
  | infinity s => cases v <;> cases h
  | zero s =>
    cases v with
    | notANumber => cases h
    | infinity t => cases h
    | _ => exact ⟨rfl, rfl⟩
  | finite s m e hm =>
    cases v with
    | notANumber => cases h
    | infinity t => cases h
    | _ => exact ⟨rfl, rfl⟩

/-- A finite quotient comes from a finite dividend and a divisor that is neither a zero nor not a
number. -/
theorem isFinite_of_div_form {u v : UnpackedFloat}
    (h : (UnpackedFloat.div .binary64 u v).isFinite = true) :
    u.isFinite = true ∧ (v.isInf = true ∨ decodedValue v ≠ 0) := by
  have nonzero (s : Sign) {m : Nat} {e : Int} (positive : 0 < m) :
      decodedValue (.finite s m e positive) ≠ 0 := by
    cases s with
    | positive => exact (decodedValue_pos positive).ne'
    | negative => exact (decodedValue_neg positive).ne
  cases u with
  | notANumber => cases h
  | infinity s => cases v <;> cases h
  | zero s =>
    cases v with
    | notANumber => cases h
    | zero t => cases h
    | infinity t => exact ⟨rfl, .inl rfl⟩
    | finite t n d hn => exact ⟨rfl, .inr (nonzero t hn)⟩
  | finite s m e hm =>
    cases v with
    | notANumber => cases h
    | zero t => cases h
    | infinity t => exact ⟨rfl, .inl rfl⟩
    | finite t n d hn => exact ⟨rfl, .inr (nonzero t hn)⟩

/-- What is finite, divided by an infinity, is a zero. -/
theorem div_infinity {u v : UnpackedFloat} (hu : u.isFinite = true) (hv : v.isInf = true) :
    ∃ sign, UnpackedFloat.div .binary64 u v = .zero sign := by
  cases v with
  | infinity t =>
    cases u with
    | notANumber => cases hu
    | infinity s => cases hu
    | zero s => exact ⟨s / t, rfl⟩
    | finite s m e hm => exact ⟨s / t, rfl⟩
  | _ => cases hv

/-! ## Doubles -/

section Operations

variable {x y : Float} (hx : x.isFinite = true) (hy : y.isFinite = true)

include hx hy

theorem isRounding_add : IsRounding (value x + value y) (x + y) :=
  (roundsTo_add (isCanonical_decoded x) (isCanonical_decoded y) hx hy).isRounding rfl

theorem isRounding_mul : IsRounding (value x * value y) (x * y) :=
  (roundsTo_mul (isCanonical_decoded x) (isCanonical_decoded y) hx hy).isRounding rfl

theorem isRounding_sub : IsRounding (value x - value y) (x - y) :=
  (roundsTo_sub (isCanonical_decoded x) (isCanonical_decoded y) hx hy).isRounding rfl

end Operations

theorem isRounding_div {x y : Float} (hx : x.isFinite = true) (nonzero : value y ≠ 0) :
    IsRounding (value x / value y) (x / y) :=
  (roundsTo_div (u := decoded x) (v := decoded y) hx (isFinite_of_value_ne_zero nonzero)
    nonzero).isRounding rfl

section Double

variable {x y : Float}

/-- Both terms of a finite sum are finite. -/
theorem isFinite_of_add (h : (x + y).isFinite = true) : x.isFinite = true ∧ y.isFinite = true :=
  isFinite_of_add_form (isFinite_of_unpack_pack h)

/-- Both factors of a finite product are finite. -/
theorem isFinite_of_mul (h : (x * y).isFinite = true) : x.isFinite = true ∧ y.isFinite = true :=
  isFinite_of_mul_form (isFinite_of_unpack_pack h)

/-- Both terms of a finite difference are finite. -/
theorem isFinite_of_sub (h : (x - y).isFinite = true) : x.isFinite = true ∧ y.isFinite = true := by
  have finite := isFinite_of_unpack_pack
    (u := UnpackedFloat.sub .binary64 (decoded x) (decoded y)) h
  rw [sub_eq_add_opposite] at finite
  obtain ⟨hx, hy⟩ := isFinite_of_add_form finite
  exact ⟨hx, (isFinite_neg (decoded y)).symm.trans hy⟩

/-- A finite quotient comes from a finite dividend and a divisor that is neither a zero nor not a
number. -/
theorem isFinite_of_div (h : (x / y).isFinite = true) :
    x.isFinite = true ∧ (y.isInf = true ∨ value y ≠ 0) :=
  isFinite_of_div_form (isFinite_of_unpack_pack h)

/-- A finite double, divided by an infinite one, is a zero. -/
theorem div_of_isInf (hx : x.isFinite = true) (hy : y.isInf = true) :
    (x / y).isFinite = true ∧ value (x / y) = 0 := by
  obtain ⟨sign, hsign⟩ := div_infinity (u := decoded x) (v := decoded y) hx hy
  have decoded_eq : decoded (x / y) = .zero sign := by
    rw [← @unpack_pack (.zero sign) trivial, ← hsign]
    rfl
  change (decoded (x / y)).isFinite = true ∧ decodedValue (decoded (x / y)) = 0
  rw [decoded_eq]
  exact ⟨rfl, rfl⟩

/-- When a quotient is finite. -/
theorem isFinite_div_iff (hx : x.isFinite = true) :
    (x / y).isFinite = true ↔
      y.isInf = true ∨ (value y ≠ 0 ∧ |value x / value y| < overflowBound) := by
  by_cases infinite : y.isInf = true
  · exact iff_of_true (div_of_isInf hx infinite).1 (.inl infinite)
  · constructor
    · intro h
      have nonzero := (isFinite_of_div h).2.resolve_left infinite
      exact .inr ⟨nonzero, (isRounding_div hx nonzero).isFinite_iff.1 h⟩
    · rintro (h | ⟨nonzero, small⟩)
      · exact absurd h infinite
      · exact (isRounding_div hx nonzero).isFinite_iff.2 small

/-- A computed sum is a nearest double to the exact one. -/
theorem isNearest_add (h : (x + y).isFinite = true) :
    IsNearest (value x + value y) (value (x + y)) :=
  have ⟨hx, hy⟩ := isFinite_of_add h
  (isRounding_add hx hy).nearest h

/-- A computed product with an opposite factor is the opposite product. -/
theorem value_neg_mul (h : (x * y).isFinite = true) : value (-x * y) = -value (x * y) := by
  obtain ⟨hx, hy⟩ := isFinite_of_mul h
  have canonical :=
    (roundsTo_mul (isCanonical_decoded x) (isCanonical_decoded y) hx hy).isCanonical h
  have opposite : UnpackedFloat.mul .binary64 (decoded (-x)) (decoded y) =
      (UnpackedFloat.mul .binary64 (decoded x) (decoded y)).neg := by
    rw [decoded_neg]
    exact mul_neg_left (u := decoded x) (v := decoded y) hx hy
  have decoded_eq : decoded (x * y) = UnpackedFloat.mul .binary64 (decoded x) (decoded y) :=
    unpack_pack canonical
  have decoded_neg_eq : decoded (-x * y) = (decoded (x * y)).neg := by
    rw [decoded_eq, ← unpack_pack canonical.neg, ← opposite]
    rfl
  rw [value, decoded_neg_eq, decodedValue_opposite, value]

/-- The computed difference of doubles of equal value is a zero. -/
theorem sub_of_value_eq (hx : x.isFinite = true) (hy : y.isFinite = true)
    (h : value x = value y) : (x - y).isFinite = true ∧ value (x - y) = 0 := by
  have rounding := isRounding_sub hx hy
  rw [sub_eq_zero.2 h] at rounding
  have finite := rounding.isFinite_iff.2 (abs_zero.trans_lt overflowBound_pos)
  -- zero itself is a double, so nothing else is nearest to it
  have closest := rounding.nearest finite (.zero .positive) trivial rfl
  change |value (x - y) - 0| ≤ |(0 : ℚ) - 0| at closest
  rw [sub_zero, sub_zero, abs_zero] at closest
  exact ⟨finite, abs_eq_zero.1 (le_antisymm closest (abs_nonneg _))⟩

/-- If a step in one direction and the opposite step lead to the same double, they lead nowhere. -/
theorem value_add_of_opposite {d d' : Float} (opposite : value d' = -value d)
    (finite : (x + d).isFinite = true) (finite' : (x + d').isFinite = true)
    (same : value (x + d) = value (x + d')) : value (x + d) = value x := by
  obtain ⟨hx, -⟩ := isFinite_of_add finite
  have forth := isNearest_add finite (decoded x) (isCanonical_decoded x) hx
  have back := isNearest_add finite' (decoded x) (isCanonical_decoded x) hx
  rw [← same, opposite] at back
  have forth_sq : (value (x + d) - (value x + value d)) ^ 2 ≤
      (value x - (value x + value d)) ^ 2 := sq_le_sq.2 forth
  have back_sq : (value (x + d) - (value x + -value d)) ^ 2 ≤
      (value x - (value x + -value d)) ^ 2 := sq_le_sq.2 back
  have nothing : (value (x + d) - value x) ^ 2 ≤ 0 := by linarith
  exact sub_eq_zero.1 (sq_nonpos_iff _ |>.1 nothing)

end Double

end RootFinding.Double
