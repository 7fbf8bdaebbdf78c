import Mathlib
import RootFinding.Proofs.Double.Comparison

/-!
# The sign of a product of doubles

A product of doubles is rounded. A product of two nonzero doubles that is at most half the smallest
positive double becomes a zero, so the sign of a computed product is not the product of the signs:
it is positive if the exact product exceeds `halfLeast`, and otherwise it is negative or a zero.

## Shape of the arguments

* `IsShifted` says what the rounding keeps of the bits it shifts out, and `IsQuotient` says the same
  of any division. This is carried through the shifts bit by bit, and
  `roundedMantissa_eq_zero_iff` reads off when nothing is left.
* `decoded_round` follows the rounded product through its encoding: it keeps its sign, and it is a
  zero exactly where the rounding leaves nothing.
* `mul_cases` puts the operands in.
-/

namespace RootFinding.Double

open Number
open Float.Model (UnpackedFloat Format)
open Float.Model.UnpackedFloat

/-- Half of the smallest positive double. -/
def halfLeast : ℚ := 2 ^ (-1075 : ℤ)

/-! ## Shifting -/

/-- An extended mantissa holds the quotient of two whole numbers: its whole part, whether the
remainder is at least half of the divisor, and whether it is neither nothing nor half of it. -/
structure IsQuotient (n d : Nat) (em : ExtendedMantissa) : Prop where
  mantissa : em.mantissa = n / d
  roundBit : em.roundBit = true ↔ d ≤ 2 * (n % d)
  stickyBit : em.stickyBit = true ↔ n % d ≠ 0 ∧ 2 * (n % d) ≠ d

theorem isQuotient_one (n : Nat) : IsQuotient n 1 ⟨n, false, false⟩ := by
  refine ⟨by simp, ?_, ?_⟩
  · simp [Nat.mod_one]
  · simp [Nat.mod_one]

theorem IsQuotient.shiftRightOne {n d : Nat} (positive : 0 < d) {em : ExtendedMantissa}
    (h : IsQuotient n d em) : IsQuotient n (d * 2) em.shiftRightOne := by
  -- what is lost is what was lost before, and the lowest bit left
  have low_lt : n % d < d := Nat.mod_lt n positive
  have low_mul : n % (d * 2) = n % d + d * (n / d % 2) := Nat.mod_mul
  have bit : n / d % 2 = 0 ∨ n / d % 2 = 1 := Nat.mod_two_eq_zero_or_one _
  refine ⟨?_, ?_, ?_⟩
  · rw [ExtendedMantissa.shiftRightOne, h.mantissa, Nat.div_div_eq_div_mul]
  · show (em.mantissa % 2 != 0) = true ↔ _
    rw [bne_iff_ne, h.mantissa, low_mul]
    rcases bit with bit | bit
    · rw [bit]; omega
    · rw [bit]; omega
  · show (em.roundBit || em.stickyBit) = true ↔ _
    rw [Bool.or_eq_true, h.roundBit, h.stickyBit, low_mul]
    rcases bit with bit | bit
    · rw [bit]; omega
    · rw [bit]; omega

/-- Shifting divides by a power of two. -/
theorem IsQuotient.shiftRight {n d : Nat} (positive : 0 < d) {em : ExtendedMantissa}
    (h : IsQuotient n d em) (k : Nat) : IsQuotient n (d * 2 ^ k) (em >>> k) := by
  induction k with
  | zero =>
    rw [Nat.pow_zero, Nat.mul_one]
    exact h
  | succ k ih =>
    rw [Nat.pow_succ, ← Nat.mul_assoc]
    exact ih.shiftRightOne (Nat.mul_pos positive (Nat.two_pow_pos k))

/-- An extended mantissa holds the whole number `m` shifted to the right by `k` bits: the bits that
are left, whether those shifted out are at least half of a unit, and whether they are neither
nothing nor half of a unit. -/
structure IsShifted (m k : Nat) (em : ExtendedMantissa) : Prop where
  mantissa : em.mantissa = m / 2 ^ k
  roundBit : em.roundBit = true ↔ 2 ^ k ≤ 2 * (m % 2 ^ k)
  stickyBit : em.stickyBit = true ↔ m % 2 ^ k ≠ 0 ∧ 2 * (m % 2 ^ k) ≠ 2 ^ k

theorem isShifted_shiftRight (m k : Nat) :
    IsShifted m k (ExtendedMantissa.mk m false false >>> k) := by
  have shifted := (isQuotient_one m).shiftRight Nat.one_pos k
  rw [Nat.one_mul] at shifted
  exact ⟨shifted.mantissa, shifted.roundBit, shifted.stickyBit⟩

/-- Nothing is left of a number that is at most half a unit. -/
theorem roundedMantissa_eq_zero_iff {m k : Nat} {em : ExtendedMantissa} (h : IsShifted m k em)
    (positive : 0 < m) : em.roundedMantissa = 0 ↔ 2 * m ≤ 2 ^ k := by
  have whole : m / 2 ^ k = 0 ↔ m < 2 ^ k := Nat.div_eq_zero_iff_lt (Nat.two_pow_pos k)
  obtain ⟨mantissa, roundBit, stickyBit⟩ := em
  obtain ⟨hmantissa, hround, hsticky⟩ := h
  dsimp only at hmantissa hround hsticky
  by_cases small : m < 2 ^ k
  · -- only the two residual bits are left, and they round up if `m` is more than half a unit
    rw [Nat.mod_eq_of_lt small] at hround hsticky
    have nothing : mantissa = 0 := hmantissa.trans (whole.2 small)
    subst nothing
    cases roundBit <;> cases stickyBit <;>
      simp [ExtendedMantissa.roundedMantissa, ExtendedMantissa.accuracy,
        Accuracy.roundToNearestEven] at hround hsticky ⊢ <;> omega
  · have something : 0 < mantissa := by
      rw [hmantissa]
      exact Nat.pos_of_ne_zero (mt whole.1 small)
    have rounded :
        mantissa ≤ (ExtendedMantissa.mk mantissa roundBit stickyBit).roundedMantissa := by
      cases roundBit <;> cases stickyBit <;>
        simp [ExtendedMantissa.roundedMantissa, ExtendedMantissa.accuracy,
          Accuracy.roundToNearestEven]
    omega

/-! ## Rounding -/

/-- The number of bits that the rounding shifts out of `m * 2 ^ e`: all but the first 53, and all
below the unit of the smallest double. -/
def shiftAmount (m : Nat) (e : Int) : Nat := (max ((m.log2 : Int) + e - 52) (-1074) - e).toNat

theorem targetExponent_eq (t : Int) : Format.binary64.targetExponent t = max (t - 53) (-1074) := by
  simp only [Format.targetExponent]
  rfl

theorem shiftToTargetExponent_accuracy (m : Nat) (e : Int) (accuracy : Accuracy) :
    shiftToTargetExponent .binary64 m e accuracy =
      (ExtendedMantissa.ofMantissaAndAccuracy m accuracy >>> shiftAmount m e,
        e + shiftAmount m e) := by
  have amount : (Format.binary64.targetExponent (Float.Model.totalExponent m e) - e).toNat =
      shiftAmount m e := by
    rw [targetExponent_eq, Float.Model.totalExponent, shiftAmount]
    omega
  rw [shiftToTargetExponent, shiftToExponent, amount]

theorem shiftToTargetExponent_eq (m : Nat) (e : Int) :
    shiftToTargetExponent .binary64 m e .exact =
      (ExtendedMantissa.mk m false false >>> shiftAmount m e, e + shiftAmount m e) :=
  shiftToTargetExponent_accuracy m e .exact

theorem le_add_shiftAmount (m : Nat) (e : Int) : -1074 ≤ e + shiftAmount m e := by
  rw [shiftAmount]
  omega

/-- From the unit of the smallest double on, only the bits after the first 53 are shifted out. -/
theorem shiftAmount_of_le {m : Nat} {e : Int} (h : -1074 ≤ e) : shiftAmount m e = m.log2 - 52 := by
  rw [shiftAmount]
  omega

/-- The first 53 bits of a positive number are positive. -/
theorem leading_bits {m : Nat} (positive : 0 < m) :
    0 < m / 2 ^ (m.log2 - 52) ∧ m / 2 ^ (m.log2 - 52) < 2 ^ 53 := by
  have low : 2 ^ m.log2 ≤ m := Nat.log2_self_le positive.ne'
  have high : m < 2 ^ (m.log2 + 1) := Nat.lt_log2_self
  constructor
  · refine Nat.div_pos (le_trans (Nat.pow_le_pow_right Nat.two_pos ?_) low) (Nat.two_pow_pos _)
    omega
  · rw [Nat.div_lt_iff_lt_mul (Nat.two_pow_pos _), ← Nat.pow_add]
    refine lt_of_lt_of_le high (Nat.pow_le_pow_right Nat.two_pos ?_)
    omega

/-- The form that a rounded mantissa gets: a bit too many is shifted out. -/
def formOf (sign : Sign) (r : Nat) (t : Int) : UnpackedFloat :=
  if h : r / 2 ^ (r.log2 - 52) = 0 then .zero sign
  else .finite sign (r / 2 ^ (r.log2 - 52)) (t + (r.log2 - 52 : Nat)) (Nat.pos_of_ne_zero h)

theorem roundWithAccuracy_eq (sign : Sign) (m : Nat) (e : Int) (accuracy : Accuracy) :
    roundWithAccuracy .binary64 sign m e accuracy =
      formOf sign (ExtendedMantissa.ofMantissaAndAccuracy m accuracy >>>
        shiftAmount m e).roundedMantissa (e + shiftAmount m e) := by
  have low := le_add_shiftAmount m e
  rw [roundWithAccuracy, shiftToTargetExponent_accuracy]
  dsimp only
  generalize (ExtendedMantissa.ofMantissaAndAccuracy m accuracy >>>
    shiftAmount m e).roundedMantissa = r
  rw [shiftToTargetExponent_eq, shiftAmount_of_le low]
  dsimp only
  rw [(isShifted_shiftRight r (r.log2 - 52)).mantissa]
  rfl

/-- A rounded number keeps its sign. It is a zero if it is at most half of the unit, and otherwise
it has a mantissa of at most 53 bits and an exponent that a double can have. -/
theorem round_cases (sign : Sign) {m : Nat} (positive : 0 < m) (e : Int) :
    (2 * m ≤ 2 ^ shiftAmount m e ∧ roundWithAccuracy .binary64 sign m e .exact = .zero sign) ∨
      (2 ^ shiftAmount m e < 2 * m ∧ ∃ m' e' h, m' < 2 ^ 53 ∧ -1074 ≤ e' ∧
        roundWithAccuracy .binary64 sign m e .exact = .finite sign m' e' h) := by
  have shifted := isShifted_shiftRight m (shiftAmount m e)
  have nothing : (ExtendedMantissa.ofMantissaAndAccuracy m .exact >>>
      shiftAmount m e).roundedMantissa = 0 ↔ _ := roundedMantissa_eq_zero_iff shifted positive
  have low := le_add_shiftAmount m e
  rw [roundWithAccuracy_eq]
  generalize (ExtendedMantissa.ofMantissaAndAccuracy m .exact >>>
    shiftAmount m e).roundedMantissa = r at nothing ⊢
  by_cases hr : r = 0
  · subst hr
    exact .inl ⟨nothing.1 rfl, rfl⟩
  · obtain ⟨pos, bits⟩ := leading_bits (Nat.pos_of_ne_zero hr)
    refine .inr ⟨by omega, r / 2 ^ (r.log2 - 52), _, pos, bits, ?_, dif_neg pos.ne'⟩
    omega

theorem two_mul_le_iff_of_eq {m k : Nat} {e : Int} (h : (k : Int) = -1074 - e) :
    2 * m ≤ 2 ^ k ↔ (m : ℚ) * 2 ^ e ≤ halfLeast := by
  have unit_pos : (0 : ℚ) < 2 ^ e := by positivity
  have half_eq : halfLeast = (2 ^ k / 2) * 2 ^ e := by
    have exponents : (-1075 : Int) = (k : Int) - 1 + e := by omega
    rw [halfLeast, exponents, zpow_add₀ two_ne_zero, zpow_sub_one₀ two_ne_zero, zpow_natCast]
    rfl
  rw [half_eq, mul_le_mul_iff_left₀ unit_pos, le_div_iff₀ two_pos, mul_comm]
  exact_mod_cast Iff.rfl

/-- A number is at most half of the unit that it is rounded to if it is at most half of the smallest
double: with a larger unit, at least 52 of its bits are left. -/
theorem two_mul_le_iff {m : Nat} (positive : 0 < m) (e : Int) :
    2 * m ≤ 2 ^ shiftAmount m e ↔ (m : ℚ) * 2 ^ e ≤ halfLeast := by
  have low : 2 ^ m.log2 ≤ m := Nat.log2_self_le positive.ne'
  constructor
  · intro h
    -- all bits of `m` are shifted out, which the limit of 53 bits alone would not do
    have below : m.log2 + 1 ≤ shiftAmount m e := by
      refine (Nat.pow_le_pow_iff_right Nat.one_lt_two).1 (le_trans ?_ h)
      rw [Nat.pow_succ']
      exact Nat.mul_le_mul_left 2 low
    refine (two_mul_le_iff_of_eq ?_).1 h
    rw [shiftAmount] at below ⊢
    omega
  · intro h
    have below : (m.log2 : Int) + e ≤ -1075 := by
      refine (zpow_le_zpow_iff_right₀ (one_lt_two : (1 : ℚ) < 2)).1 (le_trans ?_ h)
      rw [zpow_add₀ two_ne_zero, zpow_natCast]
      exact mul_le_mul_of_nonneg_right (by exact_mod_cast low) (by positivity)
    refine (two_mul_le_iff_of_eq ?_).2 h
    rw [shiftAmount]
    omega

/-! ## Encoding -/

/-- A decoded double is not zero, and has this sign. -/
inductive IsNonzero (sign : Sign) : UnpackedFloat → Prop
  | infinity : IsNonzero sign (.infinity sign)
  | finite {m : Nat} {e : Int} (positive : 0 < m) : IsNonzero sign (.finite sign m e positive)

/-- A bit pattern whose exponent is not the one of the infinities, and that is not all zeros, is a
number that is not zero. -/
theorem isNonzero_packComponents {sign : Sign} {e : BitVec 11} {m : BitVec 52}
    (regular : e ≠ -1#11) (h : e ≠ 0#11 ∨ m ≠ 0#52) :
    IsNonzero sign (unpack .binary64 (packComponents .binary64 sign e m)) := by
  unfold unpack
  simp only [unpackMantissa_packComponents, unpackExponent_packComponents,
    unpackSign_packComponents, Sign.ofBitVec_toBitVec]
  rw [if_neg regular]
  split
  · next subnormal =>
    have nonzero : m ≠ 0#52 := h.resolve_left (not_not_intro subnormal)
    rw [dif_neg nonzero]
    exact .finite _
  · exact .finite _

theorem ofNat_ne {w n k : Nat} (hn : n < 2 ^ w) (hk : k < 2 ^ w) (h : n ≠ k) :
    BitVec.ofNat w n ≠ BitVec.ofNat w k := by
  intro eq
  have same := congrArg BitVec.toNat eq
  rw [BitVec.toNat_ofNat, BitVec.toNat_ofNat, Nat.mod_eq_of_lt hn, Nat.mod_eq_of_lt hk] at same
  exact h same

/-- Decoding brings back the sign of a number that is not zero, though the number itself may have
become infinite. -/
theorem unpack_pack_finite (sign : Sign) {m : Nat} (positive : 0 < m) (bits : m < 2 ^ 53) {e : Int}
    (low : -1074 ≤ e) :
    IsNonzero sign (unpack .binary64 (pack .binary64 (.finite sign m e positive))) := by
  have biased : (1 : Int) ≤ e + 1023 + 52 := by omega
  rw [pack]
  change IsNonzero sign (unpack .binary64
    (if 2 ^ 11 ≤ (e + 1023 + 52).toNat + 1 then packedInfinity .binary64 sign
      else if m.log2 + 1 = 53 then
        packComponents .binary64 sign (BitVec.ofNat 11 (e + 1023 + 52).toNat) (BitVec.ofNat 52 m)
      else packComponents .binary64 sign 0#11 (BitVec.ofNat 52 m)))
  split
  · -- too large an exponent is packed as an infinity of the same sign
    cases sign with
    | positive => exact .infinity
    | negative => exact .infinity
  · next fits =>
    split
    · have ones : -1#11 = BitVec.ofNat 11 2047 := by decide
      have regular : BitVec.ofNat 11 (e + 1023 + 52).toNat ≠ -1#11 := by
        rw [ones]
        exact ofNat_ne (by omega) (by omega) (by omega)
      exact isNonzero_packComponents regular (.inl (ofNat_ne (by omega) (by omega) (by omega)))
    · next short =>
      have few : m < 2 ^ 52 := by
        refine (Nat.log2_lt positive.ne').1 ?_
        have := (Nat.log2_lt positive.ne').2 bits
        omega
      exact isNonzero_packComponents (by decide) (.inr (ofNat_ne few (by omega) positive.ne'))

/-- The rounded and encoded number keeps its sign. It is a zero if it is at most half of the
smallest double. -/
theorem decoded_round (sign : Sign) {m : Nat} (positive : 0 < m) (e : Int) :
    ((m : ℚ) * 2 ^ e ≤ halfLeast ∧
        unpack .binary64 (pack .binary64 (roundWithAccuracy .binary64 sign m e .exact)) =
          .zero sign) ∨
      (halfLeast < (m : ℚ) * 2 ^ e ∧ IsNonzero sign
        (unpack .binary64 (pack .binary64 (roundWithAccuracy .binary64 sign m e .exact)))) := by
  rcases round_cases sign positive e with ⟨small, hround⟩ | ⟨large, m', e', pos, bits, low, hround⟩
  · rw [hround]
    exact .inl ⟨(two_mul_le_iff positive e).1 small, unpack_packedZero⟩
  · rw [hround]
    refine .inr ⟨?_, unpack_pack_finite sign pos bits low⟩
    rw [← not_le, ← two_mul_le_iff positive]
    exact not_le.2 large

/-! ## Products -/

/-- A number with a sign in front. -/
def signed : Sign → ℚ → ℚ
  | .positive, q => q
  | .negative, q => -q

theorem abs_signed (sign : Sign) (q : ℚ) : |signed sign q| = |q| := by
  cases sign with
  | positive => rfl
  | negative => exact abs_neg q

theorem decodedValue_finite (sign : Sign) (m : Nat) (e : Int) (positive : 0 < m) :
    decodedValue (.finite sign m e positive) = signed sign (m * 2 ^ e) := by
  cases sign with
  | positive => exact congrArg (· * 2 ^ e) (Int.cast_natCast m)
  | negative =>
    show ((-(m : Int) : Int) : ℚ) * 2 ^ e = -((m : ℚ) * 2 ^ e)
    rw [Int.cast_neg, Int.cast_natCast, neg_mul]

theorem signed_mul (s t : Sign) (p q : ℚ) : signed s p * signed t q = signed (s * t) (p * q) := by
  cases s with
  | positive =>
    cases t with
    | positive => rfl
    | negative => exact mul_neg p q
  | negative =>
    cases t with
    | positive => exact neg_mul p q
    | negative => exact neg_mul_neg p q

theorem decodedValue_mul {m₁ m₂ : Nat} (s₁ s₂ : Sign) (e₁ e₂ : Int) (h₁ : 0 < m₁) (h₂ : 0 < m₂) :
    decodedValue (.finite s₁ m₁ e₁ h₁) * decodedValue (.finite s₂ m₂ e₂ h₂) =
      signed (s₁ * s₂) ((m₁ * m₂ : Nat) * 2 ^ (e₁ + e₂)) := by
  rw [decodedValue_finite, decodedValue_finite, signed_mul, Nat.cast_mul, zpow_add₀ two_ne_zero]
  congr 1
  ring

theorem halfLeast_pos : 0 < halfLeast := by
  rw [halfLeast]
  positivity

/-- A decoded double is a zero or a negative value. -/
def IsNonpositive (u : UnpackedFloat) : Prop := (∃ sign, u = .zero sign) ∨ IsNonzero .negative u

/-- The product of two finite decoded doubles, rounded and encoded, is positive if the exact product
exceeds half of the smallest double, and otherwise it is negative or a zero. -/
theorem decoded_mul_cases {u v : UnpackedFloat} (hu : u.isFinite = true) (hv : v.isFinite = true) :
    (halfLeast < decodedValue u * decodedValue v ∧
        IsNonzero .positive (unpack .binary64 (pack .binary64 (UnpackedFloat.mul .binary64 u v)))) ∨
      (decodedValue u * decodedValue v ≤ halfLeast ∧
        IsNonpositive (unpack .binary64 (pack .binary64 (UnpackedFloat.mul .binary64 u v)))) := by
  have zero_case (sign : Sign) : IsNonpositive (unpack .binary64 (pack .binary64 (.zero sign))) :=
    .inl ⟨sign, unpack_packedZero⟩
  cases u with
  | infinity s => cases hu
  | notANumber => cases hu
  | zero s =>
    have value_le : decodedValue (.zero s) * decodedValue v ≤ halfLeast :=
      (zero_mul (decodedValue v)).le.trans halfLeast_pos.le
    cases v with
    | infinity t => cases hv
    | notANumber => cases hv
    | zero t => exact .inr ⟨value_le, zero_case (s * t)⟩
    | finite t m e positive => exact .inr ⟨value_le, zero_case (s * t)⟩
  | finite s m e positive =>
    cases v with
    | infinity t => cases hv
    | notANumber => cases hv
    | zero t => exact .inr ⟨(mul_zero _).le.trans halfLeast_pos.le, zero_case (s * t)⟩
    | finite t m' e' positive' =>
      rw [decodedValue_mul, UnpackedFloat.mul]
      generalize s * t = sign
      have rounded := decoded_round sign (Nat.mul_pos positive positive') (e + e')
      cases sign with
      | positive =>
        rcases rounded with ⟨small, hzero⟩ | ⟨large, nonzero⟩
        · exact .inr ⟨small, .inl ⟨_, hzero⟩⟩
        · exact .inl ⟨large, nonzero⟩
      | negative =>
        have negative : signed .negative ((m * m' : Nat) * 2 ^ (e + e')) ≤ halfLeast := by
          have magnitude : (0 : ℚ) ≤ (m * m' : Nat) * 2 ^ (e + e') := by positivity
          exact (neg_nonpos.2 magnitude).trans halfLeast_pos.le
        rcases rounded with ⟨-, hzero⟩ | ⟨-, nonzero⟩
        · exact .inr ⟨negative, .inl ⟨_, hzero⟩⟩
        · exact .inr ⟨negative, .inr nonzero⟩

theorem IsNonzero.compare_positive {u : UnpackedFloat} (h : IsNonzero .positive u) (sign : Sign) :
    UnpackedFloat.compare (.zero sign) u = some .lt ∧ u.compare (.zero sign) = some .gt := by
  cases h with
  | infinity => exact ⟨rfl, rfl⟩
  | finite positive => exact ⟨rfl, rfl⟩

theorem IsNonpositive.compare {u : UnpackedFloat} (h : IsNonpositive u) (sign : Sign) :
    UnpackedFloat.compare (.zero sign) u ≠ some .lt ∧
      (u.compare (.zero sign)).any (·.isLE) = true := by
  rcases h with ⟨s, rfl⟩ | h
  · exact ⟨nofun, rfl⟩
  · cases h with
    | infinity => exact ⟨nofun, rfl⟩
    | finite positive => exact ⟨nofun, rfl⟩

section Mul

variable {a b : Float} (ha : a.isFinite = true) (hb : b.isFinite = true)

include ha hb

/-- What `decoded_mul_cases` says about doubles. -/
theorem mul_cases :
    (halfLeast < value a * value b ∧ IsNonzero .positive (decoded (a * b))) ∨
      (value a * value b ≤ halfLeast ∧ IsNonpositive (decoded (a * b))) :=
  decoded_mul_cases ha hb

/-- A computed product is positive only if the exact product exceeds half of the smallest double. -/
theorem zero_lt_mul_iff : Number.zero < a * b ↔ halfLeast < value a * value b := by
  rw [lt_iff, decoded_zero]
  rcases mul_cases ha hb with ⟨large, positive⟩ | ⟨small, nonpositive⟩
  · exact ⟨fun _ => large, fun _ => (positive.compare_positive _).1⟩
  · exact ⟨fun h => absurd h (nonpositive.compare _).1, fun h => absurd h (not_lt.2 small)⟩

/-- A computed product is not positive otherwise. -/
theorem mul_le_zero_iff : a * b ≤ Number.zero ↔ value a * value b ≤ halfLeast := by
  rw [le_iff, decoded_zero]
  rcases mul_cases ha hb with ⟨large, positive⟩ | ⟨small, nonpositive⟩
  · rw [(positive.compare_positive _).2]
    exact ⟨nofun, fun h => absurd large (not_lt.2 h)⟩
  · exact ⟨fun _ => small, fun _ => (nonpositive.compare _).2⟩

end Mul

end RootFinding.Double
