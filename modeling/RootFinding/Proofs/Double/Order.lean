import RootFinding.Proofs.Double.Product

/-!
# The order of doubles

Finite doubles are in the order of their values, and a value that is not a number is in no order
with anything. So a comparison with a finite double that fails says that the other side is not a
number, or that the strict comparison the other way holds.

Doubles are compared by their exponents, and by their mantissas only where the exponents agree. This
is the order of the values because decoding leaves no choice of the exponent (`IsCanonical`): a
mantissa has 53 bits, or the exponent is the smallest one.
-/

namespace RootFinding.Double

open Number
open Float.Model (UnpackedFloat Format)
open Float.Model.UnpackedFloat

/-! ## Canonical forms -/

/-- What a decoded double is like: its mantissa has 53 bits, or fewer with the smallest exponent. -/
def IsCanonical : UnpackedFloat → Prop
  | .finite _ m e _ => m < 2 ^ 53 ∧ -1074 ≤ e ∧ e ≤ 971 ∧ (2 ^ 52 ≤ m ∨ e = -1074)
  | _ => True

/-- A bit pattern with the leading bit that a normal double does not store. -/
theorem toNat_one_append {w : Nat} (v : BitVec w) : (1#1 ++ v).toNat = 2 ^ w + v.toNat := by
  rw [BitVec.toNat_append, ← Nat.shiftLeft_add_eq_or_of_lt v.isLt, Nat.shiftLeft_eq]
  exact congrArg (· + v.toNat) (Nat.one_mul _)

theorem isCanonical_unpack (b : BitVec Format.binary64.numBits) :
    IsCanonical (unpack .binary64 b) := by
  have exponent_lt : (unpackExponent b).toNat < 2048 := (unpackExponent b).isLt
  have mantissa_lt : (unpackMantissa b).toNat < 2 ^ 52 := (unpackMantissa b).isLt
  have bias : ((Format.binary64.exponentBias : Nat) : Int) = 1023 := rfl
  have width : ((Format.binary64.mantissaBitsWithoutImplicit : Nat) : Int) = 52 := rfl
  rw [unpack]
  split
  · split
    · trivial
    · trivial
  · next regular =>
    have below : (unpackExponent b).toNat ≠ 2047 := fun h => regular (BitVec.eq_of_toNat_eq h)
    split
    · next subnormal =>
      split
      · trivial
      · have least : (unpackExponent b).toNat = 0 := congrArg BitVec.toNat subnormal
        rw [bias, width, least]
        exact ⟨by omega, by decide, by decide, .inr (by decide)⟩
    · next normal =>
      have above : (unpackExponent b).toNat ≠ 0 := fun h => normal (BitVec.eq_of_toNat_eq h)
      have bits : (1#1 ++ unpackMantissa b).toNat = 2 ^ 52 + (unpackMantissa b).toNat :=
        toNat_one_append _
      rw [bias, width]
      exact ⟨by omega, by omega, by omega, .inl (by omega)⟩

theorem isCanonical_decoded (x : Float) : IsCanonical (decoded x) :=
  isCanonical_unpack x.toModel.toBits.toBitVec

theorem finite_congr {sign : Sign} {m n : Nat} {e d : Int} {hm : 0 < m} {hn : 0 < n} (h : m = n)
    (h' : e = d) : UnpackedFloat.finite sign m e hm = .finite sign n d hn := by
  subst h h'
  rfl

/-- A mantissa with 53 bits is encoded without the leading one, and decoded with it. -/
theorem unpack_normal (sign : Sign) {m : Nat} (positive : 0 < m) {e : Int} (bits : m < 2 ^ 53)
    (leading : 2 ^ 52 ≤ m) (low : -1074 ≤ e) (high : e ≤ 971) :
    unpack .binary64 (packComponents .binary64 sign (BitVec.ofNat 11 (e + 1023 + 52).toNat)
      (BitVec.ofNat 52 m)) = .finite sign m e positive := by
  have exponent_eq : (BitVec.ofNat 11 (e + 1023 + 52).toNat).toNat = (e + 1023 + 52).toNat := by
    rw [BitVec.toNat_ofNat, Nat.mod_eq_of_lt (by omega)]
  have mantissa_eq : (1#1 ++ BitVec.ofNat 52 m).toNat = m := by
    rw [toNat_one_append, BitVec.toNat_ofNat]
    omega
  have ones : -1#11 = BitVec.ofNat 11 2047 := by decide
  have regular : BitVec.ofNat 11 (e + 1023 + 52).toNat ≠ -1#11 := by
    rw [ones]
    exact ofNat_ne (by omega) (by omega) (by omega)
  have nonzero : BitVec.ofNat 11 (e + 1023 + 52).toNat ≠ 0#11 :=
    ofNat_ne (by omega) (by omega) (by omega)
  unfold unpack
  simp only [unpackMantissa_packComponents, unpackExponent_packComponents,
    unpackSign_packComponents, Sign.ofBitVec_toBitVec]
  rw [if_neg regular, if_neg nonzero]
  refine finite_congr mantissa_eq ?_
  rw [exponent_eq]
  show (((e + 1023 + 52).toNat : Nat) : Int) - (1023 + 52) = e
  omega

/-- A shorter mantissa is encoded as it is, with the exponent zero. -/
theorem unpack_subnormal (sign : Sign) {m : Nat} (positive : 0 < m) (few : m < 2 ^ 52) :
    unpack .binary64 (packComponents .binary64 sign 0#11 (BitVec.ofNat 52 m)) =
      .finite sign m (-1074) positive := by
  have mantissa_eq : (BitVec.ofNat 52 m).toNat = m := by
    rw [BitVec.toNat_ofNat]
    omega
  unfold unpack
  simp only [unpackMantissa_packComponents, unpackExponent_packComponents,
    unpackSign_packComponents, Sign.ofBitVec_toBitVec]
  rw [if_neg (by decide), if_pos trivial, dif_neg (ofNat_ne few (by omega) positive.ne')]
  exact finite_congr mantissa_eq rfl

/-- A canonical form that is encoded is decoded as it was. -/
theorem unpack_pack {u : UnpackedFloat} (h : IsCanonical u) :
    unpack .binary64 (pack .binary64 u) = u := by
  cases u with
  | notANumber => rfl
  | infinity sign => cases sign <;> rfl
  | zero sign => cases sign <;> rfl
  | finite sign m e positive =>
    obtain ⟨bits, low, high, leading⟩ := h
    rw [pack]
    change unpack .binary64
      (if 2 ^ 11 ≤ (e + 1023 + 52).toNat + 1 then packedInfinity .binary64 sign
        else if m.log2 + 1 = 53 then
          packComponents .binary64 sign (BitVec.ofNat 11 (e + 1023 + 52).toNat) (BitVec.ofNat 52 m)
        else packComponents .binary64 sign 0#11 (BitVec.ofNat 52 m)) = _
    rw [if_neg (by omega)]
    by_cases normal : 2 ^ 52 ≤ m
    · have log2_eq : m.log2 + 1 = 53 := by
        have := (Nat.le_log2 positive.ne').2 normal
        have := (Nat.log2_lt positive.ne').2 bits
        omega
      rw [if_pos log2_eq]
      exact unpack_normal sign positive bits normal low high
    · have few : m < 2 ^ 52 := not_le.1 normal
      obtain rfl : e = -1074 := leading.resolve_left normal
      have log2_ne : m.log2 + 1 ≠ 53 := by
        have := (Nat.log2_lt positive.ne').2 few
        omega
      rw [if_neg log2_ne]
      exact unpack_subnormal sign positive few

/-! ## Magnitudes -/

/-- A mantissa with 53 bits outweighs any other one with a smaller exponent. -/
theorem magnitude_lt {m n : Nat} {e d : Int} (bits : m < 2 ^ 53) (leading : 2 ^ 52 ≤ n)
    (h : e < d) : (m : ℚ) * 2 ^ e < n * 2 ^ d := by
  have unit_pos : (0 : ℚ) < 2 ^ e := by positivity
  have unit_le : (2 : ℚ) ^ (e + 1) ≤ 2 ^ d := zpow_le_zpow_right₀ one_le_two h
  calc (m : ℚ) * 2 ^ e < 2 ^ 53 * 2 ^ e := by
        refine mul_lt_mul_of_pos_right ?_ unit_pos
        exact_mod_cast bits
    _ = 2 ^ 52 * 2 ^ (e + 1) := by rw [zpow_add_one₀ two_ne_zero]; ring
    _ ≤ n * 2 ^ d := by
        refine mul_le_mul ?_ unit_le (by positivity) (Nat.cast_nonneg n)
        exact_mod_cast leading

/-- The order of the exponents, and then of the mantissas, is the order of the magnitudes. -/
theorem compare_magnitudes {m n : Nat} {e d : Int} (hm : m < 2 ^ 53) (he : -1074 ≤ e)
    (hn : n < 2 ^ 53) (hd : -1074 ≤ d) (leading_m : 2 ^ 52 ≤ m ∨ e = -1074)
    (leading_n : 2 ^ 52 ≤ n ∨ d = -1074) :
    (compare e d).then (compare m n) = compare ((m : ℚ) * 2 ^ e) (n * 2 ^ d) := by
  rcases lt_trichotomy e d with below | rfl | above
  · have leading : 2 ^ 52 ≤ n := leading_n.resolve_right (by omega)
    rw [compare_lt_iff_lt.2 below, compare_lt_iff_lt.2 (magnitude_lt hm leading below)]
    rfl
  · have unit_pos : (0 : ℚ) < 2 ^ e := by positivity
    rw [compare_eq_iff_eq.2 rfl, Ordering.eq_then]
    rcases lt_trichotomy m n with less | rfl | more
    · have magnitudes := mul_lt_mul_of_pos_right (Nat.cast_lt (α := ℚ).2 less) unit_pos
      rw [compare_lt_iff_lt.2 less, compare_lt_iff_lt.2 magnitudes]
    · rw [compare_eq_iff_eq.2 rfl, compare_eq_iff_eq.2 rfl]
    · have magnitudes := mul_lt_mul_of_pos_right (Nat.cast_lt (α := ℚ).2 more) unit_pos
      rw [compare_gt_iff_gt.2 more, compare_gt_iff_gt.2 magnitudes]
  · have leading : 2 ^ 52 ≤ m := leading_m.resolve_right (by omega)
    rw [compare_gt_iff_gt.2 above, compare_gt_iff_gt.2 (magnitude_lt hn leading above)]
    rfl

/-! ## Comparisons -/

theorem compare_neg_neg (p q : ℚ) : compare (-p) (-q) = (compare p q).swap := by
  rcases lt_trichotomy p q with h | rfl | h
  · rw [compare_lt_iff_lt.2 h, compare_gt_iff_gt.2 (neg_lt_neg h)]
    rfl
  · rw [compare_eq_iff_eq.2 rfl, compare_eq_iff_eq.2 rfl]
    rfl
  · rw [compare_gt_iff_gt.2 h, compare_lt_iff_lt.2 (neg_lt_neg h)]
    rfl

/-- The order of two finite doubles is the order of their values. -/
theorem compare_decodedValue {u v : UnpackedFloat} (hu : u.isFinite = true)
    (hv : v.isFinite = true) (canonical_u : IsCanonical u) (canonical_v : IsCanonical v) :
    u.compare v = some (compare (decodedValue u) (decodedValue v)) := by
  cases u with
  | infinity s => cases hu
  | notANumber => cases hu
  | zero s => exact zero_compare hv s
  | finite s m e hm =>
    cases v with
    | infinity t => cases hv
    | notANumber => cases hv
    | zero t => exact compare_zero hu t
    | finite t n d hn =>
      have magnitudes := compare_magnitudes canonical_u.1 canonical_u.2.1 canonical_v.1
        canonical_v.2.1 canonical_u.2.2.2 canonical_v.2.2.2
      cases s with
      | positive =>
        cases t with
        | positive =>
          rw [decodedValue_finite, decodedValue_finite]
          exact congrArg some magnitudes
        | negative =>
          have values := (@decodedValue_neg n d hn).trans (@decodedValue_pos m e hm)
          exact congrArg some (compare_gt_iff_gt.2 values).symm
      | negative =>
        cases t with
        | positive =>
          have values := (@decodedValue_neg m e hm).trans (@decodedValue_pos n d hn)
          exact congrArg some (compare_lt_iff_lt.2 values).symm
        | negative =>
          rw [decodedValue_finite, decodedValue_finite]
          refine congrArg some ?_
          rw [signed, signed, compare_neg_neg, ← magnitudes]

section Finite

variable {x y : Float} (hx : x.isFinite = true) (hy : y.isFinite = true)

include hx hy

theorem compare_eq_some : (decoded x).compare (decoded y) = some (compare (value x) (value y)) :=
  compare_decodedValue hx hy (isCanonical_decoded x) (isCanonical_decoded y)

/-- Finite doubles are in the order of their values. -/
theorem lt_iff_value : x < y ↔ value x < value y := by
  rw [lt_iff, compare_eq_some hx hy, Option.some.injEq, compare_lt_iff_lt]

theorem le_iff_value : x ≤ y ↔ value x ≤ value y := by
  rw [le_iff, compare_eq_some hx hy, Option.any_some, Ordering.isLE_iff_ne_gt,
    compare_gt_iff_gt, not_lt]

/-- Of two finite doubles, one is at most the other or greater. -/
theorem not_le_iff : ¬x ≤ y ↔ y < x := by
  rw [le_iff_value hx hy, lt_iff_value hy hx, not_le]

end Finite

/-- An infinity stands in the same order to all finite forms. -/
theorem infinity_compare (sign : Sign) {u : UnpackedFloat} (h : u.isFinite = true) :
    (UnpackedFloat.infinity sign).compare u =
      some (match sign with | .negative => .lt | .positive => .gt) := by
  cases u with
  | notANumber => cases h
  | infinity sign' => cases h
  | zero sign' => cases sign <;> rfl
  | finite sign' m e positive => cases sign <;> cases sign' <;> rfl

/-- All finite forms stand in the same order to an infinity. -/
theorem compare_infinity (sign : Sign) {u : UnpackedFloat} (h : u.isFinite = true) :
    u.compare (.infinity sign) =
      some (match sign with | .negative => .gt | .positive => .lt) := by
  cases u with
  | notANumber => cases h
  | infinity sign' => cases h
  | zero sign' => cases sign <;> rfl
  | finite sign' m e positive => cases sign <;> cases sign' <;> rfl

/-- What is not at most a finite double is not a number, or greater. -/
theorem isNaN_or_lt_of_not_le {x y : Float} (hy : y.isFinite = true) (h : ¬x ≤ y) :
    x.isNaN = true ∨ y < x := by
  have finite_y : (decoded y).isFinite = true := hy
  by_cases hx : (decoded x).isFinite = true
  · exact .inr ((not_le_iff hx hy).1 h)
  · rw [le_iff] at h
    rw [lt_iff]
    change (decoded x).isNaN = true ∨ _
    generalize decoded x = u at hx h ⊢
    cases u with
    | notANumber => exact .inl rfl
    | zero sign => exact absurd rfl hx
    | finite sign m e positive => exact absurd rfl hx
    | infinity sign =>
      cases sign with
      | positive => exact .inr (compare_infinity .positive finite_y)
      | negative => exact absurd (by rw [infinity_compare .negative finite_y]; rfl) h

/-- What is not less than a finite double is not a number, or at least as large. -/
theorem isNaN_or_le_of_not_lt {x y : Float} (hy : y.isFinite = true) (h : ¬x < y) :
    x.isNaN = true ∨ y ≤ x := by
  have finite_y : (decoded y).isFinite = true := hy
  by_cases hx : (decoded x).isFinite = true
  · rw [lt_iff_value hx hy, not_lt] at h
    exact .inr ((le_iff_value hy hx).2 h)
  · rw [lt_iff] at h
    rw [le_iff]
    change (decoded x).isNaN = true ∨ _
    generalize decoded x = u at hx h ⊢
    cases u with
    | notANumber => exact .inl rfl
    | zero sign => exact absurd rfl hx
    | finite sign m e positive => exact absurd rfl hx
    | infinity sign =>
      cases sign with
      | positive => exact .inr (by rw [compare_infinity .positive finite_y]; rfl)
      | negative => exact absurd (infinity_compare .negative finite_y) h

/-! ## Larger bounds -/

/-- A double that is not finite is not a number or an infinity. -/
theorem isFinite_eq_false_iff {x : Float} :
    x.isFinite = false ↔ x.isNaN = true ∨ x.isInf = true := by
  show (decoded x).isFinite = false ↔ (decoded x).isNaN = true ∨ (decoded x).isInf = true
  cases decoded x <;> simp [UnpackedFloat.isFinite, UnpackedFloat.isNaN, UnpackedFloat.isInf]

theorem isNaN_of_isFinite {x : Float} (h : x.isFinite = true) : x.isNaN = false := by
  by_contra nan
  have infinite := isFinite_eq_false_iff.2 (.inl (eq_true_of_ne_false nan))
  exact Bool.false_ne_true (infinite.symm.trans h)

/-- A double is not at most a finite one exactly if it is not a number, or greater. -/
theorem not_le_iff_isNaN_or_lt {x y : Float} (hy : y.isFinite = true) :
    ¬x ≤ y ↔ x.isNaN = true ∨ y < x := by
  refine ⟨isNaN_or_lt_of_not_le hy, ?_⟩
  have finite_y : (decoded y).isFinite = true := hy
  by_cases hx : (decoded x).isFinite = true
  · rintro (nan | above)
    · exact absurd ((isNaN_of_isFinite hx).symm.trans nan) Bool.false_ne_true
    · exact (not_le_iff hx hy).2 above
  · rw [le_iff, lt_iff]
    change (decoded x).isNaN = true ∨ _ → _
    generalize decoded x = u at hx ⊢
    cases u with
    | notANumber => exact fun _ => by cases decoded y <;> exact Bool.false_ne_true
    | zero sign => exact absurd rfl hx
    | finite sign m e positive => exact absurd rfl hx
    | infinity sign =>
      rintro (nan | above)
      · cases nan
      · cases sign with
        | positive =>
          rw [infinity_compare .positive finite_y]
          exact Bool.false_ne_true
        | negative =>
          rw [compare_infinity .negative finite_y] at above
          cases above

/-- What lies between two finite doubles is finite. -/
theorem isFinite_of_between {l x r : Float} (hl : l.isFinite = true) (hr : r.isFinite = true)
    (above : l ≤ x) (below : x ≤ r) : x.isFinite = true := by
  by_contra infinite
  rcases isFinite_eq_false_iff.1 (eq_false_of_ne_true infinite) with nan | inf
  · exact not_le_of_isNaN nan above
  · have finite_left : (decoded l).isFinite = true := hl
    have finite_right : (decoded r).isFinite = true := hr
    rw [le_iff] at above below
    change (decoded x).isInf = true at inf
    cases hx : decoded x with
    | infinity sign =>
      cases sign with
      | negative =>
        rw [hx, compare_infinity .negative finite_left] at above
        cases above
      | positive =>
        rw [hx, infinity_compare .positive finite_right] at below
        cases below
    | _ => rw [hx] at inf; cases inf

/-- The points of an interval are finite. -/
theorem isFinite_of_contains {s : Interval Float} {x : Float} (h : s.contains x = true) :
    x.isFinite = true := by
  obtain ⟨above, below⟩ := Interval.contains_iff.1 h
  exact isFinite_of_between s.finite_left s.finite_right above below

/-- No interval contains a double that is not finite. -/
theorem not_contains_of_not_isFinite (s : Interval Float) {x : Float} (h : x.isFinite = false) :
    s.contains x = false :=
  Bool.eq_false_iff.2 fun inside =>
    Bool.false_ne_true (h.symm.trans (isFinite_of_contains inside))

section Bound

variable {x y z : Float} (hy : y.isFinite = true) (hz : z.isFinite = true)

include hy hz

/-- So does a double that is not finite to all finite ones. -/
theorem compare_eq_compare (hx : ¬x.isFinite = true) :
    (decoded x).compare (decoded y) = (decoded x).compare (decoded z) := by
  have finite_y : (decoded y).isFinite = true := hy
  have finite_z : (decoded z).isFinite = true := hz
  change ¬(decoded x).isFinite = true at hx
  generalize decoded x = u at hx ⊢
  cases u with
  | zero sign => exact absurd rfl hx
  | finite sign m e positive => exact absurd rfl hx
  | notANumber => cases decoded y <;> cases decoded z <;> rfl
  | infinity sign => rw [infinity_compare sign finite_y, infinity_compare sign finite_z]

variable (le : y ≤ z)

include le

/-- What is less than a finite double is less than a larger one. -/
theorem lt_of_bound_le (h : x < y) : x < z := by
  by_cases hx : x.isFinite = true
  · have values := (le_iff_value hy hz).1 le
    exact (lt_iff_value hx hz).2 (((lt_iff_value hx hy).1 h).trans_le values)
  · rwa [lt_iff, ← compare_eq_compare hy hz hx, ← lt_iff]

/-- What is at most a finite double is at most a larger one. -/
theorem le_of_bound_le (h : x ≤ y) : x ≤ z := by
  by_cases hx : x.isFinite = true
  · have values := (le_iff_value hy hz).1 le
    exact (le_iff_value hx hz).2 (((le_iff_value hx hy).1 h).trans values)
  · rwa [le_iff, ← compare_eq_compare hy hz hx, ← le_iff]

end Bound

/-! ## Magnitudes of doubles -/

theorem IsCanonical.abs {u : UnpackedFloat} (h : IsCanonical u) : IsCanonical u.abs := by
  cases u with
  | finite sign m e positive => exact h
  | _ => trivial

theorem decoded_abs (x : Float) : decoded (Number.abs x) = (decoded x).abs :=
  unpack_pack (isCanonical_decoded x).abs

theorem isNaN_abs (x : Float) : (Number.abs x).isNaN = x.isNaN := by
  show (decoded (Number.abs x)).isNaN = (decoded x).isNaN
  rw [decoded_abs]
  cases decoded x with
  | _ => rfl

/-- The magnitude of a finite double is finite. -/
theorem isFinite_abs {x : Float} (h : x.isFinite = true) : (Number.abs x).isFinite = true := by
  have finite : (decoded x).isFinite = true := h
  show (decoded (Number.abs x)).isFinite = true
  rw [decoded_abs]
  cases hx : decoded x with
  | notANumber => rw [hx] at finite; cases finite
  | infinity sign => rw [hx] at finite; cases finite
  | zero sign => rfl
  | finite sign m e positive => rfl

/-- The value of a magnitude is the magnitude of the value. -/
theorem value_abs (x : Float) : value (Number.abs x) = |value x| := by
  rw [value, decoded_abs, value]
  cases decoded x with
  | finite sign m e positive =>
    have magnitude : (0 : ℚ) ≤ m * 2 ^ e := by positivity
    rw [UnpackedFloat.abs, decodedValue_finite, decodedValue_finite]
    cases sign with
    | positive => exact (abs_of_nonneg magnitude).symm
    | negative => exact ((abs_neg _).trans (abs_of_nonneg magnitude)).symm
  | _ => exact abs_zero.symm

/-! ## Running maxima -/

/-- The running maximum of finite doubles is the last maximum or the new value, and at least as
large as both. -/
theorem maxWith_cases {best x : Float} (hbest : best.isFinite = true) (hx : x.isFinite = true) :
    (maxWith best x = best ∨ maxWith best x = x) ∧ value best ≤ value (maxWith best x) ∧
      value x ≤ value (maxWith best x) := by
  rw [maxWith]
  split
  · next h => exact ⟨.inr rfl, (le_iff_value hbest hx).1 h, le_rfl⟩
  · next h =>
    have above := (lt_iff_value hx hbest).1 ((not_le_iff hbest hx).1 h)
    exact ⟨.inl rfl, le_rfl, above.le⟩

/-- The largest of finite doubles is one of them or the start, and at least as large as all. -/
theorem foldl_maxWith_spec {xs : List Float} {best : Float} (hbest : best.isFinite = true)
    (hxs : ∀ x ∈ xs, x.isFinite = true) :
    (xs.foldl maxWith best).isFinite = true ∧ xs.foldl maxWith best ∈ best :: xs ∧
      ∀ x ∈ best :: xs, x ≤ xs.foldl maxWith best := by
  induction xs generalizing best with
  | nil => simpa using ⟨hbest, (le_iff_value hbest hbest).2 le_rfl⟩
  | cons x xs ih =>
    obtain ⟨hx, hxs⟩ := List.forall_mem_cons.1 hxs
    obtain ⟨taken, best_le, x_le⟩ := maxWith_cases hbest hx
    have finite : (maxWith best x).isFinite = true := by
      rcases taken with h | h
      · rwa [h]
      · rwa [h]
    obtain ⟨result_finite, mem, above⟩ := ih finite hxs
    obtain ⟨max_le, above⟩ := List.forall_mem_cons.1 above
    have max_value := (le_iff_value finite result_finite).1 max_le
    rw [List.foldl_cons]
    refine ⟨result_finite, ?_, List.forall_mem_cons.2 ⟨?_, List.forall_mem_cons.2 ⟨?_, above⟩⟩⟩
    · rcases List.mem_cons.1 mem with h | h
      · rw [h]
        rcases taken with h | h
        · rw [h]
          exact List.mem_cons_self
        · rw [h]
          exact List.mem_cons_of_mem _ List.mem_cons_self
      · exact List.mem_cons_of_mem _ (List.mem_cons_of_mem _ h)
    · exact (le_iff_value hbest result_finite).2 (best_le.trans max_value)
    · exact (le_iff_value hx result_finite).2 (x_le.trans max_value)

end RootFinding.Double
