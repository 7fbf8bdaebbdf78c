import RootFinding.Proofs.Double.Accuracy

/-!
# Whole numbers among the doubles

A natural number of at most 53 bits is a double: counts become doubles and come back unchanged. A
double that is not negative is cut to a word by dropping what follows its point
(`toNat_toUInt64`), and the least whole double that is not smaller is the least whole number that is
not smaller (`value_ceil`).

## Shape of the arguments

* Filled up with zeros to 53 bits, a natural number is a decoded form (`exists_canonical_eq`), and
  what is the value of a double is not rounded.
* A decoded form is cut by shifting its mantissa, and a shift is a division (`isQuotient_one`).
* The doubles from `2 ^ 53` on are multiples of the unit one, so they are whole already.
-/

namespace RootFinding.Double

open Number
open Float.Model (UnpackedFloat)
open Float.Model.UnpackedFloat

/-! ## Natural numbers -/

/-- A natural number of at most 53 bits is the value of a double. -/
theorem exists_canonical_eq {n : Nat} (h : n < 2 ^ 53) :
    ∃ u, IsCanonical u ∧ u.isFinite = true ∧ decodedValue u = n := by
  rcases Nat.eq_zero_or_pos n with rfl | positive
  · exact ⟨.zero .positive, trivial, rfl, Nat.cast_zero.symm⟩
  · have low : 2 ^ n.log2 ≤ n := Nat.log2_self_le positive.ne'
    have high : n < 2 ^ (n.log2 + 1) := Nat.lt_log2_self
    have bits : n.log2 < 53 := (Nat.log2_lt positive.ne').2 h
    generalize n.log2 = k at low high bits
    have unit_pos : 0 < 2 ^ (52 - k) := Nat.two_pow_pos _
    refine ⟨.finite .positive (n * 2 ^ (52 - k)) (-(52 - k : Nat)) (Nat.mul_pos positive unit_pos),
      ⟨?_, by omega, by omega, .inl ?_⟩, rfl, ?_⟩
    · calc n * 2 ^ (52 - k) < 2 ^ (k + 1) * 2 ^ (52 - k) :=
          Nat.mul_lt_mul_of_pos_right high unit_pos
        _ = 2 ^ 53 := by rw [← Nat.pow_add]; congr 1; omega
    · calc 2 ^ 52 = 2 ^ k * 2 ^ (52 - k) := by rw [← Nat.pow_add]; congr 1; omega
        _ ≤ n * 2 ^ (52 - k) := Nat.mul_le_mul_right _ low
    · rw [decodedValue_finite, signed, Nat.cast_mul, Nat.cast_pow, Nat.cast_ofNat, mul_assoc,
        ← zpow_natCast, ← zpow_add₀ two_ne_zero, add_neg_cancel, zpow_zero, mul_one]

/-- A natural number of at most 53 bits is not rounded. -/
theorem IsRounding.natural {n : Nat} {x : Float} (h : IsRounding n x) (bits : n < 2 ^ 53) :
    x.isFinite = true ∧ value x = n := by
  obtain ⟨u, canonical, finite, same⟩ := exists_canonical_eq bits
  have small : |(n : ℚ)| < overflowBound := same ▸ abs_decodedValue_lt canonical
  have finite_x := h.isFinite_iff.2 small
  refine ⟨finite_x, le_antisymm ?_ ?_⟩
  · exact same ▸ (h.nearest finite_x).le canonical finite same.ge
  · exact same ▸ (h.nearest finite_x).ge canonical finite same.le

/-- A word of at most 53 bits becomes a double of its value. -/
theorem toFloat_eq {n : UInt64} (h : n.toNat < 2 ^ 53) :
    n.toFloat.isFinite = true ∧ value n.toFloat = n.toNat := by
  have rounds := roundsTo_normalize n.toNat 0 .positive
  rw [zpow_zero, mul_one, Int.cast_natCast] at rounds
  exact (rounds.isRounding (x := n.toFloat) rfl).natural h

/-- So does a natural number. -/
theorem ofNat_eq {n : Nat} (h : n < 2 ^ 53) :
    (Number.ofNat n : Float).isFinite = true ∧ value (Number.ofNat n) = n := by
  have word : n.toUInt64.toNat = n := Nat.mod_eq_of_lt (by omega)
  obtain ⟨finite, value_eq⟩ := toFloat_eq (n := n.toUInt64) (word.symm ▸ h)
  -- the library multiplies by the power of ten of exponent zero
  have one_eq : value (Float.ofBits 0x3FF0000000000000) = 1 := by
    have decoded_one : decoded (Float.ofBits 0x3FF0000000000000) =
      .finite .positive (2 ^ 52) (-52) (by decide) := rfl
    rw [value, decoded_one, decodedValue_finite, signed]
    norm_num
  have product : (Number.ofNat n : Float) = n.toUInt64.toFloat * Float.ofBits 0x3FF0000000000000 :=
    dif_pos ⟨h, by decide⟩
  have rounding := isRounding_mul finite (y := Float.ofBits 0x3FF0000000000000) rfl
  rw [one_eq, mul_one, value_eq, word, ← product] at rounding
  exact rounding.natural h

/-! ## Truncation -/

/-- The whole part of a magnitude: bits above the point are filled up, bits below it are shifted
out. -/
theorem roundToInt_eq (sign : Sign) (m : Nat) (e : Int) :
    roundToInt sign m e = sign.apply ⌊(m : ℚ) * 2 ^ e⌋₊ := by
  have shifted := (isShifted_shiftRight (m <<< e.toNat) (-(e - e.toNat)).toNat).mantissa
  have whole : ⌊(m : ℚ) * 2 ^ e⌋₊ = m <<< e.toNat / 2 ^ (-(e - e.toNat)).toNat := by
    rw [← Nat.floor_div_eq_div (K := ℚ), Nat.shiftLeft_eq]
    congr 1
    push_cast
    rw [mul_div_assoc, ← zpow_natCast, ← zpow_natCast, ← zpow_sub₀ two_ne_zero]
    congr 2
    omega
  rw [whole, ← shifted]
  unfold roundToInt decreaseExponent shiftToExponent
  simp only [sub_zero, zero_sub]
  rfl

/-- A double that is not negative is cut to the word of its whole part. -/
theorem toNat_toUInt64 {x : Float} (hx : x.isFinite = true) (nonneg : 0 ≤ value x)
    (fits : value x < 2 ^ 64) : x.toUInt64.toNat = ⌊value x⌋₊ := by
  have whole : (decoded x).toInt 0 (UInt64.size - 1) = ⌊value x⌋₊ := by
    have finite : (decoded x).isFinite = true := hx
    rw [value] at nonneg ⊢
    cases hu : decoded x with
    | infinity s => rw [hu] at finite; cases finite
    | notANumber => rw [hu] at finite; cases finite
    | zero s => exact (congrArg Int.ofNat Nat.floor_zero).symm
    | finite s m e positive =>
      rw [hu] at nonneg
      cases s with
      | positive =>
        rw [toInt, roundToInt_eq, decodedValue_finite]
        rfl
      | negative => exact absurd (decodedValue_neg positive) (not_lt.2 nonneg)
  have word : ⌊value x⌋₊ < UInt64.size := (Nat.floor_lt nonneg).2 fits
  show (UInt64.ofNatClamp ((decoded x).toInt 0 (UInt64.size - 1)).toNat).toNat = _
  rw [whole, Int.toNat_natCast, UInt64.ofNatClamp_eq_ofNat _ word]
  exact Nat.mod_eq_of_lt word

/-! ## Rounding up -/

theorem value_neg (x : Float) : value (-x) = -value x := by
  rw [value, decoded_neg, decodedValue_opposite, value]

theorem isFinite_opposite (x : Float) : (-x).isFinite = x.isFinite := by
  show (decoded (-x)).isFinite = (decoded x).isFinite
  rw [decoded_neg, isFinite_neg]

/-- From here on all doubles are whole. -/
theorem value_wholeBound : value (Float.ofNat (Nat.pow 2 53)) = 2 ^ 53 := by
  have decoded_eq : decoded (Float.ofNat (Nat.pow 2 53)) =
    .finite .positive (2 ^ 52) 1 (by decide) := rfl
  rw [value, decoded_eq, decodedValue_finite, signed]
  norm_num

/-- A double is whole, or less than the least number of 53 bits. -/
theorem whole_or_small {x : Float} (hx : x.isFinite = true) :
    (∃ n : ℤ, value x = n) ∨ |value x| < 2 ^ 52 := by
  rcases multiple_or_small (isCanonical_decoded x) hx 0 with ⟨n, hn⟩ | ⟨-, small⟩
  · rw [zpow_zero, mul_one] at hn
    exact .inl ⟨n, hn⟩
  · rw [zpow_zero, mul_one] at small
    exact .inr small

/-- What is rounded up of a positive double that is not too large for a word. -/
theorem ceil_positive {x : Float} (hx : x.isFinite = true) (positive : 0 < value x)
    (bits : value x < 2 ^ 53) :
    let whole := x.toUInt64.toFloat
    let up := if whole < x then whole + Float.ofNat 1 else whole
    up.isFinite = true ∧ value up = ⌈value x⌉ := by
  have floor_eq := toNat_toUInt64 hx positive.le (bits.trans (by norm_num))
  have floor_lt : ⌊value x⌋₊ < 2 ^ 53 := (Nat.floor_lt positive.le).2 (by exact_mod_cast bits)
  have floor_le := Nat.floor_le positive.le
  obtain ⟨finite, value_eq⟩ := toFloat_eq (n := x.toUInt64) (floor_eq.symm ▸ floor_lt)
  rw [floor_eq] at value_eq
  dsimp only
  split
  · next below =>
    rw [lt_iff_value finite hx, value_eq] at below
    -- the double is not whole, so it has few bits before the point
    have small : |value x| < 2 ^ 52 := by
      refine (whole_or_small hx).resolve_left ?_
      rintro ⟨n, hn⟩
      rw [hn] at below positive
      lift n to ℕ using (Int.cast_pos.1 positive).le
      rw [Int.cast_natCast, Nat.floor_natCast] at below
      exact lt_irrefl _ below
    have few : ⌊value x⌋₊ + 1 < 2 ^ 53 := by
      have : ⌊value x⌋₊ < 2 ^ 52 :=
        (Nat.floor_lt positive.le).2 (by exact_mod_cast (le_abs_self _).trans_lt small)
      omega
    obtain ⟨finite_one, value_one⟩ := ofNat_eq (n := 1) (by norm_num)
    have rounding := isRounding_add finite finite_one
    rw [value_eq, value_one, ← Nat.cast_add] at rounding
    obtain ⟨finite_up, value_up⟩ := rounding.natural few
    refine ⟨finite_up, value_up.trans ?_⟩
    have ceil_eq : ⌈value x⌉ = (⌊value x⌋₊ + 1 : ℕ) := by
      rw [Int.ceil_eq_iff]
      push_cast
      exact ⟨by linarith, (Nat.lt_floor_add_one _).le⟩
    rw [ceil_eq, Int.cast_natCast]
  · next above =>
    rw [lt_iff_value finite hx, value_eq, not_lt] at above
    refine ⟨finite, value_eq.trans ?_⟩
    have same : value x = ⌊value x⌋₊ := le_antisymm above floor_le
    rw [same, Nat.floor_natCast, ← Int.cast_natCast, Int.ceil_intCast]

/-- A finite double is rounded up to the least whole number that is not smaller. -/
theorem ceil_eq {x : Float} (hx : x.isFinite = true) :
    (ceil x).isFinite = true ∧ value (ceil x) = ⌈value x⌉ := by
  have zero_eq : Float.ofNat 0 = (Number.zero : Float) := rfl
  show (ceilDouble x).isFinite = true ∧ value (ceilDouble x) = ⌈value x⌉
  unfold ceilDouble
  have small_iff := lt_iff_value (isFinite_abs hx) (y := Float.ofNat (Nat.pow 2 53)) rfl
  rw [value_abs, value_wholeBound] at small_iff
  change x.abs < _ ↔ _ at small_iff
  rw [zero_eq]
  split
  · next small =>
    have bits := abs_lt.1 (small_iff.1 small)
    split
    · next negative =>
      have below := (lt_zero_iff hx).1 negative
      have above : 0 ≤ value (-x) := by rw [value_neg]; exact (neg_pos.2 below).le
      have fits : value (-x) < 2 ^ 53 := by rw [value_neg]; linarith only [bits.1]
      have floor_eq := toNat_toUInt64 ((isFinite_opposite x).trans hx) above
        (fits.trans (by norm_num))
      have floor_lt : ⌊value (-x)⌋₊ < 2 ^ 53 := (Nat.floor_lt above).2 (by exact_mod_cast fits)
      obtain ⟨finite, value_eq⟩ := toFloat_eq (n := (-x).toUInt64) (floor_eq.symm ▸ floor_lt)
      refine ⟨(isFinite_opposite _).trans finite, ?_⟩
      rw [value_neg, value_eq, floor_eq, natCast_floor_eq_intCast_floor above, value_neg,
        Int.floor_neg, Int.cast_neg, neg_neg]
    · split
      · next positive => exact ceil_positive hx ((zero_lt_iff hx).1 positive) bits.2
      · next h h' =>
        rw [lt_zero_iff hx, not_lt] at h
        rw [zero_lt_iff hx, not_lt] at h'
        rw [le_antisymm h' h, Int.ceil_zero, Int.cast_zero]
        exact ⟨hx, rfl⟩
  · next large =>
    refine ⟨hx, ?_⟩
    rcases whole_or_small hx with ⟨n, hn⟩ | small
    · rw [hn, Int.ceil_intCast]
    · exact absurd (small_iff.2 (small.trans (by norm_num))) large

/-- Only finite doubles are rounded up to finite ones. -/
theorem isFinite_of_ceil {x : Float} (h : (ceil x).isFinite = true) : x.isFinite = true := by
  by_contra infinite
  have large : ¬x.abs < Float.ofNat (Nat.pow 2 53) := by
    have finite : (decoded (Float.ofNat (Nat.pow 2 53))).isFinite = true := rfl
    have abs_eq := decoded_abs x
    change ¬(decoded x).isFinite = true at infinite
    show ¬Number.abs x < _
    rw [lt_iff, abs_eq]
    cases hu : decoded x with
    | zero s => exact absurd (by rw [hu]; rfl) infinite
    | finite s m e positive => exact absurd (by rw [hu]; rfl) infinite
    | notANumber => nofun
    | infinity s =>
      rw [UnpackedFloat.abs, infinity_compare .positive finite]
      intro impossible
      cases impossible
  have same : ceil x = x := if_neg large
  exact infinite (same ▸ h)

end RootFinding.Double
