import RootFinding.Proofs.Double.Order

/-!
# Products of doubles with known signs

`Product` reads the sign of a computed product off the exact one, for finite doubles. Here the signs
of the two doubles are known, and they may be infinite. Then the computed product has the sign that
it should have, or it is lost: the exact product is at most `halfLeast` in magnitude, and only
finite doubles have such a product.
-/

namespace RootFinding.Double

open Number
open Float.Model (UnpackedFloat)
open Float.Model.UnpackedFloat (Sign pack unpack)

/-! ## Signs -/

theorem isNonzero_positive_iff {u : UnpackedFloat} :
    IsNonzero .positive u ↔ UnpackedFloat.compare (.zero .positive) u = some .lt := by
  refine ⟨fun h => (h.compare_positive _).1, ?_⟩
  cases u with
  | notANumber => nofun
  | zero sign => nofun
  | infinity sign =>
    cases sign with
    | positive => exact fun _ => .infinity
    | negative => nofun
  | finite sign m e positive =>
    cases sign with
    | positive => exact fun _ => .finite positive
    | negative => nofun

theorem IsNonzero.compare_negative {u : UnpackedFloat} (h : IsNonzero .negative u) (sign : Sign) :
    UnpackedFloat.compare (.zero sign) u = some .gt ∧ u.compare (.zero sign) = some .lt := by
  cases h with
  | infinity => exact ⟨rfl, rfl⟩
  | finite positive => exact ⟨rfl, rfl⟩

theorem isNonzero_negative_iff {u : UnpackedFloat} :
    IsNonzero .negative u ↔ u.compare (.zero .positive) = some .lt := by
  refine ⟨fun h => (h.compare_negative _).2, ?_⟩
  cases u with
  | notANumber => nofun
  | zero sign => nofun
  | infinity sign =>
    cases sign with
    | positive => nofun
    | negative => exact fun _ => .infinity
  | finite sign m e positive =>
    cases sign with
    | positive => nofun
    | negative => exact fun _ => .finite positive

/-- A double is positive exactly if it is decoded as something nonzero with a plus sign. -/
theorem zero_lt_iff_isNonzero {x : Float} : zero < x ↔ IsNonzero .positive (decoded x) :=
  lt_iff.trans isNonzero_positive_iff.symm

/-- A double is negative exactly if it is decoded as something nonzero with a minus sign. -/
theorem lt_zero_iff_isNonzero {x : Float} : x < zero ↔ IsNonzero .negative (decoded x) :=
  lt_iff.trans isNonzero_negative_iff.symm

/-- A negative double is not at least zero. -/
theorem not_zero_le_of_lt_zero {x : Float} (h : x < zero) : ¬zero ≤ x := by
  rw [le_iff, decoded_zero, ((lt_zero_iff_isNonzero.1 h).compare_negative _).1]
  nofun

/-- Only finite doubles have a value other than zero. -/
theorem isFinite_of_value_ne_zero {x : Float} (h : value x ≠ 0) : x.isFinite = true := by
  show (decoded x).isFinite = true
  rw [value] at h
  cases hx : decoded x with
  | finite sign m e positive => rfl
  | zero sign => rfl
  | infinity sign => exact absurd (congrArg decodedValue hx) h
  | notANumber => exact absurd (congrArg decodedValue hx) h

/-! ## Products -/

theorem decoded_mul (a b : Float) : decoded (a * b) =
    unpack .binary64 (pack .binary64 (UnpackedFloat.mul .binary64 (decoded a) (decoded b))) := rfl

/-- A product with a zero is at least zero if it is a number, so unless the other double is infinite
or not a number. -/
theorem zero_le_mul_iff_of_zero {a b : Float} {sign : Sign} (hb : decoded b = .zero sign) :
    zero ≤ a * b ↔ a.isFinite = true := by
  have finite : a.isFinite = (decoded a).isFinite := rfl
  have not_number : (UnpackedFloat.compare (.zero .positive)
      (unpack .binary64 (pack .binary64 .notANumber))).any (·.isLE) = false := by
    have canonical : IsCanonical .notANumber := trivial
    rw [unpack_pack canonical]
    rfl
  have zero_case (s : Sign) : (UnpackedFloat.compare (.zero .positive)
      (unpack .binary64 (pack .binary64 (.zero s)))).any (·.isLE) = true := by
    have canonical : IsCanonical (.zero s) := trivial
    rw [unpack_pack canonical]
    rfl
  rw [le_iff, decoded_zero, decoded_mul, hb, finite]
  cases decoded a with
  | notANumber => exact iff_of_false (ne_true_of_eq_false not_number) Bool.false_ne_true
  | infinity s => exact iff_of_false (ne_true_of_eq_false not_number) Bool.false_ne_true
  | zero s => exact iff_of_true (zero_case (s * sign)) rfl
  | finite s m e positive => exact iff_of_true (zero_case (s * sign)) rfl

/-- The exact product of two finite doubles is so small that nothing is left of the computed one. -/
structure IsLost (a b : Float) : Prop where
  left : a.isFinite = true
  right : b.isFinite = true
  small : |value a * value b| ≤ halfLeast

/-- The computed product of two nonzero doubles has the product of their signs, or is lost. -/
theorem mul_of_isNonzero {a b : Float} {s t : Sign} (ha : IsNonzero s (decoded a))
    (hb : IsNonzero t (decoded b)) : IsNonzero (s * t) (decoded (a * b)) ∨ IsLost a b := by
  have infinite : IsNonzero (s * t) (unpack .binary64 (pack .binary64 (.infinity (s * t)))) := by
    have canonical : IsCanonical (.infinity (s * t)) := trivial
    rw [unpack_pack canonical]
    exact .infinity
  rw [decoded_mul]
  generalize hu : decoded a = u at ha ⊢
  generalize hv : decoded b = v at hb ⊢
  cases ha with
  | infinity => cases hb <;> exact .inl infinite
  | @finite m e positive =>
    cases hb with
    | infinity => exact .inl infinite
    | @finite m' e' positive' =>
      rcases decoded_round (s * t) (Nat.mul_pos positive positive') (e + e') with
        ⟨small, -⟩ | ⟨-, nonzero⟩
      · have finite {x : Float} {sign : Sign} {m : Nat} {e : Int} {h : 0 < m}
            (hx : decoded x = .finite sign m e h) : x.isFinite = true :=
          congrArg UnpackedFloat.isFinite hx
        refine .inr ⟨finite hu, finite hv, ?_⟩
        have magnitude : (0 : ℚ) ≤ (m * m' : Nat) * 2 ^ (e + e') := by positivity
        rw [value, value, hu, hv, decodedValue_mul, abs_signed, abs_of_nonneg magnitude]
        exact small
      · exact .inl nonzero

end RootFinding.Double
