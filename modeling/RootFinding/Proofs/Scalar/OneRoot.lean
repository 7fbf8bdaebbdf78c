import RootFinding.Proofs.Double.Signs
import RootFinding.Proofs.Scalar.SignChange

/-!
# The single-root test

The test for a single root compares signs twice: of the values at the two ends, and of the slope at
each sample with the slope at `left`. Both times it looks at a computed product, and takes every
product that is not on the wrong side of zero for an agreement of the signs. So what it accepts need
not have one root: either product can be lost (`IsLost`), and a slope of zero at `left` agrees with
every finite slope.

`agrees_with_samples_iff` says that these are the only ways for the test to accept a function
against its own samples, and `hasOneRoot_iff_of_zero_slope` what is left of the test if the slope at
`left` is zero.
-/

namespace RootFinding

open Number Double
open Float.Model.UnpackedFloat (Sign)

/-! ## What the test asks -/

namespace ScalarFunction

variable {α : Type} [Number α] {f : ScalarFunction α} {left right : α} {splits : Nat}

/-- The slopes that the test compares with the slope at `left`: those at the ends of the steps. -/
def sampledSlopes (f : ScalarFunction α) (left right : α) (splits : Nat) : List α :=
  (List.range splits).map fun i =>
    f.derivative (cutAt right (left + (right - left) / ofNat splits * ofNat (i + 1)))

theorem hasOneRoot_eq_true_iff :
    f.hasOneRoot left right splits = .ok true ↔
      (∃ s, Interval.ofBounds left right = .ok s) ∧
        ¬maxSplitStep < (right - left) / ofNat splits ∧
        ¬zero < f.eval left * f.eval right ∧
        ∀ d ∈ f.sampledSlopes left right splits, zero ≤ d * f.derivative left := by
  unfold hasOneRoot
  rw [bind_eq_ok]
  constructor
  · rintro ⟨s, hs, h⟩
    obtain ⟨rfl, rfl⟩ := Interval.bounds_of_ofBounds hs
    dsimp only at h
    split at h
    · cases h
    next fine =>
    split at h
    · cases h
    next sign =>
    refine ⟨⟨s, hs⟩, fine, sign, ?_⟩
    have agree := Except.ok.inj h
    rw [Nat.all_eq_finRange_all, List.all_eq_true] at agree
    refine List.forall_mem_map.2 ?_
    intro i hi
    exact of_decide_eq_true (agree ⟨i, List.mem_range.1 hi⟩ (List.mem_finRange _))
  · rintro ⟨⟨s, hs⟩, fine, sign, agree⟩
    obtain ⟨rfl, rfl⟩ := Interval.bounds_of_ofBounds hs
    refine ⟨s, hs, ?_⟩
    have step : ¬maxSplitStep < s.width / ofNat splits := fine
    dsimp only
    rw [if_neg step, if_neg sign]
    refine congrArg Except.ok ?_
    rw [Nat.all_eq_finRange_all, List.all_eq_true]
    intro i _
    exact decide_eq_true (List.forall_mem_map.1 agree i.1 (List.mem_range.2 i.2))

end ScalarFunction

namespace Scalar

/-! ## Signs of slopes -/

/-- One slope is positive, and the other one negative. -/
def OppositeSigns (a b : Float) : Prop := (zero < a ∧ b < zero) ∨ (a < zero ∧ zero < b)

instance (a b : Float) : Decidable (OppositeSigns a b) := inferInstanceAs (Decidable (_ ∨ _))

/-- A slope is neither positive nor negative. -/
def IsFlat (a : Float) : Prop := ¬zero < a ∧ ¬a < zero

instance (a : Float) : Decidable (IsFlat a) := inferInstanceAs (Decidable (_ ∧ _))

/-- The exact product of two slopes is negative, and so small that the computed one is a zero. -/
def UnderflowsBelow (a b : Float) : Prop :=
  value a * value b < 0 ∧ -halfLeast ≤ value a * value b

section Signs

variable {a b c : Float}

/-- The computed product of values of one sign is positive, or lost. -/
theorem isLost_of_sameSign (h : SameSign a b) (product : ¬zero < a * b) : IsLost a b := by
  rw [zero_lt_iff_isNonzero] at product
  rcases h with ⟨ha, hb⟩ | ⟨ha, hb⟩
  · rw [zero_lt_iff_isNonzero] at ha hb
    exact (mul_of_isNonzero ha hb).resolve_left product
  · rw [lt_zero_iff_isNonzero] at ha hb
    exact (mul_of_isNonzero ha hb).resolve_left product

/-- The computed product of slopes of opposite signs is negative, or lost. -/
theorem isLost_of_oppositeSigns (h : OppositeSigns a b) (product : ¬a * b < zero) :
    IsLost a b := by
  rw [lt_zero_iff_isNonzero] at product
  rcases h with ⟨ha, hb⟩ | ⟨ha, hb⟩
  · rw [zero_lt_iff_isNonzero] at ha
    rw [lt_zero_iff_isNonzero] at hb
    exact (mul_of_isNonzero ha hb).resolve_left product
  · rw [lt_zero_iff_isNonzero] at ha
    rw [zero_lt_iff_isNonzero] at hb
    exact (mul_of_isNonzero ha hb).resolve_left product

/-- Doubles with an exact product other than zero are finite. -/
theorem isFinite_of_mul_ne_zero (h : value a * value b ≠ 0) :
    a.isFinite = true ∧ b.isFinite = true :=
  ⟨isFinite_of_value_ne_zero (left_ne_zero_of_mul h),
    isFinite_of_value_ne_zero (right_ne_zero_of_mul h)⟩

/-- Values whose computed product is not positive have one sign exactly if it underflows. -/
theorem sameSign_iff_underflows (h : ¬zero < a * b) : SameSign a b ↔ Underflows a b := by
  constructor
  · intro same
    have lost := isLost_of_sameSign same h
    exact ⟨(sameSign_iff lost.left lost.right).1 same, (abs_le.1 lost.small).2⟩
  · intro underflows
    obtain ⟨ha, hb⟩ := isFinite_of_mul_ne_zero underflows.1.ne'
    exact underflows.sameSign ha hb

theorem oppositeSigns_iff (ha : a.isFinite = true) (hb : b.isFinite = true) :
    OppositeSigns a b ↔ value a * value b < 0 := by
  rw [OppositeSigns, zero_lt_iff ha, zero_lt_iff hb, lt_zero_iff ha, lt_zero_iff hb, mul_neg_iff]

/-- Slopes whose computed product is at least zero have opposite signs exactly if it underflows. -/
theorem oppositeSigns_iff_underflowsBelow (h : zero ≤ a * b) :
    OppositeSigns a b ↔ UnderflowsBelow a b := by
  constructor
  · intro opposite
    have lost := isLost_of_oppositeSigns opposite fun negative => not_zero_le_of_lt_zero negative h
    exact ⟨(oppositeSigns_iff lost.left lost.right).1 opposite, (abs_le.1 lost.small).1⟩
  · intro underflows
    obtain ⟨ha, hb⟩ := isFinite_of_mul_ne_zero underflows.1.ne
    exact (oppositeSigns_iff ha hb).2 underflows.1

theorem OppositeSigns.symm (h : OppositeSigns a b) : OppositeSigns b a :=
  (Or.symm h).imp And.symm And.symm

/-- Two slopes that are not opposite to a third one, which is not flat, are not opposite to each
other. -/
theorem not_oppositeSigns_of_not_isFlat (h : ¬IsFlat c) (ha : ¬OppositeSigns a c)
    (hb : ¬OppositeSigns b c) : ¬OppositeSigns a b := by
  rcases not_and_or.1 h with hc | hc
  · have positive := not_not.1 hc
    rintro (⟨-, hneg⟩ | ⟨hneg, -⟩)
    · exact hb (.inr ⟨hneg, positive⟩)
    · exact ha (.inr ⟨hneg, positive⟩)
  · have negative := not_not.1 hc
    rintro (⟨hpos, -⟩ | ⟨-, hpos⟩)
    · exact ha (.inl ⟨hpos, negative⟩)
    · exact hb (.inl ⟨hpos, negative⟩)

end Signs

/-- No two of the slopes have opposite signs. -/
def KeepSign (ds : List Float) : Prop := ds.Pairwise fun a b => ¬OppositeSigns a b

instance (ds : List Float) : Decidable (KeepSign ds) :=
  inferInstanceAs (Decidable (ds.Pairwise _))

/-- Slopes that are compared only with the first one keep its sign exactly if no comparison is lost,
and they keep a sign of their own where the first one has none. -/
theorem keepSign_iff {d : Float} {ds : List Float} (h : ∀ a ∈ ds, zero ≤ a * d) :
    KeepSign (d :: ds) ↔ (∀ a ∈ ds, ¬UnderflowsBelow a d) ∧ (IsFlat d → KeepSign ds) := by
  have compared : (∀ a ∈ ds, ¬UnderflowsBelow a d) ↔ ∀ a ∈ ds, ¬OppositeSigns d a := by
    refine forall₂_congr ?_
    intro a ha
    rw [← oppositeSigns_iff_underflowsBelow (h a ha)]
    exact not_congr ⟨OppositeSigns.symm, OppositeSigns.symm⟩
  rw [compared, KeepSign, List.pairwise_cons]
  refine and_congr_right ?_
  intro agree
  refine ⟨fun pairwise _ => pairwise, ?_⟩
  intro hflat
  by_cases flat : IsFlat d
  · exact hflat flat
  · refine List.pairwise_of_forall_mem_list ?_
    intro a ha b hb
    exact not_oppositeSigns_of_not_isFlat flat (mt OppositeSigns.symm (agree a ha))
      (mt OppositeSigns.symm (agree b hb))

/-! ## What an accepted function is like -/

section Accepted

variable {f : ScalarFunction Float} {left right : Float} {splits : Nat}

/-- An accepted function changes its sign and has slopes of one sign, as far as the samples tell,
exactly if no product is lost, neither that of the values at the ends nor one of slopes, and if the
slopes are of one sign where the first one, with which they are compared, has none. -/
theorem agrees_with_samples_iff (h : f.hasOneRoot left right splits = .ok true) :
    (¬SameSign (f.eval left) (f.eval right) ∧
        KeepSign (f.derivative left :: f.sampledSlopes left right splits)) ↔
      ¬Underflows (f.eval left) (f.eval right) ∧
        (∀ d ∈ f.sampledSlopes left right splits, ¬UnderflowsBelow d (f.derivative left)) ∧
        (IsFlat (f.derivative left) → KeepSign (f.sampledSlopes left right splits)) := by
  obtain ⟨-, -, ends, slopes⟩ := ScalarFunction.hasOneRoot_eq_true_iff.1 h
  rw [sameSign_iff_underflows ends, keepSign_iff slopes]

/-- A line with one root between zero and two. -/
def line : ScalarFunction Float where
  label := "x - 1"
  eval x := x - 1

theorem line_agrees_with_samples : line.hasOneRoot 0 2 4 = .ok true ∧
    ((¬SameSign (line.eval 0) (line.eval 2) ∧
        KeepSign (line.derivative 0 :: line.sampledSlopes 0 2 4)) ↔
      ¬Underflows (line.eval 0) (line.eval 2) ∧
        (∀ d ∈ line.sampledSlopes 0 2 4, ¬UnderflowsBelow d (line.derivative 0)) ∧
        (IsFlat (line.derivative 0) → KeepSign (line.sampledSlopes 0 2 4))) := by
  have accepted : line.hasOneRoot 0 2 4 = .ok true := by decide +kernel
  exact ⟨accepted, agrees_with_samples_iff accepted⟩

/-- A polynomial with a slope of zero at zero, and three roots to the right. -/
def evenSextic : ScalarFunction Float where
  label := "(x^2 - 0.04)(x^2 - 0.16)(x^2 - 0.36)"
  eval x := (x * x - 0.04) * (x * x - 0.16) * (x * x - 0.36)

/-- A cubic with three roots around zero, and small values. -/
def smallCubic : ScalarFunction Float where
  label := "1e-200 (x^3 - 0.01 x)"
  eval x := 1e-200 * (x * x * x - 0.01 * x)

/-- A line with no root to the right of zero, and small values. -/
def smallRise : ScalarFunction Float where
  label := "1e-200 (x + 1)"
  eval x := 1e-200 * (x + 1)

/-- The three ways to be accepted against the samples: a slope of zero at the left end, a lost
product of slopes, and a lost product of the values at the ends. -/
theorem accepts_against_samples :
    (evenSextic.hasOneRoot 0 0.8 2 = .ok true ∧
        ¬KeepSign (evenSextic.derivative 0 :: evenSextic.sampledSlopes 0 0.8 2)) ∧
      (smallCubic.hasOneRoot (-0.2) 0.25 2 = .ok true ∧
        ¬KeepSign (smallCubic.derivative (-0.2) :: smallCubic.sampledSlopes (-0.2) 0.25 2)) ∧
      (smallRise.hasOneRoot 0 1 2 = .ok true ∧
        SameSign (smallRise.eval 0) (smallRise.eval 1)) := by
  decide +kernel

/-- With a slope of zero at `left`, the signs of the other slopes do not matter. -/
theorem hasOneRoot_iff_of_zero_slope {sign : Sign} (h : decoded (f.derivative left) = .zero sign) :
    f.hasOneRoot left right splits = .ok true ↔
      (∃ s, Interval.ofBounds left right = .ok s) ∧
        ¬ScalarFunction.maxSplitStep < (right - left) / ofNat splits ∧
        ¬zero < f.eval left * f.eval right ∧
        ∀ d ∈ f.sampledSlopes left right splits, d.isFinite = true := by
  simp only [ScalarFunction.hasOneRoot_eq_true_iff, zero_le_mul_iff_of_zero h]

end Accepted

end Scalar

end RootFinding
