import Mathlib.Algebra.Order.Monoid.WithTop
import Mathlib.Order.WithBot
import RootFinding.Proofs.Double.Order

/-!
# Doubles among the extended numbers

A double that is a number has a `level`: its value, or one of the two infinities. Doubles are in the
order of their levels (`lt_iff_level`, `le_iff_level`), and nothing is in any order with a value
that is not a number. So the comparisons of doubles can be chained like those of a linear order, and
the running maximum of numbers is at least as large as each of them (`le_foldl_maxWith`).
-/

namespace RootFinding.Double

open Number
open Float.Model (UnpackedFloat)
open Float.Model.UnpackedFloat (Sign)

/-- The place of a decoded double among the rational numbers and the two infinities. -/
def level : UnpackedFloat → WithBot (WithTop ℚ)
  | .infinity .negative => ⊥
  | .infinity .positive => ⊤
  | u => ((decodedValue u : WithTop ℚ) : WithBot (WithTop ℚ))

theorem level_of_isFinite {u : UnpackedFloat} (h : u.isFinite = true) :
    level u = ((decodedValue u : WithTop ℚ) : WithBot (WithTop ℚ)) := by
  cases u with
  | infinity sign => cases h
  | notANumber => cases h
  | zero sign => rfl
  | finite sign m e positive => rfl

theorem exists_infinity {u : UnpackedFloat} (number : u.isNaN = false)
    (infinite : ¬u.isFinite = true) : ∃ sign, u = .infinity sign := by
  cases u with
  | infinity sign => exact ⟨sign, rfl⟩
  | notANumber => cases number
  | zero sign => exact absurd rfl infinite
  | finite sign m e positive => exact absurd rfl infinite

/-- Rational numbers keep their order among the extended ones. -/
theorem compare_coe (p q : ℚ) :
    compare ((p : WithTop ℚ) : WithBot (WithTop ℚ)) ((q : WithTop ℚ) : WithBot (WithTop ℚ)) =
      compare p q := by
  rw [← cmp_eq_compare, ← cmp_eq_compare]
  exact (WithBot.coe_strictMono.comp WithTop.coe_strictMono).cmp_map_eq p q

/-- Rational numbers are less than the greatest extended one. -/
theorem coe_lt_top (p : ℚ) : ((p : WithTop ℚ) : WithBot (WithTop ℚ)) < ⊤ :=
  WithBot.coe_lt_coe.2 (WithTop.coe_lt_top p)

/-- Two decoded doubles that are numbers are in the order of their levels. -/
theorem compare_level {u v : UnpackedFloat} (hu : u.isNaN = false) (hv : v.isNaN = false)
    (canonical_u : IsCanonical u) (canonical_v : IsCanonical v) :
    u.compare v = some (compare (level u) (level v)) := by
  by_cases finite_u : u.isFinite = true
  · rw [level_of_isFinite finite_u]
    by_cases finite_v : v.isFinite = true
    · rw [level_of_isFinite finite_v, compare_coe]
      exact compare_decodedValue finite_u finite_v canonical_u canonical_v
    · obtain ⟨sign, rfl⟩ := exists_infinity hv finite_v
      rw [compare_infinity sign finite_u]
      cases sign with
      | negative => exact congrArg some (compare_gt_iff_gt.2 (WithBot.bot_lt_coe _)).symm
      | positive => exact congrArg some (compare_lt_iff_lt.2 (coe_lt_top _)).symm
  · obtain ⟨sign, rfl⟩ := exists_infinity hu finite_u
    by_cases finite_v : v.isFinite = true
    · rw [level_of_isFinite finite_v, infinity_compare sign finite_v]
      cases sign with
      | negative => exact congrArg some (compare_lt_iff_lt.2 (WithBot.bot_lt_coe _)).symm
      | positive => exact congrArg some (compare_gt_iff_gt.2 (coe_lt_top _)).symm
    · obtain ⟨sign', rfl⟩ := exists_infinity hv finite_v
      cases sign with
      | negative =>
        cases sign' with
        | negative => exact congrArg some (compare_eq_iff_eq.2 rfl).symm
        | positive => exact congrArg some (compare_lt_iff_lt.2 bot_lt_top).symm
      | positive =>
        cases sign' with
        | negative => exact congrArg some (compare_gt_iff_gt.2 bot_lt_top).symm
        | positive => exact congrArg some (compare_eq_iff_eq.2 rfl).symm

section Numbers

variable {x y : Float} (hx : x.isNaN = false) (hy : y.isNaN = false)

include hx hy

/-- The order of two doubles that are numbers is the order of their levels. -/
theorem compare_eq_some_level :
    (decoded x).compare (decoded y) = some (compare (level (decoded x)) (level (decoded y))) :=
  compare_level hx hy (isCanonical_decoded x) (isCanonical_decoded y)

theorem lt_iff_level : x < y ↔ level (decoded x) < level (decoded y) := by
  rw [lt_iff, compare_eq_some_level hx hy, Option.some.injEq, compare_lt_iff_lt]

theorem le_iff_level : x ≤ y ↔ level (decoded x) ≤ level (decoded y) := by
  rw [le_iff, compare_eq_some_level hx hy, Option.any_some, Ordering.isLE_iff_ne_gt,
    compare_gt_iff_gt, not_lt]

/-- Of two numbers that are not in order one way, the other is the smaller one. -/
protected theorem le_of_not_le (h : ¬x ≤ y) : y ≤ x := by
  rw [le_iff_level hx hy] at h
  exact (le_iff_level hy hx).2 (not_le.1 h).le

end Numbers

/-! ## Chains of comparisons -/

/-- What compares with anything is a number. -/
theorem numbers_of_compare {u v : UnpackedFloat} {order : Ordering}
    (h : u.compare v = some order) : u.isNaN = false ∧ v.isNaN = false := by
  refine ⟨?_, ?_⟩
  · cases u with
    | notANumber => cases v <;> cases h
    | _ => rfl
  · cases v with
    | notANumber => cases u <;> cases h
    | _ => rfl

section Chains

variable {x y z : Float}

theorem numbers_of_lt (h : x < y) : x.isNaN = false ∧ y.isNaN = false :=
  numbers_of_compare (lt_iff.1 h)

theorem numbers_of_le (h : x ≤ y) : x.isNaN = false ∧ y.isNaN = false := by
  rw [le_iff] at h
  obtain ⟨order, comparison⟩ := Option.isSome_iff_exists.1 (Option.isSome_of_any h)
  exact numbers_of_compare comparison

protected theorem le_refl (hx : x.isNaN = false) : x ≤ x :=
  (le_iff_level hx hx).2 le_rfl

protected theorem le_of_lt (h : x < y) : x ≤ y := by
  obtain ⟨hx, hy⟩ := numbers_of_lt h
  exact (le_iff_level hx hy).2 ((lt_iff_level hx hy).1 h).le

protected theorem le_trans (below : x ≤ y) (above : y ≤ z) : x ≤ z := by
  obtain ⟨hx, hy⟩ := numbers_of_le below
  obtain ⟨-, hz⟩ := numbers_of_le above
  rw [le_iff_level hx hz]
  exact ((le_iff_level hx hy).1 below).trans ((le_iff_level hy hz).1 above)

protected theorem lt_of_lt_of_le (below : x < y) (above : y ≤ z) : x < z := by
  obtain ⟨hx, hy⟩ := numbers_of_lt below
  obtain ⟨-, hz⟩ := numbers_of_le above
  rw [lt_iff_level hx hz]
  exact ((lt_iff_level hx hy).1 below).trans_le ((le_iff_level hy hz).1 above)

protected theorem lt_of_le_of_lt (below : x ≤ y) (above : y < z) : x < z := by
  obtain ⟨hx, hy⟩ := numbers_of_le below
  obtain ⟨-, hz⟩ := numbers_of_lt above
  rw [lt_iff_level hx hz]
  exact ((le_iff_level hx hy).1 below).trans_lt ((lt_iff_level hy hz).1 above)

end Chains

/-! ## Running maxima -/

/-- The larger of two numbers is at least as large as both. -/
theorem le_maxWith {best x : Float} (hbest : best.isNaN = false) (hx : x.isNaN = false) :
    best ≤ maxWith best x ∧ x ≤ maxWith best x := by
  rw [maxWith]
  split
  · next h => exact ⟨h, Double.le_refl hx⟩
  · next h => exact ⟨Double.le_refl hbest, Double.le_of_not_le hbest hx h⟩

/-- The running maximum of numbers, infinities among them, is at least as large as each. -/
theorem le_foldl_maxWith {xs : List Float} {best : Float} (hbest : best.isNaN = false)
    (hxs : ∀ x ∈ xs, x.isNaN = false) : ∀ x ∈ best :: xs, x ≤ xs.foldl maxWith best := by
  induction xs generalizing best with
  | nil => simpa using Double.le_refl hbest
  | cons x xs ih =>
    obtain ⟨hx, hxs⟩ := List.forall_mem_cons.1 hxs
    obtain ⟨best_le, x_le⟩ := le_maxWith hbest hx
    obtain ⟨max_le, above⟩ := List.forall_mem_cons.1 (ih (numbers_of_le x_le).2 hxs)
    rw [List.foldl_cons]
    refine List.forall_mem_cons.2 ⟨?_, List.forall_mem_cons.2 ⟨?_, above⟩⟩
    · exact Double.le_trans best_le max_le
    · exact Double.le_trans x_le max_le

end RootFinding.Double
