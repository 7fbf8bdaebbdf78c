import Mathlib.Algebra.Order.Field.Rat
import Mathlib.Algebra.Order.Group.Unbundled.Abs
import Mathlib.Data.Rat.Floor
import RootFinding.Number

/-!
# The operations on rational numbers

Over the rationals, the operations of `Number` are those of the ordered field: a magnitude is an
absolute value, and a running maximum is a maximum. Every number is finite.
-/

namespace RootFinding.Rational

open Number

@[simp] theorem ofNat_eq (n : ℕ) : (Number.ofNat n : ℚ) = n := rfl

@[simp] theorem zero_eq : (zero : ℚ) = 0 := rfl

@[simp] theorem one_eq : (one : ℚ) = 1 := rfl

@[simp] theorem two_eq : (two : ℚ) = 2 := rfl

@[simp] theorem three_eq : (three : ℚ) = 3 := rfl

@[simp] theorem isFinite_eq (a : ℚ) : isFinite a = true := rfl

theorem ceil_eq (a : ℚ) : ceil a = ⌈a⌉ := by
  show ((Rat.ceil a : ℤ) : ℚ) = ⌈a⌉
  rw [Rat.ceil_eq_neg_floor_neg]
  rfl

theorem toNat_eq (a : ℚ) : toNat a = ⌊a⌋₊ := rfl

theorem abs_eq (a : ℚ) : Number.abs a = |a| := by
  show Rat.abs a = |a|
  rcases le_total 0 a with nonneg | nonpos
  · rw [Rat.abs_of_nonneg nonneg, abs_of_nonneg nonneg]
  · rw [Rat.abs_of_nonpos nonpos, abs_of_nonpos nonpos]

theorem maxWith_eq (best x : ℚ) : maxWith best x = max best x := by
  rw [maxWith, max_def]

theorem isTolerance_iff {x : ℚ} : isTolerance x = true ↔ 0 < x := by
  rw [isTolerance, Bool.and_eq_true, decide_eq_true_iff]
  exact and_iff_right rfl

/-- A running maximum is bounded by what bounds its start and the values. -/
theorem foldl_max_le_iff {xs : List ℚ} {a m : ℚ} :
    xs.foldl max a ≤ m ↔ a ≤ m ∧ ∀ x ∈ xs, x ≤ m := by
  induction xs generalizing a with
  | nil => simp
  | cons x xs ih => rw [List.foldl_cons, ih, max_le_iff, List.forall_mem_cons, and_assoc]

end RootFinding.Rational
