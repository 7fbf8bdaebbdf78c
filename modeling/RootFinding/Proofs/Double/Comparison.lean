import Mathlib.Algebra.Order.Field.Power
import Mathlib.Tactic.Positivity
import RootFinding.Interval

/-!
# Doubles as rational numbers

A finite double stands for a rational number, its `value`. The comparisons of a finite double with
zero are those of its value. A double that is not a number fails every comparison, so no interval
contains it.

A double is looked at through its decoded form: an infinity, a zero, a value that is not a number,
or a sign with a positive mantissa and an exponent.
-/

namespace RootFinding.Double

open Number
open Float.Model (UnpackedFloat)

/-- The decoded form of a double. -/
def decoded (x : Float) : UnpackedFloat := x.toModel.unpack

/-- The number that a decoded double stands for; zero if there is none. -/
def decodedValue : UnpackedFloat → ℚ
  | .finite sign mantissa exponent _ => sign.apply mantissa * 2 ^ exponent
  | _ => 0

/-- The number that a finite double stands for. -/
def value (x : Float) : ℚ := decodedValue (decoded x)

/-! ## Comparisons -/

theorem lt_iff {x y : Float} : x < y ↔ (decoded x).compare (decoded y) = some .lt := by
  show decide (x.toModel.lt y.toModel = true) = true ↔ _
  rw [decide_eq_true_iff, Float.Model.lt, UnpackedFloat.lt, beq_iff_eq]
  rfl

theorem le_iff {x y : Float} :
    x ≤ y ↔ ((decoded x).compare (decoded y)).any (·.isLE) = true := by
  show decide (x.toModel.le y.toModel = true) = true ↔ _
  rw [decide_eq_true_iff]
  rfl

theorem decoded_zero : decoded zero = .zero .positive := rfl

theorem decodedValue_pos {mantissa : Nat} {exponent : Int} (h : 0 < mantissa) :
    0 < decodedValue (.finite .positive mantissa exponent h) := by
  have mantissa_pos : (0 : ℚ) < mantissa := Nat.cast_pos.2 h
  show 0 < ((mantissa : Int) : ℚ) * 2 ^ exponent
  rw [Int.cast_natCast]
  positivity

theorem decodedValue_neg {mantissa : Nat} {exponent : Int} (h : 0 < mantissa) :
    decodedValue (.finite .negative mantissa exponent h) < 0 := by
  have positive := @decodedValue_pos mantissa exponent h
  have opposite : decodedValue (.finite .negative mantissa exponent h) =
      -decodedValue (.finite .positive mantissa exponent h) := by
    show ((-(mantissa : Int) : Int) : ℚ) * 2 ^ exponent = -(((mantissa : Int) : ℚ) * 2 ^ exponent)
    rw [Int.cast_neg, neg_mul]
  rw [opposite]
  exact neg_lt_zero.2 positive

/-- The order of a decoded double and zero is the order of its value and zero. -/
theorem compare_zero {u : UnpackedFloat} (h : u.isFinite = true) (sign : UnpackedFloat.Sign) :
    u.compare (.zero sign) = some (compare (decodedValue u) 0) := by
  cases u with
  | infinity s => cases h
  | notANumber => cases h
  | zero s => exact congrArg some (compare_eq_iff_eq.2 rfl).symm
  | finite s mantissa exponent positive =>
    cases s with
    | positive => exact congrArg some (compare_gt_iff_gt.2 (decodedValue_pos positive)).symm
    | negative => exact congrArg some (compare_lt_iff_lt.2 (decodedValue_neg positive)).symm

/-- The same with zero on the left. -/
theorem zero_compare {u : UnpackedFloat} (h : u.isFinite = true) (sign : UnpackedFloat.Sign) :
    UnpackedFloat.compare (.zero sign) u = some (compare 0 (decodedValue u)) := by
  cases u with
  | infinity s => cases h
  | notANumber => cases h
  | zero s => exact congrArg some (compare_eq_iff_eq.2 rfl).symm
  | finite s mantissa exponent positive =>
    cases s with
    | positive => exact congrArg some (compare_lt_iff_lt.2 (decodedValue_pos positive)).symm
    | negative => exact congrArg some (compare_gt_iff_gt.2 (decodedValue_neg positive)).symm

section Zero

variable {x : Float} (h : x.isFinite = true)

include h

/-- A finite double is positive if its value is. -/
theorem zero_lt_iff : zero < x ↔ 0 < value x := by
  have finite : (decoded x).isFinite = true := h
  rw [lt_iff, decoded_zero, zero_compare finite, Option.some.injEq, compare_lt_iff_lt]
  rfl

/-- A finite double is negative if its value is. -/
theorem lt_zero_iff : x < zero ↔ value x < 0 := by
  have finite : (decoded x).isFinite = true := h
  rw [lt_iff, decoded_zero, compare_zero finite, Option.some.injEq, compare_lt_iff_lt]
  rfl

end Zero

/-! ## Values that are not numbers -/

/-- A value that is not a number is not above anything. -/
theorem not_le_of_isNaN {a x : Float} (h : x.isNaN = true) : ¬a ≤ x := by
  have decoded_eq : decoded x = .notANumber := by
    change (decoded x).isNaN = true at h
    cases hx : decoded x with
    | notANumber => rfl
    | _ => rw [hx] at h; cases h
  rw [le_iff, decoded_eq]
  cases decoded a <;> exact Bool.false_ne_true

/-- No interval contains a value that is not a number. -/
theorem not_contains_of_isNaN (s : Interval Float) {x : Float} (h : x.isNaN = true) :
    s.contains x = false := by
  rw [← Bool.not_eq_true, Interval.contains_iff]
  exact fun inside => not_le_of_isNaN h inside.1

end RootFinding.Double
