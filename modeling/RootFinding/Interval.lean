import RootFinding.Number
import RootFinding.NumberText

/-!
# Closed intervals

An `Interval` is a pair of finite endpoints in strict order. It can only be had from
`Interval.ofBounds`, which refuses every other pair, so the two facts travel with the value.
-/

namespace RootFinding

open Number

/-- Why a pair of endpoints, or a request to sample between them, is refused. -/
inductive IntervalError (α : Type) where
  /-- An endpoint is infinite or not a number. -/
  | nonFinite
  /-- The endpoints are equal or in the wrong order. -/
  | empty (left right : α)
  /-- The samples are too far apart for a check over the interval to be trusted. -/
  | tooCoarse (step limit : α)
  /-- The samples are too many. -/
  | gridTooLarge (points : α) (limit : Nat)
deriving DecidableEq

/-- The text of a refusal. -/
def IntervalError.message {α : Type} [NumberText α] : IntervalError α → String
  | .nonFinite => "non-finite endpoint(s)"
  | .empty left right =>
    "right endpoint " ++ NumberText.plain right ++ " must be greater than left endpoint " ++
      NumberText.plain left
  | .tooCoarse step limit =>
    "sampling step " ++ NumberText.plain step ++ " exceeds the limit " ++ NumberText.plain limit
  | .gridTooLarge points limit =>
    "sampling would produce " ++ NumberText.plain points ++ " points, more than the limit " ++
      toString limit

/-- A closed interval from `left` to `right`. -/
structure Interval (α : Type) [Number α] where
  left : α
  right : α
  finite_left : isFinite left = true
  finite_right : isFinite right = true
  left_lt_right : left < right

namespace Interval

variable {α : Type} [Number α]

/-- The interval between two endpoints, which have to be finite and in order. -/
def ofBounds (left right : α) : Except (IntervalError α) (Interval α) :=
  if finite : isFinite left = true ∧ isFinite right = true then
    if lt : left < right then
      .ok ⟨left, right, finite.1, finite.2, lt⟩
    else .error (.empty left right)
  else .error .nonFinite

/-- Endpoints determine an interval. -/
@[ext] theorem ext {s t : Interval α} (left : s.left = t.left) (right : s.right = t.right) :
    s = t := by
  cases s; cases t; cases left; cases right; rfl

/-- The bounds of an interval are accepted, and give it back. -/
@[simp] theorem ofBounds_bounds (s : Interval α) : ofBounds s.left s.right = .ok s := by
  simp [ofBounds, s.finite_left, s.finite_right, s.left_lt_right]

/-- The interval that bounds are accepted as has these bounds. -/
theorem bounds_of_ofBounds {left right : α} {s : Interval α} (h : ofBounds left right = .ok s) :
    s.left = left ∧ s.right = right := by
  unfold ofBounds at h
  split at h
  · split at h
    · cases h; exact ⟨rfl, rfl⟩
    · cases h
  · cases h

/-- Bounds are refused if one of them is not finite, and otherwise if they are not in order. -/
theorem ofBounds_eq_error_iff {left right : α} {cause : IntervalError α} :
    ofBounds left right = .error cause ↔
      (¬(isFinite left = true ∧ isFinite right = true) ∧ cause = .nonFinite) ∨
        ((isFinite left = true ∧ isFinite right = true) ∧ ¬left < right ∧
          cause = .empty left right) := by
  unfold ofBounds
  split
  · next finite =>
    split
    · next lt => simp [finite, lt]
    · next unordered => simpa [finite, unordered] using eq_comm
  · next infinite => simpa [infinite] using eq_comm

/-- The two endpoints in order. -/
def bounds (s : Interval α) : List α := [s.left, s.right]

/-- The distance from the left end to the right one. -/
def width (s : Interval α) : α := s.right - s.left

/-- Half the sum of the endpoints. -/
def midpoint (s : Interval α) : α := decimal 5 1 * (s.left + s.right)

/-- Whether a point lies between the endpoints, or on one of them. -/
def contains (s : Interval α) (x : α) : Bool := decide (s.left ≤ x) && decide (x ≤ s.right)

theorem contains_iff {s : Interval α} {x : α} :
    s.contains x = true ↔ s.left ≤ x ∧ x ≤ s.right := by
  rw [contains, Bool.and_eq_true, decide_eq_true_iff, decide_eq_true_iff]

/-- The `i`-th sample, counted from the left end, of a walk to the right in steps of `step`. No
sample lies beyond the right end. -/
def sample (s : Interval α) (step : α) (i : Nat) : α := cutAt s.right (s.left + step * ofNat i)

/-- The interval as text, with its endpoints as floating-point literals. -/
def describe [NumberText α] (s : Interval α) : String :=
  "Interval \x7b left: " ++ NumberText.literal s.left ++ ", right: " ++
    NumberText.literal s.right ++ " \x7d"

end Interval

end RootFinding
