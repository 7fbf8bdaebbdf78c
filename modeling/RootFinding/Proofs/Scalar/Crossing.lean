import RootFinding.Proofs.Double.Lines
import RootFinding.Proofs.Methods.Counting
import RootFinding.Proofs.Scalar.Containment
import RootFinding.Proofs.Scalar.Divisors

/-!
# The crossings of the chord method

The chord method cuts a bracket where a straight line crosses zero. The crossing is computed, and
only the function value there is checked. `Chord.Row.IsCrossing` says what is known about it: when
it is finite, and that a finite one is a point of the bracket up to `crossingTolerance`, if the
values at the ends have no common sign and their difference does not overflow. If it overflows, then
the crossing is a zero, wherever the bracket is.

As long as each crossing is a point of its bracket, the brackets lie in each other and the answer is
a point of the first one (`chord_stays_inside_iff`). But a line that is computed to be level has no
crossing, and a crossing may be rounded to a point outside (`chord_leaves_bracket`).
-/

namespace RootFinding.Scalar

open Number Double

namespace Chord

/-! ## Rows -/

namespace Row

variable {r : Row Float}

/-- The bracket of a row, and its crossing. -/
def cut (r : Row Float) : Cut := ⟨r.left, r.right, r.x⟩

/-- What is divided to get the crossing. -/
def dividend (r : Row Float) : Float := r.left * r.fRight - r.right * r.fLeft

/-- What it is divided by. -/
def divisor (r : Row Float) : Float := r.fRight - r.fLeft

/-- Where the line through the two values crosses zero. -/
def exactCrossing (r : Row Float) : ℚ :=
  lineCrossing (value r.left) (value r.right) (value r.fLeft) (value r.fRight)

/-- How far the computed crossing may be away from it. -/
def tolerance (r : Row Float) : ℚ :=
  crossingTolerance (value r.left) (value r.right) (value r.fLeft) (value r.fRight)

/-- What a row shows is where the line through the two values crosses zero, as it is computed.
* The crossing is finite exactly if the dividend is, and the divisor either overflows, or is not a
  zero and the quotient does not overflow.
* It is a point of the bracket if the quotient of the computed dividend and divisor lies there.
* If the divisor overflows, then the crossing is lost: it is a zero.
* Otherwise, if the values have no common sign, it is close to the exact crossing, and this is a
  point of the bracket. -/
structure IsCrossing (r : Row Float) : Prop where
  x_eq : r.x = r.dividend / r.divisor
  finite_iff : r.x.isFinite = true ↔
    r.dividend.isFinite = true ∧ (r.divisor.isInf = true ∨
      value r.divisor ≠ 0 ∧ |value r.dividend / value r.divisor| < overflowBound)
  inside : r.left.isFinite = true → r.right.isFinite = true → r.dividend.isFinite = true →
    value r.divisor ≠ 0 → value r.left ≤ value r.dividend / value r.divisor →
    value r.dividend / value r.divisor ≤ value r.right → r.cut.IsInside
  lost : r.x.isFinite = true → r.divisor.isInf = true → value r.x = 0
  near : r.x.isFinite = true → r.divisor.isInf = false → ¬SameSign r.fLeft r.fRight →
    r.exactCrossing ∈ Set.uIcc (value r.left) (value r.right) ∧
      |value r.x - r.exactCrossing| ≤ r.tolerance

theorem isCrossing_of_eq (hx : r.x = r.dividend / r.divisor)
    (hleft : r.fLeft.isFinite = true) (hright : r.fRight.isFinite = true) : r.IsCrossing where
  x_eq := hx
  finite_iff := by
    rw [hx]
    constructor
    · intro h
      have finite := (isFinite_of_div h).1
      exact ⟨finite, (isFinite_div_iff finite).1 h⟩
    · rintro ⟨finite, h⟩
      exact (isFinite_div_iff finite).2 h
  inside finite_left finite_right finite nonzero above below := by
    have between := (isRounding_div finite nonzero).between finite_left finite_right above below
    rw [← hx] at between
    obtain ⟨finite_x, left_le, le_right⟩ := between
    exact ⟨finite_x, (le_iff_value finite_left finite_x).2 left_le,
      (le_iff_value finite_x finite_right).2 le_right⟩
  lost finite infinite := by
    rw [hx] at finite ⊢
    exact (div_of_isInf (isFinite_of_div finite).1 infinite).2
  near finite regular opposite := by
    rw [hx] at finite
    rw [sameSign_iff hleft hright, not_lt] at opposite
    obtain ⟨distinct, close⟩ := crossing_error finite regular opposite
    exact ⟨lineCrossing_mem opposite distinct, hx ▸ close⟩

end Row

variable {f : ScalarFunction Float} {left right precision : Float} {limits : Limits Float}

theorem isCrossing_of_step {s : State Float} {row : Row Float}
    {verdict : Verdict (State Float) Unit} (ends : HasFiniteEnds s.toBracket)
    (h : scheme f precision limits s = .ok (row, verdict)) : row.IsCrossing := by
  obtain ⟨slope, fX, hslope, -, rfl, -⟩ := scheme_eq_ok.1 h
  obtain ⟨-, rfl⟩ := Guard.divisor_eq_ok.1 hslope
  exact Row.isCrossing_of_eq rfl ends.1 ends.2

theorem isFollowedBy_next (e : Ends Float) :
    ((textbook f).row e).cut.IsFollowedBy ((textbook f).row ((textbook f).next e)).cut :=
  e.toEnds.isFollowedBy_cut f (crossing f e.toEnds) _

/-- A call that shows a row has got a bracket with finite ends. -/
theorem finite_of_start {s : State Float} (h : start f left right precision = .ok s) :
    left.isFinite = true ∧ right.isFinite = true := by
  obtain ⟨b, hb, -⟩ := bind_eq_ok.1 h
  obtain ⟨hleft, hright, -⟩ := Bracket.finite_of_eq_ok hb
  exact ⟨hleft, hright⟩

end Chord

/-! ## Calls -/

/-- The rows of the chord method show the computed crossings of their brackets. All of them are
points of their brackets exactly if, moreover, all brackets lie in the one that was asked for and
each in the one before. Then the answer is a finite point of the bracket that was asked for. -/
theorem chord_stays_inside_iff {τ : Type} (f : ScalarFunction Float)
    (left right precision : Float) (limits : Limits Float) (o : Observer τ (Chord.Row Float)) :
    (∀ r ∈ (Chord.solve f left right precision limits o).rows, r.IsCrossing) ∧
      ((∀ r ∈ (Chord.solve f left right precision limits o).rows, r.cut.IsInside) ↔
        (∀ r ∈ (Chord.solve f left right precision limits o).rows,
            r.cut.IsWithin left right) ∧
          (Chord.solve f left right precision limits o).rows.IsChain
            (fun r r' => r.cut.Contains r'.cut)) ∧
      ((∀ r ∈ (Chord.solve f left right precision limits o).rows, r.cut.IsInside) →
        ∀ {solution}, (Chord.solve f left right precision limits o).result = .ok solution →
          solution.answer.isFinite = true ∧ left ≤ solution.answer ∧ solution.answer ≤ right) := by
  have crossings : ∀ r ∈ (Chord.solve f left right precision limits o).rows, r.IsCrossing :=
    Scheme.forall_mem_rows_call Chord.accepted_of_start Chord.cutsBrackets.finite_next
      Chord.isCrossing_of_step
  have rows_eq : (Chord.solve f left right precision limits o).rows =
      (Chord.textbook f).rows ⟨⟨left, right⟩, left⟩
        (Chord.solve f left right precision limits o).rows.length :=
    Chord.computes_textbook.rows_call_eq Chord.begins_textbook o _ _ _
  have accounts : (Chord.solve f left right precision limits o).Accounts 1 1 limits.maxIters o :=
    Scheme.call_accounts _ _ _ _ _ _
  refine ⟨crossings, ?_⟩
  cases hstart : Chord.start f left right precision with
  | error cause =>
    have none : (Chord.solve f left right precision limits o).rows = [] :=
      Scheme.rows_call_of_error hstart
    rw [none]
    refine ⟨by simp, fun _ solution hs => ?_⟩
    exact absurd (none ▸ accounts.last_mem hs) List.not_mem_nil
  | ok s =>
    obtain ⟨hleft, hright⟩ := Chord.finite_of_start hstart
    have within_iff := Cut.isWithin_iff hleft hright (Chord.isFollowedBy_next (f := f))
      (s := ⟨⟨left, right⟩, left⟩) ⟨rfl, rfl⟩
      (Chord.solve f left right precision limits o).rows.length
    rw [← rows_eq] at within_iff
    refine ⟨within_iff, fun inside solution hs => ?_⟩
    have last := (within_iff.1 inside).1 _ (accounts.last_mem hs)
    exact ⟨last.finite, last.between hleft hright⟩

/-- The function that is zero everywhere. -/
def levelLine : ScalarFunction Float where
  label := "0"
  eval _ := 0

/-- A line that crosses zero at the right end of a bracket. -/
def lineToEnd : ScalarFunction Float where
  label := "x - 0.1"
  eval x := x - 0.1

/-- The chord method shows a crossing of `levelLine` that is not a number, if divisors may be zero,
and a crossing of `lineToEnd` that lies to the right of its bracket. -/
theorem chord_leaves_bracket :
    (∃ limits : Limits Float, limits.maxIters = 10 ∧
        ∃ r ∈ (Chord.solve levelLine 0 1 1e-4 limits .silent).rows, r.x.isFinite = false) ∧
      ∃ limits : Limits Float, limits.maxIters = Limits.defaultMaxIters ∧
        ∃ r ∈ (Chord.solve lineToEnd 0 0.1 1e-4 limits .silent).rows,
          r.x.isFinite = true ∧ r.right < r.x := by
  constructor
  · refine ⟨⟨10, 0, by decide, by decide, by decide⟩, rfl, ?_⟩
    decide +kernel
  · refine ⟨⟨10000, 1e-12, by decide, by decide, by decide⟩, rfl, ?_⟩
    decide +kernel

end RootFinding.Scalar
