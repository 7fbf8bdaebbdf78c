import RootFinding.Proofs.Double.Accuracy
import RootFinding.Proofs.Scalar.Textbook

/-!
# Staying inside the bracket

A bracketing method that cuts each bracket at a point of it never leaves the bracket that it was
given. Whether a computed point is one of the bracket is a question of rounding. The middle that
bisection computes is, unless the difference of the two ends of the first bracket overflows
(`bisection_stays_inside_iff`): then it is infinite.

## Shape of the arguments

* `Cut` is what the rows of both bracketing methods show. In a list of them, each bracket is one of
  the two parts of the bracket before (`Cut.IsFollowedBy`). If all points are points of their
  brackets, then all brackets lie in the first one (`Cut.isWithin_iff`).
* The middle of a bracket whose width does not overflow lies between its ends
  (`Double.middle_between`), and the parts of such a bracket are not wider.
-/

namespace RootFinding.Scalar

open Number Double

/-! ## Brackets that are cut -/

/-- A bracket, and the point where it is cut. -/
structure Cut where
  left : Float
  right : Float
  x : Float
deriving DecidableEq

namespace Cut

/-- The point is a finite point of the bracket. -/
structure IsInside (c : Cut) : Prop where
  finite : c.x.isFinite = true
  left_le : c.left ≤ c.x
  le_right : c.x ≤ c.right

/-- The point is a finite point of the bracket, and the bracket lies between two points. -/
structure IsWithin (left right : Float) (c : Cut) : Prop extends c.IsInside where
  outer_left : left ≤ c.left
  outer_right : c.right ≤ right

/-- The bracket of `c` contains that of `c'`. -/
def Contains (c c' : Cut) : Prop := c.left ≤ c'.left ∧ c'.right ≤ c.right

/-- The bracket of `c'` is one of the two parts of the bracket of `c`. -/
def IsFollowedBy (c c' : Cut) : Prop :=
  (c'.left = c.left ∧ c'.right = c.x) ∨ (c'.left = c.x ∧ c'.right = c.right)

/-- A bracket with finite ends between two points. -/
structure HasEndsIn (left right : Float) (c : Cut) : Prop where
  finite_left : c.left.isFinite = true
  finite_right : c.right.isFinite = true
  outer_left : left ≤ c.left
  outer_right : c.right ≤ right

section

variable {left right : Float} {c c' : Cut}

theorem le_self {x : Float} (hx : x.isFinite = true) : x ≤ x := (le_iff_value hx hx).2 le_rfl

/-- The parts of a bracket that is cut at a point of it lie in it. -/
theorem HasEndsIn.next (ends : c.HasEndsIn left right) (hright : right.isFinite = true)
    (inside : c.IsInside) (follows : c.IsFollowedBy c') :
    c'.HasEndsIn left right ∧ c.Contains c' := by
  rcases follows with ⟨hleft', hright'⟩ | ⟨hleft', hright'⟩
  · rw [Contains, hleft', hright']
    refine ⟨⟨hleft' ▸ ends.finite_left, hright' ▸ inside.finite, hleft' ▸ ends.outer_left, ?_⟩,
      le_self ends.finite_left, inside.le_right⟩
    rw [hright']
    exact le_of_bound_le ends.finite_right hright ends.outer_right inside.le_right
  · rw [Contains, hleft', hright']
    refine ⟨⟨hleft' ▸ inside.finite, hright' ▸ ends.finite_right, ?_, hright' ▸ ends.outer_right⟩,
      inside.left_le, le_self ends.finite_right⟩
    rw [hleft']
    exact le_of_bound_le ends.finite_left inside.finite inside.left_le ends.outer_left

/-- Brackets that are cut one after the other lie in each other if each is cut at a point of it. -/
theorem isWithin_of_isInside {cs : List Cut} (hright : right.isFinite = true)
    (first : ∀ c ∈ cs.head?, c.HasEndsIn left right) (chain : cs.IsChain IsFollowedBy)
    (inside : ∀ c ∈ cs, c.IsInside) : (∀ c ∈ cs, c.IsWithin left right) ∧ cs.IsChain Contains := by
  induction cs with
  | nil => exact ⟨nofun, .nil⟩
  | cons c cs ih =>
    obtain ⟨here, rest⟩ := List.forall_mem_cons.1 inside
    obtain ⟨follows, chain⟩ := List.isChain_cons.1 chain
    have ends := first c rfl
    have next (c' : Cut) (h : c' ∈ cs.head?) := ends.next hright here (follows c' h)
    obtain ⟨within, nested⟩ := ih (fun c' h => (next c' h).1) chain rest
    exact ⟨List.forall_mem_cons.2 ⟨⟨here, ends.outer_left, ends.outer_right⟩, within⟩,
      List.isChain_cons.2 ⟨fun c' h => (next c' h).2, nested⟩⟩

/-- A point within a bracket with finite ends lies between these ends. -/
theorem IsWithin.between (h : c.IsWithin left right) (hleft : left.isFinite = true)
    (hright : right.isFinite = true) : left ≤ c.x ∧ c.x ≤ right := by
  have finite_left := isFinite_of_between hleft h.finite h.outer_left h.left_le
  have finite_right := isFinite_of_between h.finite hright h.le_right h.outer_right
  exact ⟨le_of_bound_le finite_left h.finite h.left_le h.outer_left,
    le_of_bound_le finite_right hright h.outer_right h.le_right⟩

end

/-- From a bracket with finite ends on, all points lie in their brackets exactly if all of them lie
in the first bracket, and each bracket in the one before. The rows may show more than that. -/
theorem isWithin_iff {ς ρ : Type} {r : Recurrence ς ρ} {cut : ρ → Cut} {left right : Float}
    (hleft : left.isFinite = true) (hright : right.isFinite = true)
    (follows : ∀ s, (cut (r.row s)).IsFollowedBy (cut (r.row (r.next s)))) {s : ς}
    (first : (cut (r.row s)).left = left ∧ (cut (r.row s)).right = right) (n : Nat) :
    (∀ row ∈ r.rows s n, (cut row).IsInside) ↔
      (∀ row ∈ r.rows s n, (cut row).IsWithin left right) ∧
        (r.rows s n).IsChain fun row row' => (cut row).Contains (cut row') := by
  refine ⟨fun inside => ?_, fun h row hrow => (h.1 row hrow).toIsInside⟩
  have ends : ∀ c ∈ ((r.rows s n).map cut).head?, c.HasEndsIn left right := by
    rw [List.head?_map]
    intro c hc
    obtain ⟨row, hrow, rfl⟩ := Option.mem_map.1 hc
    obtain rfl := r.head?_rows hrow
    obtain ⟨rfl, rfl⟩ := first
    exact ⟨hleft, hright, le_self hleft, le_self hright⟩
  have chain := Recurrence.isChain_rows (R := fun row row' => (cut row).IsFollowedBy (cut row'))
    follows n s
  have within := isWithin_of_isInside hright ends ((List.isChain_map cut).2 chain)
    (List.forall_mem_map.2 inside)
  rwa [List.forall_mem_map, List.isChain_map] at within

end Cut

/-- A bracket that is cut at a point is followed by one of its parts, wherever that is cut. -/
theorem Ends.isFollowedBy_cut (f : ScalarFunction Float) (e : Ends Float) (x y : Float) :
    Cut.IsFollowedBy ⟨e.left, e.right, x⟩ ⟨(e.cut f x).left, (e.cut f x).right, y⟩ := by
  unfold Ends.cut
  split
  · exact .inl ⟨rfl, rfl⟩
  · exact .inr ⟨rfl, rfl⟩

/-! ## Bisection -/

namespace Bisection

/-- The bracket of a row, and its middle. -/
def Row.cut (r : Row Float) : Cut := ⟨r.left, r.right, r.x⟩

/-- The ends of a bracket are finite and in order, and their difference does not overflow. -/
structure HasWidth (e : Ends Float) : Prop where
  finite_left : e.left.isFinite = true
  finite_right : e.right.isFinite = true
  le : value e.left ≤ value e.right
  width_lt : |value e.right - value e.left| < overflowBound

variable {f : ScalarFunction Float} {e : Ends Float}

/-- The middle of such a bracket is a point of it. -/
theorem HasWidth.middle_mem (h : HasWidth e) : (middle e).isFinite = true ∧
    value e.left ≤ value (middle e) ∧ value (middle e) ≤ value e.right :=
  middle_between h.le ((isRounding_sub h.finite_right h.finite_left).isFinite_iff.2 h.width_lt)

theorem HasWidth.isInside (h : HasWidth e) : ((textbook f).row e).cut.IsInside := by
  obtain ⟨finite, above, below⟩ := h.middle_mem
  exact ⟨finite, (le_iff_value h.finite_left finite).2 above,
    (le_iff_value finite h.finite_right).2 below⟩

/-- Its parts are not wider. -/
theorem HasWidth.next (h : HasWidth e) : HasWidth ((textbook f).next e) := by
  obtain ⟨finite, above, below⟩ := h.middle_mem
  have width := h.width_lt
  rw [abs_of_nonneg (sub_nonneg.2 h.le)] at width
  show HasWidth (e.cut f (middle e))
  unfold Ends.cut
  split
  · refine ⟨h.finite_left, finite, above, ?_⟩
    show |value (middle e) - value e.left| < overflowBound
    rw [abs_of_nonneg (sub_nonneg.2 above)]
    exact (sub_le_sub_right below _).trans_lt width
  · refine ⟨finite, h.finite_right, below, ?_⟩
    show |value e.right - value (middle e)| < overflowBound
    rw [abs_of_nonneg (sub_nonneg.2 below)]
    exact (sub_le_sub_left above _).trans_lt width

/-- If the difference of the ends overflows, there is no finite middle. -/
theorem lt_of_isFinite_middle (h : (middle e).isFinite = true) :
    |value e.right - value e.left| < overflowBound := by
  have width := (isFinite_of_div (isFinite_of_add h).2).1
  obtain ⟨hright, hleft⟩ := isFinite_of_sub width
  exact (isRounding_sub hright hleft).isFinite_iff.1 width

theorem isFollowedBy_next (e : Ends Float) :
    ((textbook f).row e).cut.IsFollowedBy ((textbook f).row ((textbook f).next e)).cut :=
  e.isFollowedBy_cut f (middle e) _

/-- The rows of bisection, for any bracket to start with. -/
theorem rows_inside_iff {left right : Float} (hleft : left.isFinite = true)
    (hright : right.isFinite = true) (le : value left ≤ value right) (n : Nat) :
    (∀ r ∈ (textbook f).rows ⟨left, right⟩ n, r.cut.IsInside) ↔
      (textbook f).rows ⟨left, right⟩ n = [] ∨ |value right - value left| < overflowBound := by
  constructor
  · intro inside
    cases n with
    | zero => exact .inl rfl
    | succ n =>
      rw [Recurrence.rows_succ] at inside
      have first : (middle ⟨left, right⟩).isFinite = true := (inside _ List.mem_cons_self).finite
      exact .inr (lt_of_isFinite_middle (e := ⟨left, right⟩) first)
  · rintro (none | width)
    · rw [none]
      exact nofun
    · have first : HasWidth ⟨left, right⟩ := ⟨hleft, hright, le, width⟩
      exact Recurrence.forall_mem_rows (fun h => h.next) (fun h => h.isInside) n first

end Bisection

/-- An accepted bracket has finite ends in order. -/
theorem Bracket.finite_of_eq_ok {f : ScalarFunction Float} {left right precision : Float}
    {b : Bracket Float} (h : Bracket.of f left right precision = .ok b) :
    left.isFinite = true ∧ right.isFinite = true ∧ value left ≤ value right := by
  obtain ⟨interval, -, -, hinputs, -⟩ := Bracket.of_eq_ok.1 h
  obtain ⟨rfl, rfl⟩ := Interval.bounds_of_ofBounds (Guard.inputs_eq_ok.1 hinputs).1
  have lt := (lt_iff_value interval.finite_left interval.finite_right).1 interval.left_lt_right
  exact ⟨interval.finite_left, interval.finite_right, lt.le⟩

/-- Each row of bisection shows a finite point of its bracket, all brackets lie in the one that was
asked for, and each in the one before, exactly if no row is shown at all or the exact difference of
the two ends is small enough for a double. -/
theorem bisection_stays_inside_iff {τ : Type} (f : ScalarFunction Float)
    (left right precision : Float) (limits : Limits Float) (o : Observer τ (Bisection.Row Float)) :
    ((∀ r ∈ (Bisection.solve f left right precision limits o).rows,
          r.cut.IsWithin left right) ∧
        (Bisection.solve f left right precision limits o).rows.IsChain
          (fun r r' => r.cut.Contains r'.cut)) ↔
      (Bisection.solve f left right precision limits o).rows = [] ∨
        |value right - value left| < overflowBound := by
  have rows_eq : (Bisection.solve f left right precision limits o).rows = _ :=
    Bisection.computes_textbook.rows_call_eq Bracket.begins o _ _ _
  cases hstart : Bracket.of f left right precision with
  | error cause =>
    have none : (Bisection.solve f left right precision limits o).rows = [] :=
      Scheme.rows_call_of_error hstart
    rw [none]
    simp
  | ok b =>
    obtain ⟨hleft, hright, le⟩ := Bracket.finite_of_eq_ok hstart
    rw [rows_eq]
    generalize (Scheme.call _ _ _ _ _ _).rows.length = n
    rw [← Bisection.rows_inside_iff hleft hright le]
    exact (Cut.isWithin_iff hleft hright Bisection.isFollowedBy_next ⟨rfl, rfl⟩ n).symm

/-- A function that is -1 below one and 1 from there on. -/
def stepAtOne : ScalarFunction Float where
  label := "1 from 1 on, -1 below"
  eval x := if x < 1 then -1 else 1

/-- Bisection shows an infinite middle of an accepted bracket: the difference of its ends overflows,
though the middle is zero. -/
theorem bisection_leaves_bracket :
    ∃ limits : Limits Float, limits.maxIters = Limits.defaultMaxIters ∧
      ∃ r ∈ (Bisection.solve stepAtOne (-1.5e308) 1.5e308 1e-4 limits (.stopAt 1)).rows,
        r.x.isFinite = false := by
  refine ⟨⟨10000, 1e-12, by decide, by decide, by decide⟩, rfl, ?_⟩
  decide +kernel

end RootFinding.Scalar
