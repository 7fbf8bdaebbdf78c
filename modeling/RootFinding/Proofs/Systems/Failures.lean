import RootFinding.Proofs.Double.Order
import RootFinding.Proofs.Systems.Orbit

/-!
# What the failures of the system solver say

A failure carries values, and they show what went wrong: `Error.IsTrue` says that they are what they
are named for. An image that leaves the box is that of the last row; a sum of partial derivatives
that is too large was found at a point of the sampling grid.

## Shape of the arguments

* The points that the contraction check visits lie on the grids on the sides of the box
  (`onGrid_of_mem_gridPoints`), and what it finds at a point is a violation or a refusal.
* The iteration that fails starts from the point of the last row (`FixedPoint.iterate_of_leads`).
-/

namespace RootFinding.Systems

open Number

/-! ## The sampling grid -/

section Grid

variable {α : Type} [Number α]

/-- A point of the sampling grid: each coordinate is a point of the grid on its side of the box. -/
def OnGrid (intervals : List (Interval α)) (gridStep : α) (p : Point α) : Prop :=
  List.Forall₂ (fun x interval => ∃ grid, interval.grid gridStep = .ok grid ∧ x ∈ grid.points) p
    intervals

/-- A combination has a point of each axis. -/
theorem forall₂_of_mem_gridPoints {axes : List (Grid α)} {p : Point α} (h : p ∈ gridPoints axes) :
    List.Forall₂ (fun x axis => x ∈ axis.points) p axes := by
  induction axes generalizing p with
  | nil =>
    obtain rfl := List.mem_singleton.1 h
    exact .nil
  | cons axis axes ih =>
    obtain ⟨x, hx, h⟩ := List.mem_flatMap.1 h
    obtain ⟨q, hq, rfl⟩ := List.mem_map.1 h
    exact .cons hx (ih hq)

/-- The axes are the grids on the sides of the box. -/
theorem forall₂_of_axes {intervals : List (Interval α)} {gridStep : α} {grids : List (Grid α)}
    (h : axes intervals gridStep = .ok grids) :
    List.Forall₂ (fun interval grid => interval.grid gridStep = .ok grid) intervals grids := by
  refine (forall₂_of_mapM_eq_ok h).imp ?_
  intro interval grid hgrid
  cases hg : interval.grid gridStep with
  | error cause => rw [hg] at hgrid; cases hgrid
  | ok grid' => rw [hg] at hgrid; exact congrArg Except.ok (Except.ok.inj hgrid)

theorem onGrid_of_mem_gridPoints {intervals : List (Interval α)} {gridStep : α}
    {grids : List (Grid α)} {p : Point α} (hgrids : axes intervals gridStep = .ok grids)
    (hp : p ∈ gridPoints grids) : OnGrid intervals gridStep p := by
  have coordinates := forall₂_of_mem_gridPoints hp
  have sides := forall₂_of_axes hgrids
  clear hgrids hp
  induction coordinates generalizing intervals with
  | nil =>
    cases sides
    exact .nil
  | cons hx _ ih =>
    cases sides with
    | cons hgrid sides => exact .cons ⟨_, hgrid, hx⟩ (ih sides)

end Grid

/-! ## Causes -/

open FixedPoint

variable {system : EquationSystem Float} {intervals : List (Interval Float)} {point : Point Float}
  {precision : Float} {limits : Limits Float} {rows : List (Row Float)}

/-- What a cause of failure says of a call that has offered `rows` is true. -/
def Error.IsTrue (system : EquationSystem Float) (intervals : List (Interval Float))
    (point : Point Float) (precision : Float) (limits : Limits Float) (rows : List (Row Float)) :
    Error Float → Prop
  | .invalidLimits _ => False
  | .invalidPrecision p => p = precision ∧ isTolerance p = false
  | .dimensionMismatch n sides coordinates =>
    n = system.dimension ∧ sides = intervals.length ∧ coordinates = point.length ∧
      (sides ≠ n ∨ coordinates ≠ n)
  | .startOutsideInterval i value interval => IsFirstOutside point intervals i value interval
  | .argument refusal => ∃ f ∈ system.functions, ∃ x,
      f.apply x = .error refusal ∨ f.partialDerivativeNorm x = .error refusal
  | .grid reason => ∃ interval ∈ intervals, interval.grid limits.gridStep = .error reason
  | .gridTooLarge points limit => limit = maxGridPoints ∧
      ∃ grids, axes intervals limits.gridStep = .ok grids ∧ points = reportedCount grids ∧
        maxGridPoints < pointCount grids
  | .notContraction i sum p => OnGrid intervals limits.gridStep p ∧
      ∃ f, system.functions[i]? = some f ∧ f.partialDerivativeNorm p = .ok sum ∧
        (sum.isNaN = true ∨ one < sum)
  | .leftInterval i value interval => ∃ last next, rows.getLast? = some last ∧
      system.apply last.values = .ok next ∧ IsFirstOutside next intervals i value interval
  | .maxIters n => n = limits.maxIters

/-- The failures of a computation are true of the call. -/
abbrev FailsTruly {β : Type} (system : EquationSystem Float) (intervals : List (Interval Float))
    (point : Point Float) (precision : Float) (limits : Limits Float) (rows : List (Row Float))
    (x : Except (Error Float) β) : Prop :=
  FailsOnly (Error.IsTrue system intervals point precision limits rows) x

/-- The causes that the search for the first coordinate outside reports name that coordinate. -/
theorem checkInputs_failsTruly :
    FailsTruly system intervals point precision limits rows
      (checkInputs system intervals point precision) := by
  intro cause h
  rcases checkInputs_eq_error h with
    ⟨sizes, rfl⟩ | ⟨unfit, rfl⟩ | ⟨i, value, interval, outside, rfl⟩
  · exact ⟨rfl, rfl, rfl, sizes⟩
  · exact ⟨rfl, unfit⟩
  · obtain ⟨j, rfl, first⟩ := firstOutside?_eq_some_iff.1 outside
    rw [Nat.zero_add]
    exact first

theorem checkContraction_failsTruly (sizes : intervals.length = system.dimension) :
    FailsTruly system intervals point precision limits rows
      (checkContraction system intervals limits) := by
  intro cause h
  rcases checkContraction_eq_error h with
    ⟨unequal, -⟩ | ⟨interval, mem, reason, hgrid, rfl⟩ | ⟨grids, haxes, large, rfl⟩ |
    ⟨grids, haxes, -, p, hp, hviolation⟩
  · exact absurd sizes unequal
  · exact ⟨interval, mem, hgrid⟩
  · exact ⟨rfl, grids, haxes, rfl, large⟩
  · rcases violation?_cases hviolation with
      ⟨f, hf, refusal, hnorm, rfl⟩ | ⟨i, f, sum, hf, hsum, exceeds, rfl⟩
    · exact ⟨f, hf, _, .inr hnorm⟩
    · rw [Nat.zero_add]
      have large := Double.isNaN_or_lt_of_not_le rfl exceeds
      exact ⟨onGrid_of_mem_gridPoints haxes hp, f, hf, hsum, large⟩

/-- A refused start is refused with a true cause. -/
theorem start_failsTruly :
    FailsTruly system intervals point precision limits rows
      (start system intervals point precision limits) := by
  refine checkInputs_failsTruly.bind fun _ hinputs => ?_
  have box := (checkInputs_eq_ok_iff.1 hinputs).2
  exact (checkContraction_failsTruly box.sides).bind fun _ _ => .ok _

/-- Whatever a call of the system solver fails with is true. -/
theorem solve_failsTruly {τ : Type} (o : Observer τ (Row Float)) :
    FailsTruly system intervals point precision limits
      (solve system intervals point precision limits o).rows
      (solve system intervals point precision limits o).result := by
  intro cause h
  rcases Scheme.call_error_cases h with hstart | rfl | ⟨s, t, hstart, leads, failed⟩
  · exact start_failsTruly cause hstart
  · exact rfl
  · obtain ⟨-, -, rfl⟩ := start_eq_ok.1 hstart
    obtain ⟨last, hlast, rfl⟩ := iterate_of_leads leads failed
    rcases scheme_iterate_eq_error.1 failed with
      ⟨refusal, happly, rfl⟩ | ⟨next, i, value, interval, happly, outside, rfl⟩
    · obtain ⟨f, hf, happly⟩ := FailsOnly.mapM _ _ refusal happly
      exact ⟨f, hf, last.values, .inl happly⟩
    · obtain ⟨j, rfl, first⟩ := firstOutside?_eq_some_iff.1 outside
      rw [Nat.zero_add]
      exact ⟨last, next, hlast, happly, first⟩

end RootFinding.Systems
