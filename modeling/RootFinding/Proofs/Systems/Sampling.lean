import RootFinding.Proofs.Grid.Segments
import RootFinding.Proofs.Systems.Failures

/-!
# How a box is sampled

The contraction check makes a grid for each side of the box and visits all combinations of their
points, if they are not too many. The combinations are counted beforehand, in words, and where a
product does not fit into a word the count is given up. No axis is empty, so a count that is given
up is too large anyway, and the guard agrees with the exact count (`size_guard_is_exact`).

## Shape of the arguments

* `axes_of_areSampled` and `axes_of_isFirstRejected` say what the grids are: either every side has
  one, or there is a first side that is refused (`exists_isFirstRejected`).
* `checkedAxes_of_areSampled` reads off what comes before the first point is looked at, and
  `checkContraction_of_areSampled` goes on to the combinations (`checkPoints`).
-/

namespace RootFinding.Systems

open Number

section Axes

variable {α : Type} [Number α] {intervals : List (Interval α)} {gridStep : α}
  {grids : List (Grid α)}

/-- Each side of the box has a grid. -/
def AreSampled (intervals : List (Interval α)) (gridStep : α) (grids : List (Grid α)) : Prop :=
  List.Forall₂ (fun s g => s.grid gridStep = .ok g) intervals grids

/-- The first side of the box that is refused, and why. -/
structure IsFirstRejected (intervals : List (Interval α)) (gridStep : α) (i : Nat)
    (reason : IntervalError α) : Prop where
  here : ∃ s, intervals[i]? = some s ∧ s.grid gridStep = .error reason
  earlier : ∀ j < i, ∀ s, intervals[j]? = some s → ∃ g, s.grid gridStep = .ok g

/-- The grids on the sides of a box are its axes. -/
theorem axes_of_areSampled (h : AreSampled intervals gridStep grids) :
    axes intervals gridStep = .ok grids := by
  induction h with
  | nil => rfl
  | cons here _ ih =>
    rw [axes, List.mapM_cons, here]
    exact (congrArg (· >>= fun gs => Except.ok (_ :: gs)) ih)

/-- The box is refused for the reason of the first side that is. -/
theorem axes_of_isFirstRejected {i : Nat} {reason : IntervalError α}
    (h : IsFirstRejected intervals gridStep i reason) :
    axes intervals gridStep = .error (.grid reason) := by
  induction intervals generalizing i with
  | nil =>
    obtain ⟨s, hs, -⟩ := h.here
    cases hs
  | cons interval intervals ih =>
    rw [axes, List.mapM_cons]
    cases i with
    | zero =>
      obtain ⟨s, hs, refused⟩ := h.here
      obtain rfl := Option.some.inj hs
      rw [refused]
      rfl
    | succ i =>
      obtain ⟨g, hg⟩ := h.earlier 0 i.succ_pos interval rfl
      have later : IsFirstRejected intervals gridStep i reason :=
        ⟨h.here, fun j hj => h.earlier (j + 1) (Nat.succ_lt_succ hj)⟩
      rw [hg]
      exact (congrArg (· >>= fun gs => Except.ok (g :: gs)) (ih later))

/-- If a side is refused, there is a first one. -/
theorem exists_isFirstRejected (h : ∃ s ∈ intervals, ∃ reason, s.grid gridStep = .error reason) :
    ∃ i reason, IsFirstRejected intervals gridStep i reason := by
  induction intervals with
  | nil =>
    obtain ⟨s, hs, -⟩ := h
    cases hs
  | cons interval intervals ih =>
    cases hg : interval.grid gridStep with
    | error reason => exact ⟨0, reason, ⟨interval, rfl, hg⟩, nofun⟩
    | ok g =>
      obtain ⟨s, hs, reason, refused⟩ := h
      rcases List.mem_cons.1 hs with rfl | hs
      · rw [hg] at refused
        cases refused
      · obtain ⟨i, reason, first⟩ := ih ⟨s, hs, reason, refused⟩
        refine ⟨i + 1, reason, first.here, ?_⟩
        intro j hj
        cases j with
        | zero =>
          rintro s hs
          obtain rfl := Option.some.inj hs
          exact ⟨g, hg⟩
        | succ j => exact first.earlier j (Nat.lt_of_succ_lt_succ hj)

end Axes

/-! ## The check -/

section Check

variable {α : Type} [Number α] {system : EquationSystem α} {intervals : List (Interval α)}
  {limits : Limits α} {grids : List (Grid α)}

/-- Looks at the contraction condition at points, in turn. -/
def checkPoints (system : EquationSystem α) (points : List (Point α)) : Except (Error α) Unit :=
  match points.findSome? fun point => violation? point system.functions 0 with
  | some cause => .error cause
  | none => .ok ()

theorem checkPoints_eq_ok_iff {points : List (Point α)} :
    checkPoints system points = .ok () ↔
      (points.findSome? fun point => violation? point system.functions 0) = none := by
  unfold checkPoints
  split
  · next found => exact iff_of_false nofun (found ▸ nofun)
  · next nothing => exact iff_of_true rfl nothing

theorem checkPoints_eq_error_iff {points : List (Point α)} {cause : Error α} :
    checkPoints system points = .error cause ↔
      (points.findSome? fun point => violation? point system.functions 0) = some cause := by
  unfold checkPoints
  split
  · next found => rw [found, Except.error.injEq, Option.some.injEq]
  · next nothing => exact iff_of_false nofun (nothing ▸ nofun)

theorem checkedAxes_of_areSampled (sizes : intervals.length = system.dimension)
    (sampled : AreSampled intervals limits.gridStep grids) :
    checkedAxes system intervals limits.gridStep =
      if maxGridPoints < pointCount grids then
        .error (.gridTooLarge (reportedCount grids) maxGridPoints)
      else .ok grids := by
  have counted := countWithin?_eq grids
  rw [checkedAxes, if_neg (not_not.2 sizes), axes_of_areSampled sampled]
  by_cases large : maxGridPoints < pointCount grids
  · rw [if_neg (not_le.2 large)] at counted
    simp only [counted, if_pos large]
  · rw [if_pos (not_lt.1 large)] at counted
    simp only [counted, if_neg large]

/-- Where the sides have grids, the check looks at the number of combinations and then at each of
them. -/
theorem checkContraction_of_areSampled (sizes : intervals.length = system.dimension)
    (sampled : AreSampled intervals limits.gridStep grids) :
    checkContraction system intervals limits =
      if maxGridPoints < pointCount grids then
        .error (.gridTooLarge (reportedCount grids) maxGridPoints)
      else checkPoints system (gridPoints grids) := by
  rw [checkContraction_eq, checkedAxes_of_areSampled sizes sampled]
  by_cases large : maxGridPoints < pointCount grids
  · rw [if_pos large, if_pos large]
  · rw [if_neg large, if_neg large]
    rfl

theorem checkContraction_of_isFirstRejected (sizes : intervals.length = system.dimension)
    {i : Nat} {reason : IntervalError α}
    (h : IsFirstRejected intervals limits.gridStep i reason) :
    checkContraction system intervals limits = .error (.grid reason) := by
  rw [checkContraction_eq, checkedAxes, if_neg (not_not.2 sizes), axes_of_isFirstRejected h]

/-- What is found at points is not that they are too many. -/
theorem checkPoints_ne_gridTooLarge {points : List (Point α)} {count : α} {limit : Nat} :
    checkPoints system points ≠ .error (.gridTooLarge count limit) := by
  intro h
  obtain ⟨p, -, violated⟩ := List.exists_of_findSome?_eq_some (checkPoints_eq_error_iff.1 h)
  rcases violation?_cases violated with ⟨_, -, _, -, impossible⟩ | ⟨_, _, _, -, -, -, impossible⟩
  · cases impossible
  · cases impossible

end Check

/-! ## The number of combinations -/

section Count

variable {α : Type} [Number α]

/-- The number of combinations of points, one from each axis: the product of the numbers of points,
as natural numbers. -/
def combinations (grids : List (Grid α)) : Nat := (grids.map fun g => g.points.length).prod

theorem pointCount_eq (grids : List (Grid α)) : pointCount grids = combinations grids := by
  rw [combinations, List.prod_eq_foldl, List.foldl_map, pointCount]
  simp only [Grid.length_points]

/-- That many combinations are visited. -/
theorem length_gridPoints (grids : List (Grid α)) :
    (gridPoints grids).length = combinations grids := by
  induction grids with
  | nil => rfl
  | cons grid grids ih =>
    rw [gridPoints, List.length_flatMap, combinations, List.map_cons, List.prod_cons,
      ← combinations, ← ih]
    simp only [List.length_map, List.map_const', List.sum_replicate, smul_eq_mul]

end Count

/-- What the contraction check makes of the size of a box. -/
structure GuardsSize (system : EquationSystem Float) (intervals : List (Interval Float))
    (limits : Limits Float) : Prop where
  /-- A box is refused for its size exactly if it has too many combinations of points. -/
  refused : ∀ grids, AreSampled intervals limits.gridStep grids →
    ((∃ count limit, checkContraction system intervals limits =
        .error (.gridTooLarge count limit)) ↔ maxGridPoints < combinations grids)
  /-- Otherwise the check looks at that many points. -/
  walked : ∀ grids, AreSampled intervals limits.gridStep grids →
    combinations grids ≤ maxGridPoints →
      checkContraction system intervals limits = checkPoints system (gridPoints grids) ∧
        (gridPoints grids).length = combinations grids
  /-- If a side is refused, the box is refused for the reason of the first such side. -/
  rejected : (∃ s ∈ intervals, ∃ reason, s.grid limits.gridStep = .error reason) →
    ∃ i reason, IsFirstRejected intervals limits.gridStep i reason ∧
      checkContraction system intervals limits = .error (.grid reason)
  /-- No axis is too short or too long. -/
  bounds : ∀ s ∈ intervals, ∀ g, s.grid limits.gridStep = .ok g →
    2 ≤ g.points.length ∧ g.points.length ≤ maxGridPoints

/-- The guard on the size of the sampling grid agrees with the exact count, whether or not it fits
into a word. -/
theorem size_guard_is_exact (system : EquationSystem Float) (intervals : List (Interval Float))
    (limits : Limits Float) (sizes : intervals.length = system.dimension) :
    GuardsSize system intervals limits where
  refused grids sampled := by
    rw [checkContraction_of_areSampled sizes sampled, pointCount_eq]
    split
    · next large => exact iff_of_true ⟨_, _, rfl⟩ large
    · next few =>
      refine iff_of_false ?_ few
      rintro ⟨count, limit, impossible⟩
      exact checkPoints_ne_gridTooLarge impossible
  walked grids sampled few := by
    rw [checkContraction_of_areSampled sizes sampled, pointCount_eq, if_neg (not_lt.2 few)]
    exact ⟨rfl, length_gridPoints grids⟩
  rejected refused := by
    obtain ⟨i, reason, first⟩ := exists_isFirstRejected refused
    exact ⟨i, reason, first, checkContraction_of_isFirstRejected sizes first⟩
  bounds s _ g hg := by
    rw [Grid.length_points]
    exact Grid.size_bounds hg

/-- Five functions of five variables, all zero. -/
def zeroInFive : EquationSystem Float where
  label := "zero"
  functions := List.replicate 5 ⟨"0", 5, fun _ => 0⟩
  nonempty := by simp
  square := by simp

/-- A side that is ten thousand steps long. -/
def hundredWide : Interval Float := ⟨-50, 50, by decide, by decide, by decide⟩

/-- The number of combinations does not fit into a word, and the box is refused for its size. -/
theorem zeroInFive_refused_for_size : ∃ limits : Limits Float, ∃ grids,
    limits.gridStep = Limits.defaultGridStep ∧
      AreSampled (List.replicate 5 hundredWide) limits.gridStep grids ∧
      UInt64.size < combinations grids ∧
      ∃ count limit, checkContraction zeroInFive (List.replicate 5 hundredWide) limits =
        .error (.gridTooLarge count limit) := by
  let limits : Limits Float := ⟨1, Limits.defaultGridStep, by decide, by decide, by decide⟩
  have steps : (hundredWide.grid limits.gridStep).toOption.map Grid.segments = some 10000 := by
    decide +kernel
  obtain ⟨g, h, segments⟩ := exists_ok_of_map_eq_some steps
  have size : g.points.length = 10001 := by rw [Grid.length_points, Grid.size, segments]
  have sampled : AreSampled (List.replicate 5 hundredWide) limits.gridStep (List.replicate 5 g) :=
    .cons h (.cons h (.cons h (.cons h (.cons h .nil))))
  have large : combinations (List.replicate 5 g) = 10001 ^ 5 := by
    rw [combinations, List.map_replicate, List.prod_replicate, size]
  refine ⟨limits, _, rfl, sampled, by rw [large]; decide, ?_⟩
  have guarded := size_guard_is_exact zeroInFive (List.replicate 5 hundredWide) limits rfl
  exact (guarded.refused _ sampled).2 (by rw [large]; decide)

end RootFinding.Systems
