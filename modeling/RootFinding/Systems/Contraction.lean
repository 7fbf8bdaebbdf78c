import RootFinding.EquationSystem
import RootFinding.Grid
import RootFinding.Systems.Error

/-!
# The contraction condition

Fixed-point iteration converges in a box if, everywhere in it, the magnitudes of the partial
derivatives of each function add up to at most one. `checkContraction` looks at this on a grid: each
side of the box is sampled, and every combination of samples is visited, the last coordinate running
fastest. The first point and the first function that violate the condition are reported.

The points are not stored. Their number is computed beforehand, in words, and bounded
(`countWithin?`). The check is written for any monad, so that it can show each point that it looks
at to someone (`checkContractionM`); `checkContraction` is this check run without effects.
-/

namespace RootFinding.Systems

open Number

variable {α β : Type} [Number α]

/-- All combinations of points, one from each axis, the last axis running fastest. -/
def gridPoints : List (Grid α) → List (Point α)
  | [] => [[]]
  | axis :: axes => axis.points.flatMap fun x => (gridPoints axes).map (x :: ·)

section Walk

variable {m : Type → Type} [Monad m]

/-- The first result that `f` has at a combination of points, each put behind `front`. -/
def findPointM? (f : Point α → m (Option β)) :
    (axes : List (Grid α)) → (front : Point α) → m (Option β)
  | [], front => f front
  | axis :: axes, front => axis.findM? fun x => findPointM? f axes (front ++ [x])

theorem findSomeM?_append [LawfulMonad m] {γ : Type} (f : γ → m (Option β)) (xs ys : List γ) :
    (xs ++ ys).findSomeM? f = (do
      match ← xs.findSomeM? f with
      | some result => pure (some result)
      | none => ys.findSomeM? f) := by
  induction xs with
  | nil => simp
  | cons x xs ih =>
    simp only [List.cons_append, List.findSomeM?_cons, bind_assoc, ih]
    congr
    funext result
    cases result <;> simp

theorem findSomeM?_flatMap [LawfulMonad m] {γ δ : Type} (f : γ → m (Option β)) (g : δ → List γ)
    (xs : List δ) : (xs.flatMap g).findSomeM? f = xs.findSomeM? fun x => (g x).findSomeM? f := by
  induction xs with
  | nil => rfl
  | cons x xs ih =>
    rw [List.flatMap_cons, findSomeM?_append, List.findSomeM?_cons, ih]
    rfl

theorem findSomeM?_map {γ δ : Type} (f : γ → m (Option β)) (g : δ → γ) (xs : List δ) :
    (xs.map g).findSomeM? f = xs.findSomeM? fun x => f (g x) := by
  induction xs with
  | nil => rfl
  | cons x xs ih =>
    rw [List.map_cons, List.findSomeM?_cons, List.findSomeM?_cons, ih]

/-- The walk visits the combinations in their order. -/
theorem findPointM?_eq [LawfulMonad m] (f : Point α → m (Option β)) (axes : List (Grid α))
    (front : Point α) :
    findPointM? f axes front = (gridPoints axes).findSomeM? fun x => f (front ++ x) := by
  induction axes generalizing front with
  | nil =>
    simp only [gridPoints, findPointM?, List.findSomeM?_cons, List.findSomeM?_nil, List.append_nil]
    refine (bind_pure (f front)).symm.trans ?_
    congr
    funext result
    cases result <;> rfl
  | cons axis axes ih =>
    simp only [findPointM?, Grid.findM?_eq, gridPoints, findSomeM?_flatMap, findSomeM?_map, ih,
      List.append_assoc, List.singleton_append]

end Walk

/-- The first function that violates the condition at a point, counted from `index` on, or that
refuses the point. -/
def violation? (point : Point α) : List (VectorFunction α) → (index : Nat) → Option (Error α)
  | [], _ => none
  | f :: functions, index =>
    match f.partialDerivativeNorm point with
    | .error cause => some (.argument cause)
    | .ok sum =>
      if sum ≤ one then violation? point functions (index + 1)
      else some (.notContraction index sum point)

/-- The grids on the sides of a box. -/
def axes (intervals : List (Interval α)) (gridStep : α) : Except (Error α) (List (Grid α)) :=
  intervals.mapM fun interval => (interval.grid gridStep).mapError .grid

/-- The number of combinations. -/
def pointCount (axes : List (Grid α)) : Nat :=
  axes.foldl (fun count axis => count * axis.size) 1

/-- The product of two words, if it fits into a word. -/
def checkedMul (m n : Nat) : Option Nat := if m * n < UInt64.size then some (m * n) else none

/-- The number of combinations, multiplied out in words, if no product overflows and the last one is
not too large. -/
def countWithin? (axes : List (Grid α)) : Option Nat :=
  (axes.foldlM (fun count axis => checkedMul count axis.size) 1).filter (· ≤ maxGridPoints)

/-- Counting on does not decrease a number of combinations. -/
theorem le_foldl_size (axes : List (Grid α)) (count : Nat) :
    count ≤ axes.foldl (fun count axis => count * axis.size) count := by
  induction axes generalizing count with
  | nil => exact Nat.le_refl count
  | cons axis axes ih => exact Nat.le_trans (Nat.le_mul_of_pos_right count axis.size_pos) (ih _)

/-- No axis is empty, so where one product overflows, the number of combinations does not fit into a
word either. -/
theorem foldlM_checkedMul (axes : List (Grid α)) {count : Nat} (fits : count < UInt64.size) :
    axes.foldlM (fun count axis => checkedMul count axis.size) count =
      if axes.foldl (fun count axis => count * axis.size) count < UInt64.size then
        some (axes.foldl (fun count axis => count * axis.size) count)
      else none := by
  induction axes generalizing count with
  | nil => exact (if_pos fits).symm
  | cons axis axes ih =>
    rw [List.foldlM_cons, List.foldl_cons, checkedMul]
    by_cases next : count * axis.size < UInt64.size
    · rw [if_pos next, Option.bind_eq_bind, Option.bind_some, ih next]
    · have large := Nat.le_trans (Nat.not_lt.1 next) (le_foldl_size axes (count * axis.size))
      rw [if_neg next, if_neg (Nat.not_lt.2 large)]
      rfl

/-- Counting in words is exact below the limit. -/
theorem countWithin?_eq (axes : List (Grid α)) :
    countWithin? axes =
      if pointCount axes ≤ maxGridPoints then some (pointCount axes) else none := by
  rw [countWithin?, foldlM_checkedMul axes (by decide), ← pointCount]
  split
  · rw [Option.filter_some]
    simp only [decide_eq_true_eq]
  · next large =>
    rw [Option.filter_none, if_neg]
    exact fun within => large (Nat.lt_of_le_of_lt within (by decide))

theorem countWithin?_eq_none {axes : List (Grid α)} :
    countWithin? axes = none ↔ maxGridPoints < pointCount axes := by
  rw [countWithin?_eq, ← Nat.not_le]
  split <;> simp_all

/-- The number of combinations as it is reported, multiplied out with the rounding of `α`. -/
def reportedCount (axes : List (Grid α)) : α :=
  axes.foldl (fun count axis => count * ofNat axis.size) one

/-- The grids on the sides of a box, if there is a side for each unknown and there are not too many
combinations. -/
def checkedAxes (system : EquationSystem α) (intervals : List (Interval α)) (gridStep : α) :
    Except (Error α) (List (Grid α)) :=
  if intervals.length ≠ system.dimension then
    .error (.dimensionMismatch system.dimension intervals.length system.dimension)
  else
    match axes intervals gridStep with
    | .error cause => .error cause
    | .ok axes =>
      match countWithin? axes with
      | none => .error (.gridTooLarge (reportedCount axes) maxGridPoints)
      | some _ => .ok axes

section Check

variable {m : Type → Type} [Monad m]

/-- Shows a point to `visit`, and then looks for a violation there. -/
def inspect (visit : Point α → m Unit) (system : EquationSystem α) (point : Point α) :
    m (Option (Error α)) := do
  visit point
  return violation? point system.functions 0

/-- Checks the contraction condition on the box of the given sides. Every combination that is looked
at is shown to `visit`. -/
def checkContractionM (visit : Point α → m Unit) (system : EquationSystem α)
    (intervals : List (Interval α)) (limits : Limits α) : m (Except (Error α) Unit) :=
  match checkedAxes system intervals limits.gridStep with
  | .error cause => return .error cause
  | .ok axes => do
    match ← findPointM? (inspect visit system) axes [] with
    | some cause => return .error cause
    | none => return .ok ()

/-- Checks the contraction condition on the box of the given sides. -/
def checkContraction (system : EquationSystem α) (intervals : List (Interval α))
    (limits : Limits α) : Except (Error α) Unit :=
  Id.run (checkContractionM (fun _ => pure ()) system intervals limits)

/-- Without effects, the check searches the combinations of the grids for a first violation. -/
theorem checkContraction_eq (system : EquationSystem α) (intervals : List (Interval α))
    (limits : Limits α) :
    checkContraction system intervals limits =
      match checkedAxes system intervals limits.gridStep with
      | .error cause => .error cause
      | .ok axes =>
        match (gridPoints axes).findSome? fun point => violation? point system.functions 0 with
        | some cause => .error cause
        | none => .ok () := by
  rw [checkContraction, checkContractionM]
  cases checkedAxes system intervals limits.gridStep with
  | error cause => rfl
  | ok axes =>
    simp only [findPointM?_eq, List.findSome?_eq_findSomeM?]
    rfl

end Check

end RootFinding.Systems
