import RootFinding.Interval

/-!
# Sampling grids

A `Grid` divides an interval into segments of equal length; its points are the ends of the segments.
The points are computed from their index and are not stored, so the size of a grid and of a product
of grids is known before a point is looked at.
-/

namespace RootFinding

open Number

/-- The largest number of points a grid may have. -/
def maxGridPoints : Nat := 10000000

/-- An interval divided into `segments` segments of equal length. -/
structure Grid (α : Type) [Number α] where
  interval : Interval α
  segments : Nat
  segments_pos : 0 < segments

namespace Grid

variable {α β : Type} [Number α]

/-- The number of points. -/
def size (g : Grid α) : Nat := g.segments + 1

theorem size_pos (g : Grid α) : 0 < g.size := Nat.succ_pos g.segments

/-- The length of a segment. -/
def spacing (g : Grid α) : α := g.interval.width / ofNat g.segments

/-- The point at an index. The last one is the right end itself, whatever the rounding. -/
def point (g : Grid α) (i : Nat) : α :=
  if i = g.segments then g.interval.right else g.interval.left + g.spacing * ofNat i

/-- The points in order. -/
def points (g : Grid α) : List α := (List.range g.size).map g.point

variable {m : Type → Type} [Monad m]

/-- The first result that `f` has at a point, over `count` points from index `i` on. -/
def findFromM? (g : Grid α) (f : α → m (Option β)) : (count i : Nat) → m (Option β)
  | 0, _ => pure none
  | count + 1, i => do
    match ← f (g.point i) with
    | some result => pure (some result)
    | none => g.findFromM? f count (i + 1)

/-- The first result that `f` has at a point of the grid. -/
def findM? (g : Grid α) (f : α → m (Option β)) : m (Option β) := g.findFromM? f g.size 0

theorem findFromM?_eq (g : Grid α) (f : α → m (Option β)) (count i : Nat) :
    g.findFromM? f count i = ((List.range' i count).map g.point).findSomeM? f := by
  induction count generalizing i with
  | zero => rfl
  | succ count ih =>
    simp only [findFromM?, ih]
    rfl

/-- The walk along the grid searches its points in order. -/
theorem findM?_eq (g : Grid α) (f : α → m (Option β)) : g.findM? f = g.points.findSomeM? f := by
  rw [findM?, findFromM?_eq, points, List.range_eq_range']

end Grid

/-- The grid whose points are at most `step` apart. A step that is not finite and positive asks for
the two endpoints only. -/
def Interval.grid {α : Type} [Number α] (s : Interval α) (step : α) :
    Except (IntervalError α) (Grid α) :=
  if isTolerance step then
    let segments := ceil (s.width / step)
    let points := segments + one
    if isFinite segments = true ∧ points ≤ ofNat maxGridPoints then
      .ok ⟨s, max (toNat segments) 1, by omega⟩
    else .error (.gridTooLarge points maxGridPoints)
  else .ok ⟨s, 1, by omega⟩

end RootFinding
