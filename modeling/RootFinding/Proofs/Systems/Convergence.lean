import RootFinding.Proofs.Methods.Counting
import RootFinding.Proofs.Rational.Arithmetic
import RootFinding.Proofs.Run.Convergence
import RootFinding.Proofs.Systems.Squareness
import RootFinding.Proofs.Systems.Validation
import Mathlib.Tactic.Ring

/-!
# Contractions converge

Over the rational numbers, the iteration does what the fixed-point theorem says. If the system maps
the box into itself and brings any two of its points nearer to each other by a factor `q` below one,
no iterate leaves the box, and the iterates come nearer to each other as fast as the powers of `q`
fall (`contraction_converges`). So the number of iterations that are enough for a precision is known
after the first one.

## Shape of the arguments

* A system that maps the box into itself leaves only one way to fail: the ceiling
  (`eq_maxIters_of_error`). Then as many iterates as the ceiling allows are recorded, and none of
  them is final. So an iterate that has to be final ends the call in time (`converges_within`). This
  half holds over any numbers.
* The largest change of a row is the distance to the row before (`IsImage.maxChange_eq`), and
  distances shrink along the images by the factor `q` (`distance_le_pow`).
-/

namespace RootFinding.Systems.FixedPoint

open Number

variable {α : Type} [Number α]

/-- At each point of the box, every function has its value in the interval of its unknown. -/
def MapsIntoItself (system : EquationSystem α) (intervals : List (Interval α)) : Prop :=
  ∀ x, InBox system intervals x →
    List.Forall₂ (fun f interval => interval.contains (f.eval x) = true) system.functions intervals

variable {system : EquationSystem α} {intervals : List (Interval α)} {point : Point α}
  {precision : α} {limits : Limits α}

theorem MapsIntoItself.inBox_image (h : MapsIntoItself system intervals) {x y : Point α}
    (box : InBox system intervals x) (happly : system.apply x = .ok y) :
    InBox system intervals y := by
  obtain ⟨-, rfl⟩ := EquationSystem.apply_eq_ok.1 happly
  exact ⟨List.length_map _, List.forall₂_map_left_iff.2 (h x box)⟩

/-! ## Systems that stay in the box -/

section Accepted

variable (tolerance : isTolerance precision = true) (box : InBox system intervals point)
  (contracts : checkContraction system intervals limits = .ok ())
  (into : MapsIntoItself system intervals)

include tolerance box contracts into

/-- Only the ceiling can make a call fail. -/
theorem eq_maxIters_of_error {τ : Type} {o : Observer τ (Row α)} {cause : Error α}
    (h : (solve system intervals point precision limits o).result = .error cause) :
    cause = .maxIters limits.maxIters := by
  have hstart : start system intervals point precision limits = .ok (.seed point) :=
    start_eq_ok.2 ⟨checkInputs_eq_ok_iff.2 ⟨tolerance, box⟩, contracts, rfl⟩
  rcases Scheme.call_error_cases h with refused | reached | ⟨s, t, hs, leads, failed⟩
  · cases hstart.symm.trans refused
  · exact reached
  · obtain rfl := Except.ok.inj (hstart.symm.trans hs)
    obtain ⟨last, hlast, rfl⟩ := iterate_of_leads leads failed
    have orbit := solve_tracesOrbit system intervals point precision limits o
    have last_inBox := orbit.inBox last (List.mem_of_getLast? hlast)
    obtain ⟨image, happly⟩ := (system.takesPoints.apply_iff last.values).2 last_inBox.length
    rcases scheme_iterate_eq_error.1 failed with
      ⟨refusal, hrefused, -⟩ | ⟨next, i, value, interval, hnext, outside, -⟩
    · cases happly.symm.trans hrefused
    · obtain ⟨j, -, first⟩ := firstOutside?_eq_some_iff.1 outside
      exact absurd (into.inBox_image last_inBox hnext) first.not_inBox

/-- A call that fails has reached the ceiling: as many rows as it allows are recorded after the
start point, and none of them is final. -/
theorem rows_of_error {τ : Type} {o : Observer τ (Row α)} {cause : Error α}
    (h : (solve system intervals point precision limits o).result = .error cause) :
    limits.maxIters < (solve system intervals point precision limits o).rows.length ∧
      ∀ r ∈ (solve system intervals point precision limits o).rows,
        ¬(stoppingRule precision limits).holds r := by
  obtain rfl := eq_maxIters_of_error tolerance box contracts into h
  have single : (solve system intervals point precision limits o).events = _ :=
    Scheme.events_call_eq _ _ _ _ _ _
  obtain ⟨count, unsettled⟩ := (solve_obeys system intervals point precision limits
    o).rows_of_ceiling limits.maxIters_pos single h trivial
  refine ⟨?_, unsettled⟩
  have first := (solve_tracesOrbit system intervals point precision limits o).first
  generalize (solve system intervals point precision limits o).rows = rows at count first ⊢
  cases rows with
  | nil => exact absurd count (Nat.ne_of_lt limits.maxIters_pos)
  | cons seed iterates =>
    -- the start point is no iterate
    obtain rfl := first seed rfl
    rw [List.countP_cons_of_neg Bool.false_ne_true] at count
    have most : limits.maxIters ≤ iterates.length := Eq.trans_le count.symm List.countP_le_length
    exact Nat.lt_succ_of_le most

/-- An unobserved call records an iterate. -/
theorem exists_first_iterate :
    ∃ r, (solve system intervals point precision limits .silent).rows[1]? = some r := by
  have long : 1 < (solve system intervals point precision limits .silent).rows.length := by
    cases h : (solve system intervals point precision limits .silent).result with
    | error cause =>
      have above := (rows_of_error tolerance box contracts into h).1
      exact Nat.lt_of_le_of_lt limits.maxIters_pos above
    | ok solution =>
      have counts := solve_countsAfterStart system intervals point precision limits .silent
      have moved : solution.iters ≠ 0 := fun none => nomatch (counts.zero h).1 none
      have rows_eq : solution.trace.rows =
          (solve system intervals point precision limits .silent).rows := Scheme.rows_trace_call h
      rw [← rows_eq, Trace.length_rows, counts.size h]
      omega
  exact ⟨_, List.getElem?_eq_getElem long⟩

/-- If the iterate of number `K` is final whenever it is recorded, an unobserved call converges
within `K` iterations. -/
theorem converges_within {K : Nat} (K_le : K ≤ limits.maxIters)
    (final : ∀ r ∈ (solve system intervals point precision limits .silent).rows[K]?,
      (stoppingRule precision limits).holds r) :
    ∃ solution, (solve system intervals point precision limits .silent).result = .ok solution ∧
      solution.status = .converged ∧ solution.iters ≤ K := by
  have accounts : (solve system intervals point precision limits .silent).Accounts 0 1 _ _ :=
    Scheme.call_accounts _ _ _ _ _ _
  have failures (cause : Error α)
      (h : (solve system intervals point precision limits .silent).result = .error cause) :
      K < (solve system intervals point precision limits .silent).rows.length ∧
        ∀ r ∈ (solve system intervals point precision limits .silent).rows,
          ¬(stoppingRule precision limits).holds r := by
    obtain ⟨long, unsettled⟩ := rows_of_error tolerance box contracts into h
    exact ⟨K_le.trans_lt long, unsettled⟩
  obtain ⟨solution, success, converged, few⟩ := (solve_obeys system intervals point precision
    limits .silent).converges_within accounts failures final
  exact ⟨solution, success, converged, few.trans_eq (Nat.zero_add K)⟩

end Accepted

/-! ## Distances -/

section Distance

open Rational

/-- The largest distance between two coordinates of the same index. -/
def distance (x y : Point ℚ) : ℚ := (List.zipWith (fun a b => |a - b|) x y).foldl max 0

theorem distance_le_iff {x y : Point ℚ} {d : ℚ} :
    distance x y ≤ d ↔ 0 ≤ d ∧ ∀ change ∈ List.zipWith (fun a b => |a - b|) x y, change ≤ d :=
  foldl_max_le_iff

theorem distance_nonneg (x y : Point ℚ) : 0 ≤ distance x y := (distance_le_iff.1 le_rfl).1

/-- The system maps the box into itself and brings its points nearer to each other, by a factor `q`
below one. -/
structure IsContraction (system : EquationSystem ℚ) (intervals : List (Interval ℚ)) (q : ℚ) :
    Prop where
  into : MapsIntoItself system intervals
  nonneg : 0 ≤ q
  lt_one : q < 1
  shrinks : ∀ x y, InBox system intervals x → InBox system intervals y →
    ∀ f ∈ system.functions, |f.eval x - f.eval y| ≤ q * distance x y

variable {system : EquationSystem ℚ} {intervals : List (Interval ℚ)} {q : ℚ}

theorem IsContraction.distance_image_le (h : IsContraction system intervals q) {x y x' y' : Point ℚ}
    (hx : InBox system intervals x) (hy : InBox system intervals y)
    (happly : system.apply x = .ok x') (happly' : system.apply y = .ok y') :
    distance x' y' ≤ q * distance x y := by
  obtain ⟨-, rfl⟩ := EquationSystem.apply_eq_ok.1 happly
  obtain ⟨-, rfl⟩ := EquationSystem.apply_eq_ok.1 happly'
  rw [distance_le_iff, List.zipWith_map, List.zipWith_self]
  refine ⟨mul_nonneg h.nonneg (distance_nonneg x y), ?_⟩
  intro change mem
  obtain ⟨f, hf, rfl⟩ := List.mem_map.1 mem
  exact h.shrinks x y hx hy f hf

theorem IsImage.changes_eq {r r' : Row ℚ} (h : IsImage system r r') :
    r'.changes = some (List.zipWith (fun a b => |a - b|) r.values r'.values) := by
  rw [h.changes]
  simp only [abs_eq]

/-- The largest change that a row tells is the distance to the row before. -/
theorem IsImage.maxChange_eq {r r' : Row ℚ} (h : IsImage system r r') :
    r'.maxChange = some (distance r.values r'.values) := by
  have maxima : (maxWith : ℚ → ℚ → ℚ) = max := funext₂ maxWith_eq
  rw [Row.maxChange, h.changes_eq, Option.map_some, maxima]
  rfl

theorem IsImage.holds_of_distance_le {r r' : Row ℚ} {precision : ℚ} {limits : Limits ℚ}
    (h : IsImage system r r') (near : distance r.values r'.values ≤ precision) :
    (stoppingRule precision limits).holds r' :=
  ⟨_, h.changes_eq, (distance_le_iff.1 near).2⟩

theorem isImage_of_getElem? {rows : List (Row ℚ)} (images : rows.IsChain (IsImage system)) {k : ℕ}
    {r r' : Row ℚ} (hr : rows[k]? = some r) (hr' : rows[k + 1]? = some r') :
    IsImage system r r' := by
  obtain ⟨hk, rfl⟩ := List.getElem?_eq_some_iff.1 hr'
  obtain ⟨_, rfl⟩ := List.getElem?_eq_some_iff.1 hr
  exact List.isChain_iff_getElem.1 images k hk

/-- Along the images in the box, distances shrink like the powers of the factor. -/
theorem distance_le_pow (h : IsContraction system intervals q) {rows : List (Row ℚ)}
    (images : rows.IsChain (IsImage system)) (inBox : ∀ r ∈ rows, InBox system intervals r.values)
    {r₀ r₁ : Row ℚ} (hr₀ : rows[0]? = some r₀) (hr₁ : rows[1]? = some r₁) (k : ℕ) {r r' : Row ℚ}
    (hr : rows[k]? = some r) (hr' : rows[k + 1]? = some r') :
    distance r.values r'.values ≤ q ^ k * distance r₀.values r₁.values := by
  induction k generalizing r r' with
  | zero =>
    obtain rfl := Option.some.inj (hr₀.symm.trans hr)
    obtain rfl := Option.some.inj (hr₁.symm.trans hr')
    rw [pow_zero]
    exact (one_mul _).ge
  | succ k ih =>
    obtain ⟨lt, -⟩ := List.getElem?_eq_some_iff.1 hr
    have hs := List.getElem?_eq_getElem (Nat.lt_of_succ_lt lt)
    have before := isImage_of_getElem? images hs hr
    have here := isImage_of_getElem? images hr hr'
    calc distance r.values r'.values
        ≤ q * distance rows[k].values r.values :=
          h.distance_image_le (inBox _ (List.mem_of_getElem? hs))
            (inBox _ (List.mem_of_getElem? hr)) before.values here.values
      _ ≤ q * (q ^ k * distance r₀.values r₁.values) :=
          mul_le_mul_of_nonneg_left (ih hs hr) h.nonneg
      _ = q ^ (k + 1) * distance r₀.values r₁.values := by
          rw [pow_succ']
          exact (mul_assoc _ _ _).symm

/-- What the unobserved call does at the rate `q`, when the first change is `c`. -/
structure ConvergesAtRate (precision q c : ℚ) (limits : Limits ℚ)
    (run : Run Unit (Row ℚ) (Error ℚ)) : Prop where
  /-- No iterate leaves the box. -/
  stays : ∀ i value interval, run.result ≠ .error (.leftInterval i value interval)
  /-- There is a first iterate, and its largest change is `c`. -/
  first : run.rows[1]?.bind Row.maxChange = some c
  /-- The largest changes of the iterates fall like the powers of `q`. -/
  shrinks : ∀ k, ∀ r ∈ run.rows[k + 1]?, ∃ m, r.maxChange = some m ∧ m ≤ q ^ k * c
  /-- A trace has the rows of the call. -/
  trace : ∀ {solution}, run.result = .ok solution → solution.trace.rows = run.rows
  /-- The call converges once the bound is at most the precision, if the ceiling is not below. -/
  converges : ∀ k, k + 1 ≤ limits.maxIters → q ^ k * c ≤ precision →
    ∃ solution, run.result = .ok solution ∧ solution.status = .converged ∧ solution.iters ≤ k + 1

/-- A contraction that is accepted converges at the rate of its factor. -/
theorem contraction_converges (system : EquationSystem ℚ) (intervals : List (Interval ℚ))
    (point : Point ℚ) (precision q : ℚ) (limits : Limits ℚ)
    (contraction : IsContraction system intervals q) (box : InBox system intervals point)
    (positive : 0 < precision) (accepted : checkContraction system intervals limits = .ok ()) :
    ∃ c, ConvergesAtRate precision q c limits
      (solve system intervals point precision limits .silent) := by
  have tolerance : isTolerance precision = true := isTolerance_iff.2 positive
  have orbit := solve_tracesOrbit system intervals point precision limits .silent
  obtain ⟨r₁, hr₁⟩ := exists_first_iterate tolerance box accepted contraction.into
  obtain ⟨r₀, hr₀⟩ : ∃ r₀, (solve system intervals point precision limits .silent).rows[0]? =
      some r₀ := by
    obtain ⟨lt, -⟩ := List.getElem?_eq_some_iff.1 hr₁
    exact ⟨_, List.getElem?_eq_getElem (Nat.zero_lt_of_lt lt)⟩
  have image {k : ℕ} {r r' : Row ℚ}
      (hr : (solve system intervals point precision limits .silent).rows[k]? = some r)
      (hr' : (solve system intervals point precision limits .silent).rows[k + 1]? = some r') :
      IsImage system r r' := isImage_of_getElem? orbit.later hr hr'
  -- every change is a distance between successive rows, and those shrink
  have shrinks : ∀ k, ∀ r ∈ (solve system intervals point precision limits .silent).rows[k + 1]?,
      ∃ s, IsImage system s r ∧
        distance s.values r.values ≤ q ^ k * distance r₀.values r₁.values := by
    intro k r hr
    obtain ⟨lt, -⟩ := List.getElem?_eq_some_iff.1 hr
    have hs := List.getElem?_eq_getElem (Nat.lt_of_succ_lt lt)
    exact ⟨_, image hs hr, distance_le_pow contraction orbit.later orbit.inBox hr₀ hr₁ k hs hr⟩
  refine ⟨distance r₀.values r₁.values, ?_, ?_, ?_, ?_, ?_⟩
  · intro i value interval h
    cases eq_maxIters_of_error tolerance box accepted contraction.into h
  · rw [hr₁]
    exact (image hr₀ hr₁).maxChange_eq
  · intro k r hr
    obtain ⟨s, himage, near⟩ := shrinks k r hr
    exact ⟨_, himage.maxChange_eq, near⟩
  · exact orbit.trace
  · intro k enough small
    refine converges_within tolerance box accepted contraction.into enough fun r hr => ?_
    obtain ⟨s, himage, near⟩ := shrinks k r hr
    exact himage.holds_of_distance_le (near.trans small)

/-- A quarter turn, which halves all distances and takes the unit square into itself. -/
def halvingTurn : EquationSystem ℚ where
  label := "halving turn"
  functions := [⟨"x_1 / 2", 2, fun x => x.getD 1 0 / 2⟩,
    ⟨"(1 - x_0) / 2", 2, fun x => (1 - x.getD 0 0) / 2⟩]
  nonempty := by simp
  square := by simp

/-- A side of the unit square. -/
def unitInterval : Interval ℚ := ⟨0, 1, rfl, rfl, by decide⟩

theorem inBox_unitSquare_iff {x : Point ℚ} :
    InBox halvingTurn [unitInterval, unitInterval] x ↔
      ∃ a b : ℚ, x = [a, b] ∧ (0 ≤ a ∧ a ≤ 1) ∧ 0 ≤ b ∧ b ≤ 1 := by
  constructor
  · rintro ⟨-, contained⟩
    match x, contained with
    | [a, b], .cons ha (.cons hb .nil) =>
      exact ⟨a, b, rfl, Interval.contains_iff.1 ha, Interval.contains_iff.1 hb⟩
  · rintro ⟨a, b, rfl, ha, hb⟩
    exact ⟨rfl, .cons (Interval.contains_iff.2 ha) (.cons (Interval.contains_iff.2 hb) .nil)⟩

theorem halvingTurn_isContraction :
    IsContraction halvingTurn [unitInterval, unitInterval] (1 / 2) where
  into := by
    intro x hx
    obtain ⟨a, b, rfl, ⟨a_nonneg, a_le⟩, b_nonneg, b_le⟩ := inBox_unitSquare_iff.1 hx
    have first : (0 : ℚ) ≤ b / 2 ∧ b / 2 ≤ 1 := ⟨by linarith, by linarith⟩
    have second : (0 : ℚ) ≤ (1 - a) / 2 ∧ (1 - a) / 2 ≤ 1 := ⟨by linarith, by linarith⟩
    exact .cons (Interval.contains_iff.2 first) (.cons (Interval.contains_iff.2 second) .nil)
  nonneg := by norm_num
  lt_one := by norm_num
  shrinks := by
    intro x y hx hy f hf
    obtain ⟨a, b, rfl, -⟩ := inBox_unitSquare_iff.1 hx
    obtain ⟨c, d, rfl, -⟩ := inBox_unitSquare_iff.1 hy
    have near := (distance_le_iff.1 (le_refl (distance [a, b] [c, d]))).2
    obtain ⟨first, second⟩ : |a - c| ≤ distance [a, b] [c, d] ∧ |b - d| ≤ distance [a, b] [c, d] :=
      ⟨near _ (by simp), near _ (by simp)⟩
    rcases List.mem_pair.1 hf with rfl | rfl
    · show |b / 2 - d / 2| ≤ 1 / 2 * distance [a, b] [c, d]
      rw [abs_le] at second ⊢
      constructor <;> linarith
    · show |(1 - a) / 2 - (1 - c) / 2| ≤ 1 / 2 * distance [a, b] [c, d]
      rw [abs_le] at first ⊢
      constructor <;> linarith

/-- From a corner of the square, the first change is one, and a tenth is reached in the fifth
iteration, as the theorem says. -/
theorem halvingTurn_converges_in_five :
    ∃ limits : Limits ℚ, limits.maxIters = 5 ∧
      (∃ c, ConvergesAtRate (1 / 10) (1 / 2) c limits
        (solve halvingTurn [unitInterval, unitInterval] [1, 1] (1 / 10) limits .silent)) ∧
      (solve halvingTurn [unitInterval, unitInterval] [1, 1] (1 / 10) limits
        .silent).rows[1]?.bind Row.maxChange = some 1 ∧
      ∃ solution, (solve halvingTurn [unitInterval, unitInterval] [1, 1] (1 / 10) limits
        .silent).result = .ok solution ∧ solution.status = .converged ∧ solution.iters = 5 := by
  let limits : Limits ℚ :=
    ⟨5, 1 / 10, by decide, by decide +kernel, by decide +kernel⟩
  have corner : InBox halvingTurn [unitInterval, unitInterval] [1, 1] :=
    inBox_unitSquare_iff.2 ⟨1, 1, rfl, by norm_num, by norm_num⟩
  have accepted : checkContraction halvingTurn [unitInterval, unitInterval] limits = .ok () := by
    have passed : (checkContraction halvingTurn [unitInterval, unitInterval]
        limits).toOption = some () := by decide +kernel
    cases h : checkContraction halvingTurn [unitInterval, unitInterval] limits with
    | error cause => rw [h] at passed; cases passed
    | ok u => rfl
  have hstart : start halvingTurn [unitInterval, unitInterval] [1, 1] (1 / 10) limits =
      .ok (.seed [1, 1]) :=
    start_eq_ok.2 ⟨checkInputs_eq_ok_iff.2 ⟨by decide +kernel, corner⟩, accepted, rfl⟩
  have solved : ((solve halvingTurn [unitInterval, unitInterval] [1, 1] (1 / 10) limits
      .silent).result.toOption.map fun s => (s.status, s.iters)) = some (.converged, 5) := by
    rw [solve, hstart]
    decide +kernel
  have first : (solve halvingTurn [unitInterval, unitInterval] [1, 1] (1 / 10) limits
      .silent).rows[1]?.bind Row.maxChange = some 1 := by
    rw [solve, hstart]
    decide +kernel
  refine ⟨limits, rfl, contraction_converges halvingTurn [unitInterval, unitInterval] [1, 1]
    (1 / 10) (1 / 2) limits halvingTurn_isContraction corner (by norm_num) accepted, first, ?_⟩
  cases h : (solve halvingTurn [unitInterval, unitInterval] [1, 1] (1 / 10) limits
      .silent).result with
  | error cause =>
    rw [h] at solved
    cases solved
  | ok solution =>
    rw [h] at solved
    obtain ⟨converged, iters⟩ := Prod.mk.inj (Option.some.inj solved)
    exact ⟨solution, rfl, converged, iters⟩

end Distance

end RootFinding.Systems.FixedPoint
