import Mathlib.Tactic.Linarith
import Mathlib.Tactic.NormNum
import Mathlib.Tactic.Positivity
import RootFinding.Proofs.Rational.Guards
import RootFinding.Proofs.Scalar.Retry

/-!
# Simple iteration climbs to the first root

Over the rational numbers, and with a slope that is steep enough, one of the two coefficients of
simple iteration leads from the left end of the bracket to the first root there: its steps go to the
right, and never beyond the root (`Climbs`). Which one that is depends on the sign of the function
before the root. With the other one the first step leaves the bracket, so the change of sign finds
the right one: no call diverges, and the way to the root bounds the number of iterations
(`climbs_to_first_root`).

## Shape of the arguments

* While a coefficient climbs, all states are between the left end and the root
  (`Climbs.state_bounds`), and the only reason to end the pass is that a step is short
  (`Climbs.reason?_eq`).
* A step that is not short is at least as long as the precision, so the steps that are not short
  cover the precision each (`Climbs.mul_le_state_sub`). This bounds the rows of a pass
  (`Climbs.isClimb`).
-/

namespace RootFinding.Scalar.SimpleIteration

open Number Rational

variable {f : ScalarFunction ℚ} {interval : Interval ℚ} {left right precision c k r : ℚ}

/-! ## Coefficients -/

/-- From the points between `left` and `r`, the steps with the coefficient `c` go to the right, and
not beyond `r`. -/
def Climbs (f : ScalarFunction ℚ) (c left r : ℚ) : Prop :=
  ∀ x, left ≤ x → x ≤ r → 0 ≤ c * f.eval x ∧ c * f.eval x ≤ r - x

/-- The point `r` is a root, up to which the function has one sign from `left` on, and as seen from
which it is not steeper than `k`. -/
structure IsFirstRoot (f : ScalarFunction ℚ) (left k r : ℚ) : Prop where
  ge : left ≤ r
  root : f.eval r = 0
  oneSign : (∀ x, left ≤ x → x ≤ r → f.eval x ≤ 0) ∨ ∀ x, left ≤ x → x ≤ r → 0 ≤ f.eval x
  steep : ∀ x, left ≤ x → x ≤ r → |f.eval x| ≤ k * (r - x)

/-- A root at the left end is the end of the climb with every coefficient. -/
theorem climbs_of_root (root : f.eval left = 0) (c : ℚ) : Climbs f c left left := by
  intro x ge le
  obtain rfl : x = left := le_antisymm le ge
  simp [root]

/-- A coefficient climbs if its steps have the length of the reciprocal of the slope times the
value. -/
theorem IsFirstRoot.climbs_of_eq_abs (h : IsFirstRoot f left k r) (k_pos : 0 < k)
    (step_eq : ∀ x, left ≤ x → x ≤ r → c * f.eval x = |f.eval x| / k) : Climbs f c left r := by
  intro x ge le
  rw [step_eq x ge le]
  exact ⟨by positivity, (div_le_iff₀' k_pos).2 (h.steep x ge le)⟩

/-- Where the left end is not above zero, the coefficient of the first pass climbs, to the root or
to one at the left end. -/
theorem IsFirstRoot.exists_climbs (h : IsFirstRoot f left k r) (k_pos : 0 < k)
    (below : f.eval left ≤ 0) : ∃ s, left ≤ s ∧ s ≤ r ∧ Climbs f (-1 / k) left s := by
  rcases h.oneSign with nonpos | nonneg
  · refine ⟨r, h.ge, le_rfl, h.climbs_of_eq_abs k_pos fun x ge le => ?_⟩
    rw [abs_of_nonpos (nonpos x ge le), div_mul_eq_mul_div, neg_one_mul]
  · have root := le_antisymm below (nonneg left le_rfl h.ge)
    exact ⟨left, le_rfl, h.ge, climbs_of_root root _⟩

/-- Where it is above zero, the opposite coefficient climbs to the root. -/
theorem IsFirstRoot.climbs_of_pos (h : IsFirstRoot f left k r) (k_pos : 0 < k)
    (above : 0 < f.eval left) : Climbs f (1 / k) left r := by
  rcases h.oneSign with nonpos | nonneg
  · exact absurd (nonpos left le_rfl h.ge) (not_le.2 above)
  · refine h.climbs_of_eq_abs k_pos fun x ge le => ?_
    rw [abs_of_nonneg (nonneg x ge le), div_mul_eq_mul_div, one_mul]

/-! ## Climbing -/

theorem Climbs.state_bounds (h : Climbs f c left r) (ge : left ≤ r) (j : ℕ) :
    left ≤ (textbook f c).state left j ∧ (textbook f c).state left j ≤ r := by
  induction j with
  | zero => exact ⟨le_rfl, ge⟩
  | succ j ih =>
    obtain ⟨up, short⟩ := h _ ih.1 ih.2
    constructor
    · exact ih.1.trans (le_add_of_nonneg_right up)
    · exact le_sub_iff_add_le'.1 short

/-- Over the rational numbers, a pass ends where a step leaves the bracket or is short. -/
theorem reason?_rational (x : ℚ) :
    reason? f interval precision c x =
      if interval.contains (x + c * f.eval x) = false then some (.escaped (x + c * f.eval x))
      else if |c * f.eval x| < precision then some .converged
      else none := by
  simp [reason?, abs_eq]

/-- A climb does not leave the bracket, so it ends where a step is short. -/
theorem Climbs.reason?_eq (h : Climbs f c interval.left r) (le_right : r ≤ interval.right) {x : ℚ}
    (ge : interval.left ≤ x) (le : x ≤ r) :
    reason? f interval precision c x =
      if c * f.eval x < precision then some .converged else none := by
  obtain ⟨up, short⟩ := h x ge le
  have inside : interval.contains (x + c * f.eval x) = true :=
    Interval.contains_iff.2 ⟨by linarith, by linarith⟩
  rw [reason?_rational, inside, abs_of_nonneg up, if_neg (Bool.noConfusion)]

/-- The steps of a climb that has not ended are not short, and cover the precision each. -/
theorem Climbs.mul_le_state_sub (h : Climbs f c interval.left r) (ge : interval.left ≤ r)
    (le_right : r ≤ interval.right) {n : ℕ}
    (before : ∀ j < n,
      reason? f interval precision c ((textbook f c).state interval.left j) = none) :
    n * precision ≤ (textbook f c).state interval.left n - interval.left := by
  induction n with
  | zero => simp [Recurrence.state]
  | succ n ih =>
    have covered := ih fun j hj => before j (Nat.lt_succ_of_lt hj)
    obtain ⟨above, below⟩ := h.state_bounds ge n
    have long : precision ≤ c * f.eval ((textbook f c).state interval.left n) := by
      by_contra! short
      have here := before n (Nat.lt_succ_self n)
      rw [h.reason?_eq le_right above below, if_pos short] at here
      cases here
    have next : (textbook f c).state interval.left (n + 1) =
        (textbook f c).state interval.left n +
          c * f.eval ((textbook f c).state interval.left n) := rfl
    rw [next]
    push_cast
    linarith

/-- What a pass is that climbs from `left`, and not beyond `r`. -/
structure IsClimb (left r precision : ℚ) (ceiling : ℕ) (rows : List (Row ℚ))
    (e : Option (End ℚ)) : Prop where
  /-- The rows go to the right, and stay between the two points. -/
  rises : ∀ row ∈ rows, left ≤ row.x ∧ row.x ≤ row.next ∧ row.next ≤ r
  /-- It converges in few steps, or has too little room for the steps it is allowed. -/
  ends : (e = some .converged ∧ rows.length ≤ (r - left) / precision + 1) ∨
    (e = none ∧ ceiling ≤ (r - left) / precision)

theorem IsClimb.mono {s : ℚ} {ceiling : ℕ} {rows : List (Row ℚ)} {e : Option (End ℚ)}
    (h : IsClimb left s precision ceiling rows e) (positive : 0 < precision) (le : s ≤ r) :
    IsClimb left r precision ceiling rows e := by
  have room : (s - left) / precision ≤ (r - left) / precision := by gcongr
  refine ⟨fun row hrow => ?_, ?_⟩
  · obtain ⟨above, up, below⟩ := h.rises row hrow
    exact ⟨above, up, below.trans le⟩
  · rcases h.ends with ⟨converged, few⟩ | ⟨reached, little⟩
    · exact .inl ⟨converged, few.trans (by gcongr)⟩
    · exact .inr ⟨reached, little.trans room⟩

/-- The only reason to end a climb is that a step is short. -/
theorem Climbs.isClimb (h : Climbs f c interval.left r) (ge : interval.left ≤ r)
    (le_right : r ≤ interval.right) (positive : 0 < precision) {ceiling : ℕ} {rows : List (Row ℚ)}
    {e : Option (End ℚ)} (pass : IsPass f interval precision c ceiling rows e) :
    IsClimb interval.left r precision ceiling rows e := by
  have rises (n : ℕ) : ∀ row ∈ (textbook f c).rows interval.left n,
      interval.left ≤ row.x ∧ row.x ≤ row.next ∧ row.next ≤ r := by
    intro row hrow
    obtain ⟨j, -, rfl⟩ := List.mem_map.1 hrow
    obtain ⟨above, below⟩ := h.state_bounds ge j
    obtain ⟨up, short⟩ := h _ above below
    exact ⟨above, le_add_of_nonneg_right up, le_sub_iff_add_le'.1 short⟩
  -- the steps before the end of the pass fit between the two points
  have few {n : ℕ} (before : ∀ j < n,
      reason? f interval precision c ((textbook f c).state interval.left j) = none) :
      (n : ℚ) ≤ (r - interval.left) / precision := by
    rw [le_div_iff₀ positive]
    have covered := h.mul_le_state_sub ge le_right before
    linarith [(h.state_bounds ge n).2]
  cases pass with
  | @ended n e below before here =>
    obtain ⟨above, below⟩ := h.state_bounds ge n
    rw [h.reason?_eq le_right above below] at here
    split_ifs at here with short
    cases here
    refine ⟨rises _, .inl ⟨rfl, ?_⟩⟩
    rw [Recurrence.length_rows, End.rowCount]
    push_cast
    linarith [few before]
  | exhausted before => exact ⟨rises _, .inr ⟨rfl, few before⟩⟩

theorem IsClimb.ne_escaped {ceiling : ℕ} {rows : List (Row ℚ)} {e : Option (End ℚ)}
    (h : IsClimb left r precision ceiling rows e) (x : ℚ) : e ≠ some (.escaped x) := by
  rintro rfl
  rcases h.ends with ⟨converged, -⟩ | ⟨reached, -⟩
  · cases converged
  · cases reached

/-! ## Calls -/

/-- What the pass with the coefficient `c` is that a call gives as its result, after the rows of one
that it has given up. -/
structure Survives (f : ScalarFunction ℚ) (interval : Interval ℚ) (precision c r : ℚ)
    (limits : Limits ℚ) (givenUp : List (Row ℚ)) (run : Run Unit (Row ℚ) (Error ℚ))
    (rows : List (Row ℚ)) (e : Option (End ℚ)) : Prop where
  pass : IsPass f interval precision c limits.maxIters rows e
  events : run.events = Event.ofRows givenUp ++ Event.ofRows rows
  decides : Decides interval limits rows e run.result
  climb : IsClimb interval.left r precision limits.maxIters rows e

/-- What an unobserved call does whose first root is `r`, and whose steepest slope is `k`. -/
structure FindsFirstRoot (f : ScalarFunction ℚ) (interval : Interval ℚ) (precision k r : ℚ)
    (limits : Limits ℚ) (run : Run Unit (Row ℚ) (Error ℚ)) : Prop where
  neverDiverges : ∀ l u x, run.result ≠ .error (.diverged l u x)
  /-- The first coefficient is kept if the value at the left end is not above zero. -/
  kept : f.eval interval.left ≤ 0 →
    ∃ rows e, Survives f interval precision (-1 / k) r limits [] run rows e
  /-- Otherwise it is given up after one step, for the opposite one. -/
  flipped : 0 < f.eval interval.left →
    ∃ rows e, Survives f interval precision (1 / k) r limits
      [(textbook f (-1 / k)).row interval.left] run rows e
  /-- The call converges if more steps are allowed than fit before the root. -/
  converges : (r - interval.left) / precision < limits.maxIters →
    ∃ solution, run.result = .ok solution ∧ solution.status = .converged ∧
      solution.iters ≤ (r - interval.left) / precision + 1

section Survives

variable {limits : Limits ℚ} {givenUp rows : List (Row ℚ)} {run : Run Unit (Row ℚ) (Error ℚ)}
  {e : Option (End ℚ)}

theorem Survives.result_cases
    (h : Survives f interval precision c r limits givenUp run rows e) :
    (∃ solution, run.result = .ok solution ∧ solution.status = .converged ∧
        solution.iters ≤ (r - interval.left) / precision + 1) ∨
      (run.result = .error (.maxIters limits.maxIters) ∧
        limits.maxIters ≤ (r - interval.left) / precision) := by
  have decides := h.decides
  rcases h.climb.ends with ⟨rfl, few⟩ | ⟨rfl, little⟩
  · obtain ⟨solution, success, converged, iters_eq, -⟩ := decides
    exact .inl ⟨solution, success, converged, iters_eq ▸ few⟩
  · exact .inr ⟨decides, little⟩

theorem Survives.neverDiverges
    (h : Survives f interval precision c r limits givenUp run rows e) (l u x : ℚ) :
    run.result ≠ .error (.diverged l u x) := by
  intro diverges
  rcases h.result_cases with ⟨solution, success, -⟩ | ⟨reached, -⟩
  · cases success.symm.trans diverges
  · cases reached.symm.trans diverges

theorem Survives.converges (h : Survives f interval precision c r limits givenUp run rows e)
    (room : (r - interval.left) / precision < limits.maxIters) :
    ∃ solution, run.result = .ok solution ∧ solution.status = .converged ∧
      solution.iters ≤ (r - interval.left) / precision + 1 := by
  rcases h.result_cases with converges | ⟨-, little⟩
  · exact converges
  · exact absurd room (not_lt.2 little)

end Survives

/-- With a positive value at the left end, the first step with the coefficient of the first pass
leaves the bracket. -/
theorem isPass_of_pos (precision : ℚ) (k_pos : 0 < k) (above : 0 < f.eval interval.left)
    {ceiling : ℕ} (positive : 0 < ceiling) :
    IsPass f interval precision (-1 / k) ceiling [(textbook f (-1 / k)).row interval.left]
      (some (.escaped (interval.left + -1 / k * f.eval interval.left))) := by
  have back : -1 / k * f.eval interval.left < 0 :=
    mul_neg_of_neg_of_pos (div_neg_of_neg_of_pos neg_one_lt_zero k_pos) above
  have outside : interval.contains (interval.left + -1 / k * f.eval interval.left) = false := by
    refine eq_false_of_ne_true fun inside => ?_
    linarith [(Interval.contains_iff.1 inside).1]
  have here : reason? f interval precision (-1 / k) ((textbook f (-1 / k)).state interval.left 0) =
      some (.escaped (interval.left + -1 / k * f.eval interval.left)) := by
    rw [Recurrence.state, reason?_rational, if_pos outside]
  exact .ended positive (fun j hj => absurd hj (Nat.not_lt_zero j)) here

variable {samples : ℕ} {limits : Limits ℚ}

/-- Some pass survives in a call: the first one if the value at the left end is not above zero, the
second one otherwise. -/
theorem exists_survives
    (ready : start f left right precision samples limits = .ok (interval, -1 / k))
    (positive : 0 < precision) (k_pos : 0 < k) (le_right : r ≤ interval.right)
    (first : IsFirstRoot f interval.left k r) :
    (f.eval interval.left ≤ 0 ∧
      ∃ rows e, Survives f interval precision (-1 / k) r limits []
        (solve f left right precision samples limits .silent) rows e) ∨
    (0 < f.eval interval.left ∧
      ∃ rows e, Survives f interval precision (1 / k) r limits
        [(textbook f (-1 / k)).row interval.left]
        (solve f left right precision samples limits .silent) rows e) := by
  have passes := Observer.isPassive_silent.passes
    (solve f left right precision samples limits .silent).events
  rcases le_or_gt (f.eval interval.left) 0 with below | above
  · have pass := isPass_passCourse f interval precision (-1 / k) limits
    obtain ⟨s, ge, le, climbs⟩ := first.exists_climbs k_pos below
    have climb := (climbs.isClimb ge (le.trans le_right) positive pass).mono positive le
    obtain ⟨events, decides⟩ := call_of_not_escaped ready passes pass climb.ne_escaped
    exact .inl ⟨below, _, _, pass, events, decides, climb⟩
  · have escapes := isPass_of_pos precision k_pos above limits.maxIters_pos
    have pass := isPass_passCourse f interval precision (1 / k) limits
    have climb := (first.climbs_of_pos k_pos above).isClimb first.ge le_right positive pass
    have opposite : -(-1 / k) = 1 / k := by rw [neg_div, neg_neg]
    obtain ⟨events, decides⟩ := call_of_escaped ready passes escapes
      (isPass_passCourse f interval precision _ limits)
    rw [opposite] at events decides
    exact .inr ⟨above, _, _, pass, events, decides, climb⟩

/-- For every function with a first root in the bracket, as seen from which it is nowhere steeper
than the steepest slope that is found, and for every precision: an unobserved call does not diverge,
it changes the sign if and only if the value at the left end is positive, and it climbs towards the
root. -/
theorem climbs_to_first_root (order : left < right) (positive : 0 < precision)
    (sampled : samples ≠ 0) (steepest : steepestSlope f (.between order) samples = .ok k)
    (regular : limits.minDenominator ≤ k) (k_pos : 0 < k) (le_right : r ≤ right)
    (first : IsFirstRoot f left k r) :
    FindsFirstRoot f (.between order) precision k r limits
      (solve f left right precision samples limits .silent) := by
  have large : ¬Number.abs k < limits.minDenominator := by
    rw [abs_eq, abs_of_pos k_pos]
    exact not_lt.2 regular
  have ready : start f left right precision samples limits = .ok (.between order, -1 / k) :=
    start_eq_ok (Interval.ofBounds_bounds (.between order)) (isTolerance_iff.2 positive) sampled
      steepest large
  rcases exists_survives ready positive k_pos le_right first with
    ⟨below, rows, e, survives⟩ | ⟨above, rows, e, survives⟩
  · exact ⟨survives.neverDiverges, fun _ => ⟨rows, e, survives⟩,
      fun above => absurd above (not_lt.2 below), survives.converges⟩
  · exact ⟨survives.neverDiverges, fun below => absurd above (not_lt.2 below),
      fun _ => ⟨rows, e, survives⟩, survives.converges⟩

/-- A parabola that falls from one to its root at one, with slopes of at most four up to two. -/
def falling : ScalarFunction ℚ where
  label := "1 - x^2"
  eval x := 1 - x ^ 2

theorem isFirstRoot_falling : IsFirstRoot falling 0 4 1 where
  ge := zero_le_one
  root := by norm_num [falling]
  oneSign := .inr fun x ge le => by
    show 0 ≤ 1 - x ^ 2
    nlinarith
  steep x ge le := by
    show |1 - x ^ 2| ≤ 4 * (1 - x)
    rw [abs_of_nonneg (by nlinarith)]
    nlinarith

/-- From zero on, the first step goes to the left. In the second pass, one of the first eleven steps
is shorter than a tenth. -/
theorem falling_climbs_after_flip : ∃ (order : (0 : ℚ) < 2) (limits : Limits ℚ),
    limits.maxIters = 20 ∧ (0 : ℚ) < 1 / 10 ∧
    steepestSlope falling (.between order) 1 = .ok 4 ∧ limits.minDenominator ≤ 4 ∧
    IsFirstRoot falling 0 4 1 ∧
    FindsFirstRoot falling (.between order) (1 / 10) 4 1 limits
      (solve falling 0 2 (1 / 10) 1 limits .silent) ∧
    ∃ solution, (solve falling 0 2 (1 / 10) 1 limits .silent).result = .ok solution ∧
      solution.status = .converged ∧ solution.iters ≤ 11 := by
  have positive : (0 : ℚ) < 1 / 10 := by norm_num
  have steepest : steepestSlope falling (.between zero_lt_two) 1 = .ok 4 := by decide +kernel
  have finds : FindsFirstRoot falling _ _ 4 1 ⟨20, 0, by decide, rfl, by decide⟩ _ :=
    climbs_to_first_root zero_lt_two positive one_ne_zero steepest (by decide) (by norm_num)
      one_le_two isFirstRoot_falling
  obtain ⟨solution, success, converged, few⟩ := finds.converges (by
    show (1 - (0 : ℚ)) / (1 / 10) < (20 : ℕ)
    norm_num)
  refine ⟨zero_lt_two, _, rfl, positive, steepest, by decide, isFirstRoot_falling, finds, solution,
    success, converged, ?_⟩
  have few : (solution.iters : ℚ) ≤ (1 - 0) / (1 / 10) + 1 := few
  norm_num at few
  exact_mod_cast few

end RootFinding.Scalar.SimpleIteration
