import Mathlib.Algebra.Order.Archimedean.Basic
import Mathlib.Tactic.IntervalCases
import Mathlib.Tactic.NormNum
import Mathlib.Tactic.Ring
import RootFinding.Proofs.Methods.Stopping
import RootFinding.Proofs.Rational.Guards
import RootFinding.Proofs.Run.Convergence
import RootFinding.Proofs.Scalar.Textbook

/-!
# Bisection halves

Over the rational numbers, bisection does what its name says, for every function. Each bracket is a
half of the one before, so after `k` iterations its width is that of the first one divided by
`2 ^ k`, and the values at its ends do not have one common sign (`Halves`). So the number of
iterations that are enough for a precision is known beforehand: no call takes more, and a call takes
fewer only if it comes upon a small value (`halves_at_predicted_rate`).

## Shape of the arguments

* Width and signs are followed along the states of `textbook f`, which has no observer, no stopping
  rule and no ceiling (`width_state`, `ChangesSign.next`). The rows of a call are those of these
  states.
* Nothing but the ceiling can make a call fail, and the row that is narrow enough is final, so
  `Obeys.converges_within` applies.
-/

namespace RootFinding.Scalar.Bisection

open Number Rational

variable {f : ScalarFunction ℚ} {left right precision : ℚ} {limits : Limits ℚ}

/-! ## States -/

theorem middle_eq (e : Ends ℚ) : middle e = (e.left + e.right) / 2 := by
  rw [middle, two_eq]
  ring

/-- The half that is kept lies to the left or to the right of the middle. -/
theorem next_cases (f : ScalarFunction ℚ) (e : Ends ℚ) :
    (textbook f).next e = ⟨e.left, middle e⟩ ∨ (textbook f).next e = ⟨middle e, e.right⟩ :=
  ite_eq_or_eq _ _ _

theorem width_next (f : ScalarFunction ℚ) (e : Ends ℚ) :
    ((textbook f).next e).right - ((textbook f).next e).left = (e.right - e.left) / 2 := by
  rcases next_cases f e with keepsLeft | keepsRight
  · rw [keepsLeft, middle_eq]
    ring
  · rw [keepsRight, middle_eq]
    ring

theorem width_state (f : ScalarFunction ℚ) (e : Ends ℚ) (k : ℕ) :
    ((textbook f).state e k).right - ((textbook f).state e k).left =
      (e.right - e.left) / 2 ^ k := by
  induction k with
  | zero => rw [Recurrence.state, pow_zero, div_one]
  | succ k ih => rw [Recurrence.state, width_next, ih, pow_succ, div_div]

/-- The values at the ends do not have one common sign. -/
def ChangesSign (f : ScalarFunction ℚ) (e : Ends ℚ) : Prop := f.eval e.left * f.eval e.right ≤ 0

/-- Whichever half is kept, the sign changes in it. -/
theorem ChangesSign.next {e : Ends ℚ} (h : ChangesSign f e) :
    ChangesSign f ((textbook f).next e) := by
  show ChangesSign f (e.cut f (middle e))
  by_cases chosen : f.eval e.left * f.eval (middle e) ≤ zero
  · rw [Ends.cut, if_pos chosen]
    exact chosen
  · rw [Ends.cut, if_neg chosen]
    rw [zero_eq, not_le] at chosen
    -- the value in the middle has the strict sign of the one at the left end
    rcases pos_and_pos_or_neg_and_neg_of_mul_pos chosen with ⟨first, middle⟩ | ⟨first, middle⟩
    · exact mul_nonpos_of_nonneg_of_nonpos middle.le (nonpos_of_mul_nonpos_right h first)
    · exact mul_nonpos_of_nonpos_of_nonneg middle.le (nonneg_of_mul_nonpos_right h first)

/-! ## Rows -/

/-- The bracket of the second row is a half of the one of the first row. -/
def IsHalved (r r' : Row ℚ) : Prop :=
  (r'.left = r.left ∧ r'.right = (r.left + r.right) / 2) ∨
    (r'.left = (r.left + r.right) / 2 ∧ r'.right = r.right)

/-- What the rows of a call are whose bracket is the one between `left` and `right`. -/
structure Halves (left right : ℚ) (rows : List (Row ℚ)) : Prop where
  first : ∀ r ∈ rows.head?, r.left = left ∧ r.right = right
  halved : rows.IsChain IsHalved
  width : ∀ k, ∀ r ∈ rows[k]?, r.right - r.left = (right - left) / 2 ^ k
  /-- The values at the ends do not have one common sign. -/
  values : ∀ r ∈ rows, r.fLeft * r.fRight ≤ 0

theorem isHalved_next (f : ScalarFunction ℚ) (e : Ends ℚ) :
    IsHalved ((textbook f).row e) ((textbook f).row ((textbook f).next e)) := by
  rcases next_cases f e with keepsLeft | keepsRight
  · rw [keepsLeft]
    exact .inl ⟨rfl, middle_eq e⟩
  · rw [keepsRight]
    exact .inr ⟨middle_eq e, rfl⟩

theorem halves_rows (changes : ChangesSign f ⟨left, right⟩) (n : ℕ) :
    Halves left right ((textbook f).rows ⟨left, right⟩ n) := by
  refine ⟨?first, (textbook f).isChain_rows (isHalved_next f) n _, ?width, ?values⟩
  case first =>
    intro r hr
    rw [(textbook f).head?_rows hr]
    exact ⟨rfl, rfl⟩
  case width =>
    intro k r hr
    obtain ⟨-, rfl⟩ := Recurrence.getElem?_rows.1 hr
    exact width_state f ⟨left, right⟩ k
  case values =>
    exact Recurrence.forall_mem_rows (fun {e} (h : ChangesSign f e) => h.next) id n changes

/-! ## Calls -/

theorem solve_unrolls {τ : Type} (f : ScalarFunction ℚ) (left right precision : ℚ)
    (limits : Limits ℚ) (o : Observer τ (Row ℚ)) :
    (solve f left right precision limits o).Unrolls (textbook f) ⟨left, right⟩ :=
  computes_textbook.call_unrolls Bracket.begins o _ _ _

theorem holds_row_iff {e : Ends ℚ} :
    (stoppingRule precision limits).holds ((textbook f).row e) ↔
      e.right - e.left < precision ∨ |f.eval (middle e)| < precision := by
  rw [← abs_eq]
  rfl

section Accepted

variable (order : left < right) (positive : 0 < precision)
  (changes : f.eval left * f.eval right ≤ 0)

include order positive changes

/-- A call that fails has used up the iterations it is allowed, and none of its rows is final. -/
theorem rows_of_error {τ : Type} {o : Observer τ (Row ℚ)} {cause : Error ℚ}
    (h : (solve f left right precision limits o).result = .error cause) :
    (solve f left right precision limits o).rows.length = limits.maxIters ∧
      ∀ r ∈ (solve f left right precision limits o).rows,
        ¬(stoppingRule precision limits).holds r := by
  have obeys := solve_obeys f left right precision limits o
  have single : (solve f left right precision limits o).events = _ :=
    Scheme.events_call_eq _ _ _ _ _ _
  rcases Scheme.call_error_cases h with refused | rfl | ⟨s, t, -, -, failed⟩
  · rw [Bracket.of_of_mul_nonpos order positive changes] at refused
    cases refused
  · obtain ⟨count, unsettled⟩ := obeys.rows_of_ceiling limits.maxIters_pos single h trivial
    exact ⟨(countP_true rfl).symm.trans count, unsettled⟩
  · cases failed

/-- If the row of index `n` is narrow enough, an unobserved call converges there or before. -/
theorem converges_of_width {n : ℕ} (narrow : (right - left) / 2 ^ n < precision)
    (enough : n < limits.maxIters) :
    ∃ solution, (solve f left right precision limits .silent).result = .ok solution ∧
      solution.status = .converged ∧ solution.iters ≤ 1 + n := by
  refine (solve_obeys f left right precision limits .silent).converges_within
    (Scheme.call_accounts _ _ _ _ _ _) ?failures ?final
  case failures =>
    intro cause h
    obtain ⟨count, unsettled⟩ := rows_of_error order positive changes h
    exact ⟨count ▸ enough, unsettled⟩
  case final =>
    intro row hrow
    rw [(solve_unrolls f left right precision limits .silent).rows_eq] at hrow
    obtain ⟨-, rfl⟩ := Recurrence.getElem?_rows.1 hrow
    exact holds_row_iff.2 (.inl ((width_state f _ n).trans_lt narrow))

end Accepted

/-- The number of iterations is the number of rows. -/
theorem iters_eq_of_earlier {solution : Solution (Row ℚ)} {n : ℕ}
    (success : (solve f left right precision limits .silent).result = .ok solution)
    (earlier_eq : solution.trace.earlier.toList = (textbook f).rows ⟨left, right⟩ n) :
    solution.iters = n + 1 := by
  have accounts : (solve f left right precision limits .silent).Accounts 1 1 _ _ :=
    Scheme.call_accounts _ _ _ _ _ _
  have counted := accounts.counted success
  have length := congrArg List.length earlier_eq
  rw [Array.length_toList, Recurrence.length_rows] at length
  rw [Trace.size, length] at counted
  omega

/-- Some number of halvings makes a bracket narrower than the precision, so there is a least one. -/
theorem exists_isLeast_iters (left right : ℚ) (positive : 0 < precision) :
    ∃ K, IsLeast {k : ℕ | 1 ≤ k ∧ right - left < precision * 2 ^ (k - 1)} K := by
  have enough : ∃ k : ℕ, 1 ≤ k ∧ right - left < precision * 2 ^ (k - 1) := by
    obtain ⟨n, hn⟩ := pow_unbounded_of_one_lt ((right - left) / precision) one_lt_two
    exact ⟨n + 1, Nat.le_add_left 1 n, (div_lt_iff₀' positive).1 hn⟩
  exact ⟨Nat.find enough, Nat.find_spec enough, fun k hk => Nat.find_min' enough hk⟩

/-- What a solution is that takes `K` iterations at most. -/
structure IsInTime (f : ScalarFunction ℚ) (left right precision : ℚ) (K : ℕ)
    (solution : Solution (Row ℚ)) : Prop where
  converged : solution.status = .converged
  iters_le : solution.iters ≤ K
  /-- It takes them all unless there is a small value at an earlier middle. -/
  iters_eq_iff : solution.iters = K ↔
    ∀ j < K - 1, ¬|f.eval (middle ((textbook f).state ⟨left, right⟩ j))| < precision
  /-- The last bracket is narrow, or the value at the answer is small. -/
  final : solution.trace.last.right - solution.trace.last.left < precision ∨
    |f.eval solution.answer| < precision

/-- A solution that converges within the least number of halvings is in time. -/
theorem isInTime_of_converged {K : ℕ}
    (least : IsLeast {k : ℕ | 1 ≤ k ∧ right - left < precision * 2 ^ (k - 1)} K)
    {solution : Solution (Row ℚ)}
    (success : (solve f left right precision limits .silent).result = .ok solution)
    (converged : solution.status = .converged) (iters_le : solution.iters ≤ K) :
    IsInTime f left right precision K solution := by
  have obeys := solve_obeys f left right precision limits .silent
  have final := obeys.converged success converged
  obtain ⟨m, earlier_eq, last_eq⟩ :=
    (solve_unrolls f left right precision limits .silent).exists_state success
  have iters_eq := iters_eq_of_earlier success earlier_eq
  have answer_eq : solution.answer = middle ((textbook f).state ⟨left, right⟩ m) :=
    congrArg Row.x last_eq
  rw [last_eq, holds_row_iff] at final
  refine ⟨converged, iters_le, ⟨?large, ?all⟩, ?final⟩
  case large =>
    -- a small value would have ended the call before
    intro same j hj small
    have recorded : (textbook f).row ((textbook f).state ⟨left, right⟩ j) ∈
        solution.trace.earlier.toList := by
      rw [earlier_eq]
      exact List.mem_of_getElem? (Recurrence.getElem?_rows.2 ⟨by omega, rfl⟩)
    exact obeys.earlier success _ recorded (holds_row_iff.2 (.inr small))
  case all =>
    intro large
    by_contra fewer
    rcases final with short | small
    · rw [width_state, div_lt_iff₀ (by positivity)] at short
      have enough : K ≤ m + 1 := least.2 ⟨Nat.le_add_left 1 m, short⟩
      omega
    · exact large m (by omega) small
  case final =>
    rw [answer_eq, last_eq]
    exact final

/-- For every function, every bracket at whose ends the values do not have one common sign, and
every precision: whoever watches, the rows of a call halve the bracket and keep the change of sign.
The least number of halvings that make the bracket narrower than the precision is enough for an
unobserved call to converge. -/
theorem halves_at_predicted_rate (f : ScalarFunction ℚ) (left right precision : ℚ)
    (limits : Limits ℚ) (order : left < right) (changes : f.eval left * f.eval right ≤ 0)
    (positive : 0 < precision) :
    (∀ {τ : Type} (o : Observer τ (Row ℚ)),
        Halves left right (solve f left right precision limits o).rows) ∧
      ∃ K, IsLeast {k : ℕ | 1 ≤ k ∧ right - left < precision * 2 ^ (k - 1)} K ∧
        (K ≤ limits.maxIters → ∃ solution,
          (solve f left right precision limits .silent).result = .ok solution ∧
          IsInTime f left right precision K solution) := by
  constructor
  · intro τ o
    rw [(solve_unrolls f left right precision limits o).rows_eq]
    exact halves_rows changes _
  · obtain ⟨K, least⟩ := exists_isLeast_iters left right positive
    obtain ⟨one_le, narrow⟩ := least.1
    refine ⟨K, least, fun enough => ?_⟩
    have room : K - 1 < limits.maxIters := by omega
    obtain ⟨solution, success, converged, iters_le⟩ := converges_of_width order positive changes
      ((div_lt_iff₀ (by positivity)).2 narrow) room
    exact ⟨solution, success, isInTime_of_converged least success converged (by omega)⟩

/-- A function that jumps from one sign to the other and has no root. -/
def jump : ScalarFunction ℚ where
  label := "-1 below 3/10, 1 from there on"
  eval x := if x < 3 / 10 then -1 else 1

theorem abs_jump (x : ℚ) : |jump.eval x| = 1 := by
  show |if x < 3 / 10 then (-1 : ℚ) else 1| = 1
  split_ifs <;> simp

/-- The unit interval has to be halved four times to be narrower than an eighth, and no value is
small before. -/
theorem jump_halved_until_narrow : ∃ limits : Limits ℚ, limits.maxIters = 5 ∧ (0 : ℚ) < 1 ∧
    jump.eval 0 * jump.eval 1 ≤ 0 ∧ (0 : ℚ) < 1 / 8 ∧
    Halves 0 1 (solve jump 0 1 (1 / 8) limits .silent).rows ∧
    ∃ solution, (solve jump 0 1 (1 / 8) limits .silent).result = .ok solution ∧
      IsInTime jump 0 1 (1 / 8) 5 solution ∧ solution.iters = 5 := by
  have changes : jump.eval 0 * jump.eval 1 ≤ 0 := by decide +kernel
  have positive : (0 : ℚ) < 1 / 8 := by norm_num
  have five : IsLeast {k : ℕ | 1 ≤ k ∧ (1 : ℚ) - 0 < 1 / 8 * 2 ^ (k - 1)} 5 := by
    refine ⟨⟨by norm_num, by norm_num⟩, ?_⟩
    rintro k ⟨one_le, narrow⟩
    by_contra! few
    interval_cases k <;> norm_num at narrow
  obtain ⟨halves, K, least, converges⟩ := halves_at_predicted_rate jump 0 1 (1 / 8)
    ⟨5, 0, by decide, rfl, by decide⟩ zero_lt_one changes positive
  obtain rfl := least.unique five
  obtain ⟨solution, success, inTime⟩ := converges le_rfl
  refine ⟨_, rfl, zero_lt_one, changes, positive, halves .silent, solution, success, inTime, ?_⟩
  refine inTime.iters_eq_iff.2 fun j _ => ?_
  rw [abs_jump]
  norm_num

end RootFinding.Scalar.Bisection
