import RootFinding.Proofs.Double.Accuracy
import RootFinding.Proofs.Scalar.SignChange

/-!
# The divisors

Newton's method divides by a derivative, the chord method and the secant method by a difference of
two values. No divisor is smaller than the limit, and a derivative is finite. A difference of finite
values may overflow, though: it passes the test for its magnitude as an infinity, and what is
divided by it becomes a zero. The secant method then stays where it is, and takes that for
convergence (`divisors_are_usable_iff`).
-/

namespace RootFinding.Scalar

open Number Double

/-- A divisor is finite, and its magnitude is not less than the limit. -/
structure IsUsable (limits : Limits Float) (d : Float) : Prop where
  finite : d.isFinite = true
  le_abs : limits.minDenominator ≤ abs d

/-- The difference of `a` and `b` is not less than the limit, and usable if it does not overflow. -/
structure IsLargeDifference (limits : Limits Float) (a b : Float) : Prop where
  le_abs : limits.minDenominator ≤ abs (a - b)
  isUsable_iff : IsUsable limits (a - b) ↔ |value a - value b| < overflowBound

section

variable {limits : Limits Float} {a b d x y : Float}

/-- The guard lets nothing pass that is less than the limit. -/
theorem le_abs_of_divisor (h : Guard.divisor limits x d = .ok y) (number : d.isNaN = false) :
    limits.minDenominator ≤ abs d := by
  refine (isNaN_or_le_of_not_lt limits.finite (Guard.divisor_eq_ok.1 h).1).resolve_left ?_
  rw [isNaN_abs, number]
  exact Bool.false_ne_true

/-- A difference of finite values is a number, so the guard tests its magnitude. -/
theorem isLargeDifference_of_divisor (ha : a.isFinite = true) (hb : b.isFinite = true)
    (h : Guard.divisor limits x (a - b) = .ok y) : IsLargeDifference limits a b := by
  have rounding := isRounding_sub ha hb
  have large := le_abs_of_divisor h rounding.isNaN
  refine ⟨large, fun h => rounding.isFinite_iff.1 h.finite, fun small => ⟨?_, large⟩⟩
  exact rounding.isFinite_iff.2 small

/-- A difference of finite values is infinite if it is not usable. -/
theorem isInf_of_not_isUsable (ha : a.isFinite = true) (hb : b.isFinite = true)
    (h : Guard.divisor limits x (a - b) = .ok y) (unusable : ¬IsUsable limits (a - b)) :
    (a - b).isInf = true := by
  have number := (isRounding_sub ha hb).isNaN
  have infinite : (a - b).isFinite = false :=
    Bool.eq_false_iff.2 fun finite => unusable ⟨finite, le_abs_of_divisor h number⟩
  exact (isFinite_eq_false_iff.1 infinite).resolve_left (Bool.eq_false_iff.1 number)

/-- With an infinite divisor, the secant method takes no step. -/
theorem value_step_of_isInf (infinite : d.isInf = true)
    (finite : (x - (x - a) / d * b).isFinite = true) : value (x - (x - a) / d * b) = value x := by
  obtain ⟨hx, hstep⟩ := isFinite_of_sub finite
  obtain ⟨hquotient, hb⟩ := isFinite_of_mul hstep
  have quotient := (div_of_isInf (isFinite_of_div hquotient).1 infinite).2
  have step := isRounding_mul hquotient hb
  rw [quotient, zero_mul] at step
  have next := isRounding_sub hx hstep
  rw [step.zero.2, sub_zero] at next
  exact (next.exact hx).2

end

/-! ## Rows -/

section Rows

variable {f : ScalarFunction Float} {left right precision offset : Float} {limits : Limits Float}

/-- Newton's method divides by the derivative. -/
structure Newton.Divides (f : ScalarFunction Float) (limits : Limits Float) (r : Row Float) :
    Prop where
  next_eq : r.next = r.x - r.fX / r.derivative
  derivative_eq : r.derivative = f.derivative r.x
  usable : IsUsable limits r.derivative

/-- The chord method divides by the difference of the values at the ends of the bracket. -/
structure Chord.Divides (limits : Limits Float) (r : Row Float) : Prop where
  x_eq : r.x = (r.left * r.fRight - r.right * r.fLeft) / (r.fRight - r.fLeft)
  large : IsLargeDifference limits r.fRight r.fLeft

/-- The secant method divides by the difference of the values at the last two points. -/
structure Secant.Divides (f : ScalarFunction Float) (limits : Limits Float) (r : Row Float) :
    Prop where
  next_eq : r.next = r.x - (r.x - r.prev) / (f.eval r.x - f.eval r.prev) * f.eval r.x
  large : IsLargeDifference limits (f.eval r.x) (f.eval r.prev)
  stays : ¬IsUsable limits (f.eval r.x - f.eval r.prev) → value r.next = value r.x

theorem Newton.divides_of_step {x : Float} {row : Row Float} {verdict : Verdict Float Unit}
    (h : scheme f precision limits x = .ok (row, verdict)) : Divides f limits row := by
  obtain ⟨fX, slope, derivative, next, -, hslope, hderivative, hnext, rfl, -⟩ := scheme_eq_ok.1 h
  obtain ⟨finite, rfl⟩ := Guard.finite_eq_ok.1 hslope
  obtain ⟨-, rfl⟩ := Guard.divisor_eq_ok.1 hderivative
  obtain ⟨-, rfl⟩ := Guard.finite_eq_ok.1 hnext
  exact ⟨rfl, rfl, finite, le_abs_of_divisor hderivative (isNaN_of_isFinite finite)⟩

theorem Chord.divides_of_step {s : State Float} {row : Row Float}
    {verdict : Verdict (State Float) Unit} (ends : HasFiniteEnds s.toBracket)
    (h : scheme f precision limits s = .ok (row, verdict)) : Divides limits row := by
  obtain ⟨slope, fX, hslope, -, rfl, -⟩ := scheme_eq_ok.1 h
  obtain ⟨-, rfl⟩ := Guard.divisor_eq_ok.1 hslope
  exact ⟨rfl, isLargeDifference_of_divisor ends.2 ends.1 hslope⟩

theorem Secant.divides_of_step {s : Pair Float} {row : Row Float}
    {verdict : Verdict (Pair Float) Unit} (current : Guard.value f s.prev = .ok s.fPrev)
    (h : scheme f precision limits s = .ok (row, verdict)) : Divides f limits row := by
  obtain ⟨fX, slope, next, fNext, hfX, hslope, hnext, -, rfl, -⟩ := scheme_eq_ok.1 h
  obtain ⟨finite, rfl⟩ := Guard.value_eq_ok.1 hfX
  obtain ⟨finite_prev, prev_eq⟩ := Guard.value_eq_ok.1 current
  rw [← prev_eq] at hslope
  obtain ⟨-, rfl⟩ := Guard.divisor_eq_ok.1 hslope
  obtain ⟨finite_next, rfl⟩ := Guard.finite_eq_ok.1 hnext
  refine ⟨rfl, isLargeDifference_of_divisor finite finite_prev hslope, fun unusable => ?_⟩
  exact value_step_of_isInf (isInf_of_not_isUsable finite finite_prev hslope unusable) finite_next

/-- The secant method keeps the value at the earlier one of its points. -/
theorem Secant.current_next {s t : Pair Float} {row : Row Float}
    (h : scheme f precision limits s = .ok (row, .next t)) :
    Guard.value f t.prev = .ok t.fPrev := by
  obtain ⟨fX, slope, next, fNext, hfX, -, -, -, -, hverdict⟩ := scheme_eq_ok.1 h
  split at hverdict
  · cases hverdict
  · obtain rfl := Verdict.next.inj hverdict
    exact hfX

theorem Secant.current_start {s : Pair Float} (h : start f left right precision offset = .ok s) :
    Guard.value f s.prev = .ok s.fPrev := by
  obtain ⟨interval, -, h⟩ := bind_eq_ok.1 h
  dsimp only at h
  split at h
  · cases h
  · obtain ⟨side, -, h⟩ := bind_eq_ok.1 h
    obtain ⟨fPrev, hfPrev, h⟩ := bind_eq_ok.1 h
    obtain rfl := Except.ok.inj h
    exact hfPrev

end Rows

theorem Chord.accepted_of_start {f : ScalarFunction Float} {left right precision : Float}
    {s : State Float} (h : start f left right precision = .ok s) : HasFiniteEnds s.toBracket := by
  obtain ⟨b, hb, h⟩ := bind_eq_ok.1 h
  obtain rfl := Except.ok.inj h
  exact (Bracket.accepted_of hb).1

/-- No row comes from a divisor whose magnitude is less than the limit. The derivatives that
Newton's method divides by are finite. The differences that the other two methods divide by are
finite exactly if the exact difference is small enough for a double, and where it is not, the secant
method stays at its point. -/
theorem divisors_are_usable_iff {τ : Type} (f : ScalarFunction Float)
    (left right precision offset : Float) (limits : Limits Float) :
    (∀ o : Observer τ (Newton.Row Float),
        ∀ r ∈ (Newton.solve f left right precision limits o).rows, Newton.Divides f limits r) ∧
      (∀ o : Observer τ (Chord.Row Float),
        ∀ r ∈ (Chord.solve f left right precision limits o).rows, Chord.Divides limits r) ∧
      ∀ o : Observer τ (Secant.Row Float),
        ∀ r ∈ (Secant.solve f left right precision offset limits o).rows,
          Secant.Divides f limits r := by
  refine ⟨fun o => ?_, fun o => ?_, fun o => ?_⟩
  · exact Scheme.forall_mem_rows_call (fun _ => trivial) (fun _ _ => trivial)
      (fun _ => Newton.divides_of_step)
  · exact Scheme.forall_mem_rows_call Chord.accepted_of_start Chord.cutsBrackets.finite_next
      Chord.divides_of_step
  · exact Scheme.forall_mem_rows_call Secant.current_start (fun _ => Secant.current_next)
      Secant.divides_of_step

/-- A line that is so steep that differences of its values overflow. -/
def overflowingLine : ScalarFunction Float where
  label := "5e307 * (x - 1)"
  eval x := 5e307 * (x - 1)

/-- The secant method divides by an infinite difference of finite values of `overflowingLine`. -/
theorem secant_divides_by_infinity :
    ∃ limits : Limits Float, limits.maxIters = Limits.defaultMaxIters ∧
      ∃ r ∈ (Secant.solve overflowingLine (-2) 4 1e-4 6 limits .silent).rows,
        (overflowingLine.eval r.x).isFinite = true ∧
          (overflowingLine.eval r.prev).isFinite = true ∧
          (overflowingLine.eval r.x - overflowingLine.eval r.prev).isFinite = false := by
  refine ⟨⟨10000, 1e-12, by decide, by decide, by decide⟩, rfl, ?_⟩
  decide +kernel

end RootFinding.Scalar
