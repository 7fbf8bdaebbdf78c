import RootFinding.Proofs.Double.Order
import RootFinding.Proofs.Scalar.SignChange
import RootFinding.Proofs.Scalar.Textbook
import RootFinding.Proofs.Scalar.TwoPasses

/-!
# What the failures of the scalar methods say

A failure carries values, and they show what went wrong: `Error.IsTrue` says that they are what they
are named for. In particular, the divisor that is too small is the one of the iteration under way,
as the method is written down: the state that it has come to is the one after as many steps as there
were events.

## Shape of the arguments

* A guard fails only with a cause that is true, given that the values it is handed are the right
  ones. So the causes of an iteration are true if its state is the right one.
* The state in which an iteration fails is the state that the textbook method has come to
  (`Computes.call_error_cases`).
-/

namespace RootFinding.Scalar

open Number Double

variable {τ : Type} {f : ScalarFunction Float} {left right precision : Float}
  {limits : Limits Float} {refused : Parameter → Prop} {divisor : Float → Float → Prop}

/-- What a cause of failure says of a call is true. The methods differ in the parameters that they
refuse, and in the values `v` that they divide by at a point `x`, `divisor x v`. -/
def Error.IsTrue (f : ScalarFunction Float) (left right precision : Float) (limits : Limits Float)
    (refused : Parameter → Prop) (divisor : Float → Float → Prop) : Error Float → Prop
  | .invalidInterval cause => Interval.ofBounds left right = .error cause
  | .invalidLimits _ => False
  | .invalidPrecision p => p = precision ∧ isTolerance p = false
  | .invalidParameter p => refused p
  | .noSignChange l r leftValue rightValue =>
    l = left ∧ r = right ∧ leftValue = f.eval left ∧ rightValue = f.eval right ∧
      SameSign leftValue rightValue
  | .nonFinite _ v => v.isFinite = false
  | .degenerateDenominator x v => abs v < limits.minDenominator ∧ divisor x v
  | .maxIters n => n = limits.maxIters
  | .diverged l r x => l = left ∧ r = right ∧ (x < left ∨ right < x)

/-- The failures of a computation are true of the call. -/
abbrev FailsTruly {β : Type} (f : ScalarFunction Float) (left right precision : Float)
    (limits : Limits Float) (refused : Parameter → Prop) (divisor : Float → Float → Prop)
    (x : Except (Error Float) β) : Prop :=
  FailsOnly (Error.IsTrue f left right precision limits refused divisor) x

/-! ## Guards -/

section Guards

theorem finite_failsTruly (x v : Float) :
    FailsTruly f left right precision limits refused divisor (Guard.finite x v) := by
  unfold Guard.finite
  split
  · exact .ok v
  · next h => exact .error (Bool.eq_false_iff.2 h)

theorem divisor_failsTruly {x v : Float} (h : divisor x v) :
    FailsTruly f left right precision limits refused divisor (Guard.divisor limits x v) := by
  unfold Guard.divisor
  split
  · next small => exact .error ⟨small, h⟩
  · exact .ok v

theorem inputs_failsTruly :
    FailsTruly f left right precision limits refused divisor
      (Guard.inputs left right precision) := by
  unfold Guard.inputs
  split
  · next cause h => exact .error h
  · split
    · exact .ok _
    · next h => exact .error ⟨rfl, Bool.eq_false_iff.2 h⟩

/-- Finite values with a positive product have one strict sign. -/
theorem sameSign_of_zero_lt_mul {a b : Float} (ha : a.isFinite = true) (hb : b.isFinite = true)
    (h : zero < a * b) : SameSign a b :=
  (sameSign_iff ha hb).2 (halfLeast_pos.trans ((zero_lt_mul_iff ha hb).1 h))

theorem signChange_failsTruly {interval : Interval Float} (hleft : interval.left = left)
    (hright : interval.right = right) (finite_left : (f.eval left).isFinite = true)
    (finite_right : (f.eval right).isFinite = true) :
    FailsTruly f left right precision limits refused divisor
      (Guard.signChange interval (f.eval left) (f.eval right)) := by
  unfold Guard.signChange
  split
  · next h =>
    exact .error ⟨hleft, hright, rfl, rfl, sameSign_of_zero_lt_mul finite_left finite_right h⟩
  · exact .ok ()

theorem startingSide_failsTruly (interval : Interval Float) :
    FailsTruly f left right precision limits refused divisor (Guard.startingSide f interval) :=
  (finite_failsTruly _ _).bind fun _ _ => (finite_failsTruly _ _).bind fun _ _ => .ok _

theorem bracket_failsTruly :
    FailsTruly f left right precision limits refused divisor
      (Bracket.of f left right precision) := by
  refine inputs_failsTruly.bind fun interval hinputs => ?_
  obtain ⟨rfl, rfl⟩ := Interval.bounds_of_ofBounds (Guard.inputs_eq_ok.1 hinputs).1
  refine (finite_failsTruly _ _).bind fun fLeft hleft => ?_
  refine (finite_failsTruly _ _).bind fun fRight hright => ?_
  obtain ⟨finite_left, rfl⟩ := Guard.value_eq_ok.1 hleft
  obtain ⟨finite_right, rfl⟩ := Guard.value_eq_ok.1 hright
  exact (signChange_failsTruly rfl rfl finite_left finite_right).bind fun _ _ => .ok _

end Guards

/-! ## Methods with one pass -/

/-- A call fails truly if its start does, and if the iterations do that start from the state that
the textbook method has come to. -/
theorem call_failsTruly {σ ς ρ : Type} {scheme : Scheme σ ρ (Error Float) Unit}
    {r : Recurrence ς ρ} {Inv : σ → Prop} {view : σ → ς} (computes : scheme.Computes r Inv view)
    {start : Except (Error Float) σ} {s₀ : ς} (begins : ∀ {s}, start = .ok s → Inv s ∧ view s = s₀)
    (divisorAt : ς → Float → Float → Prop)
    (start_true : ∀ {divisor}, FailsTruly f left right precision limits refused divisor start)
    (scheme_true : ∀ {s}, Inv s →
      FailsTruly f left right precision limits refused (divisorAt (view s)) (scheme s))
    (o : Observer τ ρ) {run : Run τ ρ (Error Float)}
    (hrun : scheme.call o limits.maxIters 1 (.maxIters limits.maxIters) start = run) :
    FailsTruly f left right precision limits refused (divisorAt (r.state s₀ run.events.length))
      run.result := by
  subst hrun
  intro cause h
  rcases computes.call_error_cases begins h with hstart | rfl | ⟨t, inv, view_eq, failed⟩
  · exact start_true cause hstart
  · rfl
  · rw [← view_eq]
    exact scheme_true inv cause failed

/-- Bisection divides by nothing that could be small. -/
theorem Bisection.solve_failsTruly (o : Observer τ (Row Float)) :
    FailsTruly f left right precision limits (fun _ => False) (fun _ _ => False)
      (solve f left right precision limits o).result := by
  refine call_failsTruly computes_textbook Bracket.begins (fun _ _ _ => False) bracket_failsTruly
    ?_ o rfl
  intro s _
  exact (finite_failsTruly _ _).bind fun _ _ => .ok _

/-- The chord method divides by the difference of the values at the ends of its bracket, which it
reports with the left end. -/
theorem Chord.solve_failsTruly (o : Observer τ (Row Float)) :
    FailsTruly f left right precision limits (fun _ => False)
      (fun x v =>
        let s := (textbook f).state ⟨⟨left, right⟩, left⟩
          (solve f left right precision limits o).events.length
        x = s.left ∧ v = f.eval s.right - f.eval s.left)
      (solve f left right precision limits o).result := by
  refine call_failsTruly computes_textbook begins_textbook
    (fun s x v => x = s.left ∧ v = f.eval s.right - f.eval s.left) ?_ ?_ o rfl
  · exact bracket_failsTruly.bind fun _ _ => .ok _
  · intro s current
    refine FailsOnly.bind (divisor_failsTruly ⟨rfl, ?_⟩) fun _ _ => ?_
    · rw [current.left, current.right]
      rfl
    · exact (finite_failsTruly _ _).bind fun _ _ => .ok _

/-- Newton's method divides by the derivative at its point. -/
theorem Newton.solve_failsTruly (o : Observer τ (Row Float)) :
    FailsTruly f left right precision limits (fun _ => False)
      (fun x v =>
        x = (textbook f).state (startingPoint f left right)
          (solve f left right precision limits o).events.length ∧ v = f.derivative x)
      (solve f left right precision limits o).result := by
  refine call_failsTruly computes_textbook (fun h => ⟨trivial, begins_textbook h⟩)
    (fun s x v => x = s ∧ v = f.derivative x) ?_ ?_ o rfl
  · exact inputs_failsTruly.bind fun _ _ => (startingSide_failsTruly _).bind fun _ _ => .ok _
  · intro x _
    refine (finite_failsTruly _ _).bind fun _ _ => ?_
    refine (finite_failsTruly _ _).bind fun slope hslope => ?_
    obtain ⟨-, rfl⟩ := Guard.finite_eq_ok.1 hslope
    refine FailsOnly.bind (divisor_failsTruly ⟨rfl, rfl⟩) fun _ _ => ?_
    exact (finite_failsTruly _ _).bind fun _ _ => .ok _

/-- The secant method divides by the difference of the values at its points, which it reports with
the later one of them. -/
theorem Secant.solve_failsTruly {offset : Float} (o : Observer τ (Row Float)) :
    FailsTruly f left right precision limits
      (fun p => p = .firstOffset ∧ isTolerance offset = false)
      (fun x v =>
        let p := (textbook f).state (startingPoints f left right offset)
          (solve f left right precision offset limits o).events.length
        x = p.x ∧ v = f.eval p.x - f.eval p.prev)
      (solve f left right precision offset limits o).result := by
  refine call_failsTruly computes_textbook begins_textbook
    (fun p x v => x = p.x ∧ v = f.eval p.x - f.eval p.prev) ?_ ?_ o rfl
  · intro divisor
    refine inputs_failsTruly.bind fun interval _ => ?_
    dsimp only
    split
    · next unfit => exact .error ⟨rfl, by simpa using unfit⟩
    · exact (startingSide_failsTruly _).bind fun _ _ => (finite_failsTruly _ _).bind fun _ _ =>
        .ok _
  · intro s current
    refine (finite_failsTruly _ _).bind fun fX hfX => ?_
    obtain ⟨-, rfl⟩ := Guard.value_eq_ok.1 hfX
    refine FailsOnly.bind (divisor_failsTruly ⟨rfl, ?_⟩) fun _ _ => ?_
    · rw [current]
      rfl
    · exact (finite_failsTruly _ _).bind fun _ _ => (finite_failsTruly _ _).bind fun _ _ => .ok _

/-! ## Simple iteration -/

namespace SimpleIteration

/-- The largest of the magnitudes of the slopes at the ends of `samples` equal steps. -/
structure IsSteepest (f : ScalarFunction Float) (interval : Interval Float) (samples : Nat)
    (v : Float) : Prop where
  attained : v ∈ slopesFrom f interval (interval.width / ofNat samples) (samples + 1) 0
  largest : ∀ slope ∈ slopesFrom f interval (interval.width / ofNat samples) (samples + 1) 0,
    slope ≤ v

/-- The slope that is found is the steepest one; in particular it is that of a sample. -/
theorem isSteepest_of_steepestSlope {interval : Interval Float} {samples : Nat} {v : Float}
    (h : steepestSlope f interval samples = .ok v) : IsSteepest f interval samples v := by
  obtain ⟨finite, hv⟩ := steepestFrom_eq_ok h
  have slopes_finite : ∀ slope ∈ slopesFrom f interval (interval.width / ofNat samples)
      (samples + 1) 0, slope.isFinite = true :=
    List.forall_mem_map.2 fun j hj => isFinite_abs (finite j hj)
  have slopes_eq : slopesFrom f interval (interval.width / ofNat samples) (samples + 1) 0 =
      abs (f.derivative (interval.sample (interval.width / ofNat samples) 0)) ::
        slopesFrom f interval (interval.width / ofNat samples) samples 1 := rfl
  rw [slopes_eq] at hv slopes_finite
  obtain ⟨first_finite, later_finite⟩ := List.forall_mem_cons.1 slopes_finite
  -- the first magnitude replaces the zero that the search begins with
  have taken : maxWith zero (abs (f.derivative (interval.sample (interval.width / ofNat samples)
      0))) = abs (f.derivative (interval.sample (interval.width / ofNat samples) 0)) := by
    refine if_pos ?_
    rw [le_iff_value rfl first_finite, value_abs]
    exact abs_nonneg _
  rw [List.foldl_cons, taken] at hv
  obtain ⟨-, mem, above⟩ := foldl_maxWith_spec first_finite later_finite
  rw [← hv] at mem above
  exact ⟨slopes_eq ▸ mem, slopes_eq ▸ above⟩

/-- The divisor of simple iteration is the steepest of the slopes at the samples, which it reports
with the left end of the bracket. -/
def IsDivisor (f : ScalarFunction Float) (left right : Float) (samples : Nat) (x v : Float) :
    Prop :=
  x = left ∧ ∃ interval, Interval.ofBounds left right = .ok interval ∧
    IsSteepest f interval samples v

theorem steepestFrom_failsTruly {interval : Interval Float} (step : Float) (count i : Nat)
    (steepest : Float) :
    FailsTruly f left right precision limits refused divisor
      (steepestFrom f interval step count i steepest) := by
  induction count generalizing i steepest with
  | zero => exact .ok steepest
  | succ count ih =>
    unfold steepestFrom
    split
    · next cause h => exact .error (finite_failsTruly _ _ cause h)
    · exact ih _ _

variable {samples : Nat}

theorem start_failsTruly :
    FailsTruly f left right precision limits (fun p => p = .samples ∧ samples = 0)
      (IsDivisor f left right samples) (start f left right precision samples limits) := by
  refine inputs_failsTruly.bind fun interval hinputs => ?_
  have accepted := (Guard.inputs_eq_ok.1 hinputs).1
  dsimp only
  split
  · next none => exact .error ⟨rfl, none⟩
  · refine (steepestFrom_failsTruly _ _ _ _).bind fun slope hslope => ?_
    refine FailsOnly.bind (divisor_failsTruly ⟨?_, interval, accepted, ?_⟩) fun _ _ => .ok _
    · exact (Interval.bounds_of_ofBounds accepted).1
    · exact isSteepest_of_steepestSlope hslope

/-- A point that an iteration escapes to is finite, so it lies on one side of the bracket. -/
theorem outside_of_escaped {interval : Interval Float} {coefficient s x : Float}
    {last : Row Float}
    (h : scheme f interval precision coefficient s = .ok (last, .halt (.escaped x))) :
    x < interval.left ∨ interval.right < x := by
  obtain ⟨fX, next, fNext, -, hnext, -, -, hverdict⟩ := scheme_eq_ok.1 h
  obtain ⟨finite, hvalue⟩ := Guard.finite_eq_ok.1 hnext
  rw [hvalue] at finite
  split at hverdict
  · next outside =>
    obtain rfl : x = next := by injection hverdict with h; injection h
    rw [Bool.not_eq_true', ← Bool.not_eq_true, Interval.contains_iff, not_and_or] at outside
    rcases outside with below | above
    · exact .inl ((not_le_iff interval.finite_left finite).1 below)
    · exact .inr ((not_le_iff finite interval.finite_right).1 above)
  · split at hverdict
    · injection hverdict with h
      cases h
    · cases hverdict

/-- A pass that is the last one fails truly. -/
theorem lastResult_failsTruly {interval : Interval Float} (hleft : interval.left = left)
    (hright : interval.right = right) (coefficient : Float) :
    FailsTruly f left right precision limits refused divisor
      (lastResult interval limits
        ((passCourse f interval precision limits coefficient).ending 1)) := by
  intro cause h
  obtain ⟨t, -, ends⟩ :=
    (scheme f interval precision coefficient).course_spec limits.maxIters interval.left
  rw [passCourse] at h
  generalize (scheme f interval precision coefficient).course limits.maxIters interval.left = c
    at h ends
  obtain ⟨earlier, finish⟩ := c
  cases finish with
  | halted last outcome =>
    cases outcome with
    | converged => cases h
    | escaped x =>
      obtain rfl := Except.error.inj h
      subst hleft hright
      exact ⟨rfl, rfl, outside_of_escaped ends.2⟩
  | exhausted =>
    obtain rfl := Except.error.inj h
    exact rfl
  | failed cause' =>
    obtain rfl := Except.error.inj h
    have iteration_true : FailsTruly f left right precision limits refused divisor
        (scheme f interval precision coefficient t) :=
      (finite_failsTruly _ _).bind fun _ _ => (finite_failsTruly _ _).bind fun _ _ =>
        (finite_failsTruly _ _).bind fun _ _ => .ok _
    exact iteration_true _ ends.2

/-- The outline of a call fails truly, with one pass or with two. -/
theorem outline_failsTruly :
    FailsTruly f left right precision limits (fun p => p = .samples ∧ samples = 0)
      (IsDivisor f left right samples)
      (outline f left right precision samples limits).result := by
  rw [outline]
  cases hstart : start f left right precision samples limits with
  | error cause => exact .error (start_failsTruly cause hstart)
  | ok ready =>
    obtain ⟨interval, coefficient⟩ := ready
    obtain ⟨hleft, hright⟩ := bounds_of_start hstart
    obtain ⟨done, d, outline_eq, -, -⟩ :=
      outlineFrom_cases f interval precision limits coefficient
    dsimp only
    rw [outline_eq]
    exact lastResult_failsTruly hleft hright d

theorem solve_failsTruly (o : Observer τ (Row Float)) :
    FailsTruly f left right precision limits (fun p => p = .samples ∧ samples = 0)
      (IsDivisor f left right samples)
      (solve f left right precision samples limits o).result := by
  have follows := solve_follows f left right precision samples limits o
  intro cause h
  cases follows with
  | whole _ _ _ result => exact outline_failsTruly cause (result.symm.trans h)
  | broken _ _ _ _ _ _ result => cases result.symm.trans h

end SimpleIteration

end RootFinding.Scalar
