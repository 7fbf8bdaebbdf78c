import Mathlib.Data.List.Forall2
import RootFinding.Scalar.Finder
import RootFinding.Systems.FixedPoint

/-!
# One iteration of each method

For each of the six schemes, `scheme_eq_ok` lists what an iteration that records a row has computed:
the guards it has passed, the row, and what follows the row. Proofs about a method start from this
equivalence and do not unfold the scheme.

The second half is about failures. The error that tells of a reached ceiling is left to the runner
of schemes: no guard, no iteration and no check of inputs fails with it. In the same way, no check
of inputs reports that an iterate has left the box.

## Shape of the arguments

* A guard is an equivalence too (`Guard.value_eq_ok` and its kin): it returns its argument, and some
  condition holds of it.
* `FailsOnly` says that a computation fails only with causes of a certain kind, and `Avoids` that it
  does not fail with causes of a kind. Both are closed under sequencing, so they hold of a
  computation if they hold of its parts.
-/

namespace RootFinding

open Number

variable {ε β γ : Type}

/-! ## Computations that may fail -/

theorem bind_eq_ok {x : Except ε β} {k : β → Except ε γ} {c : γ} :
    x >>= k = .ok c ↔ ∃ b, x = .ok b ∧ k b = .ok c := by
  cases x with
  | error cause =>
    refine ⟨fun h => ?_, ?_⟩
    · cases h
    · rintro ⟨b, h, -⟩
      cases h
  | ok b => exact ⟨fun h => ⟨b, rfl, h⟩, fun ⟨_, hb, h⟩ => Except.ok.inj hb ▸ h⟩

theorem bind_of_error {x : Except ε β} {cause : ε} (h : x = .error cause) (k : β → Except ε γ) :
    x >>= k = .error cause := by
  rw [h]
  rfl

/-- A computation of which something is known in the case of success has succeeded. -/
theorem exists_ok_of_map_eq_some {x : Except ε β} {f : β → γ} {c : γ}
    (h : x.toOption.map f = some c) : ∃ b, x = .ok b ∧ f b = c := by
  cases x with
  | error cause => cases h
  | ok b => exact ⟨b, rfl, Option.some.inj h⟩

/-- A computation that is carried out for each entry of a list returns a result for each of them. -/
theorem forall₂_of_mapM_eq_ok {f : β → Except ε γ} {xs : List β} {ys : List γ}
    (h : xs.mapM f = .ok ys) : List.Forall₂ (fun x y => f x = .ok y) xs ys := by
  induction xs generalizing ys with
  | nil =>
    obtain rfl := Except.ok.inj h
    exact .nil
  | cons x xs ih =>
    rw [List.mapM_cons] at h
    obtain ⟨y, hy, h⟩ := bind_eq_ok.1 h
    obtain ⟨ys, hys, h⟩ := bind_eq_ok.1 h
    obtain rfl := Except.ok.inj h
    exact .cons hy (ih hys)

/-- A computation that fails for no entry of a list can be carried out for all of them. -/
theorem mapM_eq_ok_map {f : β → Except ε γ} {g : β → γ} {xs : List β}
    (h : ∀ x ∈ xs, f x = .ok (g x)) : xs.mapM f = .ok (xs.map g) := by
  induction xs with
  | nil => rfl
  | cons x xs ih =>
    obtain ⟨first, later⟩ := List.forall_mem_cons.1 h
    rw [List.mapM_cons, first, ih later]
    rfl

/-- Whatever the computation fails with is of this kind. -/
def FailsOnly (kind : ε → Prop) (x : Except ε β) : Prop := ∀ cause, x = .error cause → kind cause

namespace FailsOnly

variable {kind : ε → Prop}

theorem ok (b : β) : FailsOnly kind (.ok b : Except ε β) := nofun

theorem error {cause : ε} (h : kind cause) : FailsOnly kind (.error cause : Except ε β) := by
  intro cause' h'
  cases h'
  exact h

/-- The second computation may rely on what the first one returns. -/
theorem bind {x : Except ε β} {k : β → Except ε γ} (hx : FailsOnly kind x)
    (hk : ∀ b, x = .ok b → FailsOnly kind (k b)) : FailsOnly kind (x >>= k) := by
  cases x with
  | error cause => exact .error (hx cause rfl)
  | ok b => exact hk b rfl

/-- A computation that is carried out for each entry of a list fails at one of them. -/
theorem mapM (f : β → Except ε γ) (xs : List β) :
    FailsOnly (fun cause => ∃ x ∈ xs, f x = .error cause) (xs.mapM f) := by
  induction xs with
  | nil => exact .ok []
  | cons x xs ih =>
    rw [List.mapM_cons]
    refine FailsOnly.bind ?_ fun _ _ => FailsOnly.bind ?_ fun _ _ => .ok _
    · exact fun cause h => ⟨x, List.mem_cons_self, h⟩
    · intro cause h
      obtain ⟨y, hy, h⟩ := ih cause h
      exact ⟨y, List.mem_cons_of_mem _ hy, h⟩

end FailsOnly

/-- The computation does not fail for a reason of this kind. -/
def Avoids (reason : ε → Prop) (x : Except ε β) : Prop := ∀ cause, x = .error cause → ¬reason cause

variable {reason : ε → Prop}

namespace Avoids

theorem ok (b : β) : Avoids reason (.ok b : Except ε β) := FailsOnly.ok b

theorem error {cause : ε} (h : ¬reason cause) :
    Avoids reason (.error cause : Except ε β) := FailsOnly.error h

theorem mono {reason' : ε → Prop} (le : ∀ {cause}, reason' cause → reason cause)
    {x : Except ε β} (h : Avoids reason x) : Avoids reason' x :=
  fun cause hx hcause => h cause hx (le hcause)

theorem bind {x : Except ε β} {k : β → Except ε γ} (hx : Avoids reason x)
    (hk : ∀ b, Avoids reason (k b)) : Avoids reason (x >>= k) :=
  FailsOnly.bind hx fun b _ => hk b

end Avoids

/-! ## Guards -/

namespace Scalar.Guard

variable {α : Type} [Number α] {f : ScalarFunction α} {limits : Limits α} {x v w : α}

theorem finite_eq_ok : finite x v = .ok w ↔ isFinite v = true ∧ v = w := by
  unfold finite
  split
  · next h => simp [h]
  · next h => simp [h]

/-- A guarded value is the value of the function, and finite. -/
theorem value_eq_ok : value f x = .ok w ↔ isFinite (f.eval x) = true ∧ f.eval x = w := finite_eq_ok

theorem divisor_eq_ok : divisor limits x v = .ok w ↔ ¬abs v < limits.minDenominator ∧ v = w := by
  unfold divisor
  split
  · next h => simp [h]
  · next h => simp [h]

theorem inputs_eq_ok {left right precision : α} {interval : Interval α} :
    inputs left right precision = .ok interval ↔
      Interval.ofBounds left right = .ok interval ∧ isTolerance precision = true := by
  unfold inputs
  cases Interval.ofBounds left right with
  | error cause => simp
  | ok interval' => by_cases h : isTolerance precision = true <;> simp [h]

theorem signChange_eq_ok {interval : Interval α} {u : Unit} :
    signChange interval v w = .ok u ↔ ¬zero < v * w := by
  unfold signChange
  split
  · next h => simp [h]
  · next h => simp [h]

/-- The side to start on is chosen by the value and the second derivative at the left end. -/
theorem startingSide_eq_ok {interval : Interval α} {side : Side} :
    startingSide f interval = .ok side ↔
      isFinite (f.secondDerivative interval.left) = true ∧ isFinite (f.eval interval.left) = true ∧
        side = if zero < f.eval interval.left * f.secondDerivative interval.left then .left
          else .right := by
  simp only [startingSide, bind_eq_ok, finite_eq_ok, value_eq_ok]
  constructor
  · rintro ⟨_, ⟨curved, rfl⟩, _, ⟨finite, rfl⟩, h⟩
    exact ⟨curved, finite, (Except.ok.inj h).symm⟩
  · rintro ⟨curved, finite, rfl⟩
    exact ⟨_, ⟨curved, rfl⟩, _, ⟨finite, rfl⟩, rfl⟩

end Scalar.Guard

/-! ## Iterations -/

namespace Scalar

variable {α : Type} [Number α] {f : ScalarFunction α} {precision : α} {limits : Limits α}

/-- What an accepted bracket is: two values at its ends, whose product is not positive. -/
theorem Bracket.of_eq_ok {left right : α} {b : Bracket α} :
    Bracket.of f left right precision = .ok b ↔
      ∃ interval fLeft fRight, Guard.inputs left right precision = .ok interval ∧
        Guard.value f interval.left = .ok fLeft ∧ Guard.value f interval.right = .ok fRight ∧
        ¬zero < fLeft * fRight ∧ b = ⟨interval.left, interval.right, fLeft, fRight⟩ := by
  simp only [Bracket.of, bind_eq_ok, Guard.signChange_eq_ok]
  constructor
  · rintro ⟨interval, hinputs, fLeft, hleft, fRight, hright, -, hsign, hb⟩
    exact ⟨interval, fLeft, fRight, hinputs, hleft, hright, hsign, (Except.ok.inj hb).symm⟩
  · rintro ⟨interval, fLeft, fRight, hinputs, hleft, hright, hsign, rfl⟩
    exact ⟨interval, hinputs, fLeft, hleft, fRight, hright, (), hsign, rfl⟩

theorem Bisection.scheme_eq_ok {s : Bracket α} {row : Bisection.Row α}
    {verdict : Verdict (Bracket α) Unit} :
    Bisection.scheme f precision s = .ok (row, verdict) ↔
      ∃ fX, Guard.value f (s.left + (s.right - s.left) / two) = .ok fX ∧
        row = ⟨s.left, s.right, s.left + (s.right - s.left) / two, s.fLeft, s.fRight, fX, s.width⟩ ∧
        verdict = if row.isFinal precision then .halt () else .next (s.cut row.x fX) := by
  simp only [Bisection.scheme, bind_eq_ok]
  refine exists_congr fun fX => and_congr_right fun _ => ?_
  constructor
  · intro h
    obtain ⟨rfl, rfl⟩ := Prod.mk.inj (Except.ok.inj h)
    exact ⟨rfl, rfl⟩
  · rintro ⟨rfl, rfl⟩
    rfl

theorem Chord.scheme_eq_ok {s : Chord.State α} {row : Chord.Row α}
    {verdict : Verdict (Chord.State α) Unit} :
    Chord.scheme f precision limits s = .ok (row, verdict) ↔
      ∃ slope fX, Guard.divisor limits s.left (s.fRight - s.fLeft) = .ok slope ∧
        Guard.value f ((s.left * s.fRight - s.right * s.fLeft) / slope) = .ok fX ∧
        row = ⟨s.left, s.right, (s.left * s.fRight - s.right * s.fLeft) / slope, s.fLeft, s.fRight,
          fX, abs (s.lastX - (s.left * s.fRight - s.right * s.fLeft) / slope)⟩ ∧
        verdict = if row.isFinal precision then .halt () else .next ⟨s.cut row.x fX, row.x⟩ := by
  simp only [Chord.scheme, bind_eq_ok]
  constructor
  · rintro ⟨slope, hslope, fX, hfX, h⟩
    obtain ⟨rfl, rfl⟩ := Prod.mk.inj (Except.ok.inj h)
    exact ⟨slope, fX, hslope, hfX, rfl, rfl⟩
  · rintro ⟨slope, fX, hslope, hfX, rfl, rfl⟩
    exact ⟨slope, hslope, fX, hfX, rfl⟩

theorem Newton.scheme_eq_ok {x : α} {row : Newton.Row α} {verdict : Verdict α Unit} :
    Newton.scheme f precision limits x = .ok (row, verdict) ↔
      ∃ fX slope derivative next, Guard.value f x = .ok fX ∧ Guard.derivative f x = .ok slope ∧
        Guard.divisor limits x slope = .ok derivative ∧
        Guard.finite x (x - fX / derivative) = .ok next ∧
        row = ⟨x, fX, derivative, next, abs (next - x)⟩ ∧
        verdict = if row.isFinal precision then .halt () else .next next := by
  simp only [Newton.scheme, bind_eq_ok]
  constructor
  · rintro ⟨fX, hfX, slope, hslope, derivative, hderivative, next, hnext, h⟩
    obtain ⟨rfl, rfl⟩ := Prod.mk.inj (Except.ok.inj h)
    exact ⟨fX, slope, derivative, next, hfX, hslope, hderivative, hnext, rfl, rfl⟩
  · rintro ⟨fX, slope, derivative, next, hfX, hslope, hderivative, hnext, rfl, rfl⟩
    exact ⟨fX, hfX, slope, hslope, derivative, hderivative, next, hnext, rfl⟩

theorem Secant.scheme_eq_ok {s : Secant.Pair α} {row : Secant.Row α}
    {verdict : Verdict (Secant.Pair α) Unit} :
    Secant.scheme f precision limits s = .ok (row, verdict) ↔
      ∃ fX slope next fNext, Guard.value f s.x = .ok fX ∧
        Guard.divisor limits s.x (fX - s.fPrev) = .ok slope ∧
        Guard.finite s.x (s.x - (s.x - s.prev) / slope * fX) = .ok next ∧
        Guard.value f next = .ok fNext ∧
        row = ⟨s.prev, s.x, next, fNext, abs (next - s.x)⟩ ∧
        verdict = if row.isFinal precision then .halt () else .next ⟨s.x, next, fX⟩ := by
  simp only [Secant.scheme, bind_eq_ok]
  constructor
  · rintro ⟨fX, hfX, slope, hslope, next, hnext, fNext, hfNext, h⟩
    obtain ⟨rfl, rfl⟩ := Prod.mk.inj (Except.ok.inj h)
    exact ⟨fX, slope, next, fNext, hfX, hslope, hnext, hfNext, rfl, rfl⟩
  · rintro ⟨fX, slope, next, fNext, hfX, hslope, hnext, hfNext, rfl, rfl⟩
    exact ⟨fX, hfX, slope, hslope, next, hnext, fNext, hfNext, rfl⟩

/-- The passes of simple iteration run in the bracket that was asked for. -/
theorem SimpleIteration.bounds_of_start {left right coefficient : α} {samples : Nat}
    {interval : Interval α}
    (h : SimpleIteration.start f left right precision samples limits =
      .ok (interval, coefficient)) :
    interval.left = left ∧ interval.right = right := by
  obtain ⟨interval', hinputs, h⟩ := bind_eq_ok.1 h
  dsimp only at h
  split at h
  · cases h
  · obtain ⟨slope, -, h⟩ := bind_eq_ok.1 h
    obtain ⟨divisor, -, h⟩ := bind_eq_ok.1 h
    obtain ⟨rfl, -⟩ := Prod.mk.inj (Except.ok.inj h)
    exact Interval.bounds_of_ofBounds (Guard.inputs_eq_ok.1 hinputs).1

/-- The magnitudes of the slopes at `count` samples from index `i` on. -/
def SimpleIteration.slopesFrom (f : ScalarFunction α) (interval : Interval α) (step : α)
    (count i : Nat) : List α :=
  (List.range' i count).map fun j => abs (f.derivative (interval.sample step j))

/-- The walk through the samples takes the largest of the slopes, all of which are finite. -/
theorem SimpleIteration.steepestFrom_eq_ok {interval : Interval α} {step steepest slope : α}
    {count i : Nat}
    (h : SimpleIteration.steepestFrom f interval step count i steepest = .ok slope) :
    (∀ j ∈ List.range' i count, isFinite (f.derivative (interval.sample step j)) = true) ∧
      slope = (SimpleIteration.slopesFrom f interval step count i).foldl maxWith steepest := by
  induction count generalizing i steepest with
  | zero => exact ⟨nofun, (Except.ok.inj h).symm⟩
  | succ count ih =>
    rw [SimpleIteration.steepestFrom] at h
    cases hd : Guard.derivative f (interval.sample step i) with
    | error cause => simp only [hd, reduceCtorEq] at h
    | ok d =>
      obtain ⟨finite, rfl⟩ := Guard.finite_eq_ok.1 hd
      rw [hd] at h
      obtain ⟨later_finite, slope_eq⟩ := ih h
      rw [List.range'_succ]
      exact ⟨List.forall_mem_cons.2 ⟨finite, later_finite⟩, slope_eq⟩

theorem SimpleIteration.scheme_eq_ok {interval : Interval α} {coefficient x : α}
    {row : SimpleIteration.Row α} {verdict : Verdict α (SimpleIteration.Outcome α)} :
    SimpleIteration.scheme f interval precision coefficient x = .ok (row, verdict) ↔
      ∃ fX next fNext, Guard.value f x = .ok fX ∧
        Guard.finite x (x + coefficient * fX) = .ok next ∧ Guard.value f next = .ok fNext ∧
        row = ⟨x, next, fNext, abs (next - x)⟩ ∧
        verdict = if !interval.contains next then .halt (.escaped next)
          else if row.change < precision then .halt .converged else .next next := by
  simp only [SimpleIteration.scheme, bind_eq_ok]
  constructor
  · rintro ⟨fX, hfX, next, hnext, fNext, hfNext, h⟩
    obtain ⟨rfl, rfl⟩ := Prod.mk.inj (Except.ok.inj h)
    exact ⟨fX, next, fNext, hfX, hnext, hfNext, rfl, rfl⟩
  · rintro ⟨fX, next, fNext, hfX, hnext, hfNext, rfl, rfl⟩
    exact ⟨fX, hfX, next, hnext, fNext, hfNext, rfl⟩

end Scalar

namespace Systems.FixedPoint

variable {α : Type} [Number α] {system : EquationSystem α} {intervals : List (Interval α)}
  {precision : α} {row : Row α} {verdict : Verdict (State α) Unit}

/-- The iteration starts from the start point, once everything is checked. -/
theorem start_eq_ok {point : Point α} {limits : Limits α} {s : State α} :
    start system intervals point precision limits = .ok s ↔
      checkInputs system intervals point precision = .ok () ∧
        checkContraction system intervals limits = .ok () ∧ s = .seed point := by
  simp only [start, bind_eq_ok]
  constructor
  · rintro ⟨⟨⟩, hinputs, ⟨⟩, hcontraction, h⟩
    exact ⟨hinputs, hcontraction, (Except.ok.inj h).symm⟩
  · rintro ⟨hinputs, hcontraction, rfl⟩
    exact ⟨(), hinputs, (), hcontraction, rfl⟩

/-- The first iteration records the start point, and checks nothing. -/
theorem scheme_seed_eq_ok {start : Point α} :
    scheme system intervals precision (.seed start) = .ok (row, verdict) ↔
      row = .seed start ∧ verdict = .next (.iterate start) := by
  rw [scheme, Except.ok.injEq, Prod.mk.injEq]
  exact ⟨fun ⟨hrow, hverdict⟩ => ⟨hrow.symm, hverdict.symm⟩,
    fun ⟨hrow, hverdict⟩ => ⟨hrow.symm, hverdict.symm⟩⟩

/-- Any other iteration records the image of its point, which lies in the box. -/
theorem scheme_iterate_eq_ok {point : Point α} :
    scheme system intervals precision (.iterate point) = .ok (row, verdict) ↔
      ∃ next, system.apply point = .ok next ∧ firstOutside? next intervals 0 = none ∧
        row = ⟨next, some (changesBetween point next)⟩ ∧
        verdict = if isSettled precision (changesBetween point next) then .halt ()
          else .next (.iterate next) := by
  rw [scheme]
  cases happly : system.apply point with
  | error cause => simp
  | ok next =>
    cases houtside : firstOutside? next intervals 0 with
    | some outside => simp [houtside]
    | none =>
      simp only [Except.ok.injEq, exists_eq_left', houtside, true_and, Prod.mk.injEq]
      exact ⟨fun ⟨hrow, hverdict⟩ => ⟨hrow.symm, hverdict.symm⟩,
        fun ⟨hrow, hverdict⟩ => ⟨hrow.symm, hverdict.symm⟩⟩

/-- An iteration fails because a function refuses the point, or because the image leaves the box. -/
theorem scheme_iterate_eq_error {point : Point α} {cause : Error α} :
    scheme system intervals precision (.iterate point) = .error cause ↔
      (∃ refusal, system.apply point = .error refusal ∧ cause = .argument refusal) ∨
        ∃ next index value interval, system.apply point = .ok next ∧
          firstOutside? next intervals 0 = some (index, value, interval) ∧
          cause = .leftInterval index value interval := by
  rw [scheme]
  cases happly : system.apply point with
  | error refusal => simp [eq_comm]
  | ok next =>
    cases houtside : firstOutside? next intervals 0 with
    | none => simp [houtside]
    | some outside =>
      obtain ⟨index, value, interval⟩ := outside
      simp only [Except.error.injEq, reduceCtorEq, false_and, exists_false, Except.ok.injEq,
        exists_and_left, exists_eq_left', houtside, Option.some.injEq, Prod.mk.injEq, false_or]
      constructor
      · intro h
        exact ⟨index, value, interval, ⟨rfl, rfl, rfl⟩, h.symm⟩
      · rintro ⟨_, _, _, ⟨rfl, rfl, rfl⟩, h⟩
        exact h.symm

end Systems.FixedPoint

/-! ## Failures -/

namespace Scalar

variable {α : Type}

/-- The error that tells of a reached ceiling. -/
def Error.IsCeiling : Error α → Prop
  | .maxIters _ => True
  | _ => False

variable [Number α] {f : ScalarFunction α} {left right precision : α} {limits : Limits α} {x v : α}

section Guards

variable {interval : Interval α}

theorem avoids_finite : Avoids Error.IsCeiling (Guard.finite x v) := by
  unfold Guard.finite
  split
  · exact .ok v
  · exact .error id

theorem avoids_value : Avoids Error.IsCeiling (Guard.value f x) := avoids_finite

theorem avoids_derivative : Avoids Error.IsCeiling (Guard.derivative f x) := avoids_finite

theorem avoids_divisor : Avoids Error.IsCeiling (Guard.divisor limits x v) := by
  unfold Guard.divisor
  split
  · exact .error id
  · exact .ok v

theorem avoids_inputs : Avoids Error.IsCeiling (Guard.inputs left right precision) := by
  unfold Guard.inputs
  split
  · exact .error id
  · split
    · exact .ok _
    · exact .error id

theorem avoids_signChange {leftValue rightValue : α} :
    Avoids Error.IsCeiling (Guard.signChange interval leftValue rightValue) := by
  unfold Guard.signChange
  split
  · exact .error id
  · exact .ok ()

theorem avoids_startingSide : Avoids Error.IsCeiling (Guard.startingSide f interval) :=
  avoids_finite.bind fun _ => avoids_value.bind fun _ => .ok _

theorem avoids_bracket : Avoids Error.IsCeiling (Bracket.of f left right precision) :=
  avoids_inputs.bind fun _ => avoids_value.bind fun _ => avoids_value.bind fun _ =>
    avoids_signChange.bind fun _ => .ok _

/-- The walk through the samples fails only where a derivative does. -/
theorem avoids_steepestFrom (step : α) (count i : Nat) (steepest : α) :
    Avoids Error.IsCeiling (SimpleIteration.steepestFrom f interval step count i steepest) := by
  induction count generalizing i steepest with
  | zero => exact .ok steepest
  | succ count ih =>
    unfold SimpleIteration.steepestFrom
    split
    · next cause h => exact .error (avoids_derivative cause h)
    · exact ih _ _

end Guards

theorem Bisection.avoids_scheme (s : Bracket α) :
    Avoids Error.IsCeiling (Bisection.scheme f precision s) :=
  avoids_value.bind fun _ => .ok _

theorem Chord.avoids_scheme (s : Chord.State α) :
    Avoids Error.IsCeiling (Chord.scheme f precision limits s) :=
  avoids_divisor.bind fun _ => avoids_value.bind fun _ => .ok _

theorem Chord.avoids_start : Avoids Error.IsCeiling (Chord.start f left right precision) :=
  avoids_bracket.bind fun _ => .ok _

theorem Newton.avoids_scheme (x : α) :
    Avoids Error.IsCeiling (Newton.scheme f precision limits x) :=
  avoids_value.bind fun _ => avoids_derivative.bind fun _ => avoids_divisor.bind fun _ =>
    avoids_finite.bind fun _ => .ok _

theorem Newton.avoids_start : Avoids Error.IsCeiling (Newton.start f left right precision) :=
  avoids_inputs.bind fun _ => avoids_startingSide.bind fun _ => .ok _

theorem Secant.avoids_scheme (s : Secant.Pair α) :
    Avoids Error.IsCeiling (Secant.scheme f precision limits s) :=
  avoids_value.bind fun _ => avoids_divisor.bind fun _ => avoids_finite.bind fun _ =>
    avoids_value.bind fun _ => .ok _

theorem Secant.avoids_start {offset : α} :
    Avoids Error.IsCeiling (Secant.start f left right precision offset) := by
  refine avoids_inputs.bind fun interval => ?_
  dsimp only
  split
  · exact .error id
  · exact avoids_startingSide.bind fun _ => avoids_value.bind fun _ => .ok _

theorem SimpleIteration.avoids_scheme {interval : Interval α} {coefficient : α} (x : α) :
    Avoids Error.IsCeiling (SimpleIteration.scheme f interval precision coefficient x) :=
  avoids_value.bind fun _ => avoids_finite.bind fun _ => avoids_value.bind fun _ => .ok _

theorem SimpleIteration.avoids_start {samples : Nat} :
    Avoids Error.IsCeiling (SimpleIteration.start f left right precision samples limits) := by
  refine avoids_inputs.bind fun interval => ?_
  dsimp only
  split
  · exact .error id
  · exact (avoids_steepestFrom _ _ _ _).bind fun _ => avoids_divisor.bind fun _ => .ok _

end Scalar

namespace Systems

variable {α : Type} [Number α]

/-- The error that tells of a reached ceiling. -/
def Error.IsCeiling : Error α → Prop
  | .maxIters _ => True
  | _ => False

/-- The errors that tell of something that happens after the start point is accepted. -/
def Error.IsLate : Error α → Prop
  | .maxIters _ => True
  | .leftInterval _ _ _ => True
  | _ => False

theorem Error.IsCeiling.isLate {cause : Error α} (h : cause.IsCeiling) : cause.IsLate := by
  cases cause with
  | maxIters => trivial
  | _ => exact h.elim

variable {system : EquationSystem α} {intervals : List (Interval α)} {point : Point α}
  {precision : α} {limits : Limits α}

/-- What is found at a point is a refusal of the point, or a sum that is not at most one. -/
theorem violation?_cases {functions : List (VectorFunction α)} {index : Nat} {cause : Error α}
    (h : violation? point functions index = some cause) :
    (∃ f ∈ functions, ∃ refusal, f.partialDerivativeNorm point = .error refusal ∧
        cause = .argument refusal) ∨
      ∃ i f sum, functions[i]? = some f ∧ f.partialDerivativeNorm point = .ok sum ∧ ¬sum ≤ one ∧
        cause = .notContraction (index + i) sum point := by
  induction functions generalizing index with
  | nil => cases h
  | cons f functions ih =>
    rw [violation?] at h
    cases hnorm : f.partialDerivativeNorm point with
    | error refusal =>
      simp only [hnorm, Option.some.injEq] at h
      exact .inl ⟨f, List.mem_cons_self, refusal, hnorm, h.symm⟩
    | ok sum =>
      simp only [hnorm] at h
      split at h
      · rcases ih h with ⟨g, hg, refused⟩ | ⟨i, g, sum', hg, hsum, exceeds, rfl⟩
        · exact .inl ⟨g, List.mem_cons_of_mem _ hg, refused⟩
        · refine .inr ⟨i + 1, g, sum', hg, hsum, exceeds, ?_⟩
          rw [Nat.add_right_comm, Nat.add_assoc]
      · next exceeds => exact .inr ⟨0, f, sum, rfl, hnorm, exceeds, (Option.some.inj h).symm⟩

theorem not_isLate_of_violation? {functions : List (VectorFunction α)} {index : Nat}
    {cause : Error α} (h : violation? point functions index = some cause) : ¬cause.IsLate := by
  rcases violation?_cases h with ⟨_, -, _, -, rfl⟩ | ⟨_, _, _, -, -, -, rfl⟩
  · exact id
  · exact id

/-- The sides of a box are refused only where one of them cannot be sampled. -/
theorem axes_failsOnly (gridStep : α) :
    FailsOnly (fun cause => ∃ interval ∈ intervals, ∃ reason,
        interval.grid gridStep = .error reason ∧ cause = .grid reason)
      (axes intervals gridStep : Except (Error α) _) := by
  intro cause h
  obtain ⟨interval, mem, h⟩ := FailsOnly.mapM _ _ cause h
  cases hgrid : interval.grid gridStep with
  | error reason =>
    rw [hgrid] at h
    exact ⟨interval, mem, reason, hgrid, (Except.error.inj h).symm⟩
  | ok grid =>
    rw [hgrid] at h
    cases h

/-- The grids are refused because of the number of sides, a side, or the number of points. -/
theorem checkedAxes_eq_error {gridStep : α} {cause : Error α}
    (h : checkedAxes system intervals gridStep = .error cause) :
    (intervals.length ≠ system.dimension ∧
        cause = .dimensionMismatch system.dimension intervals.length system.dimension) ∨
      (∃ interval ∈ intervals, ∃ reason, interval.grid gridStep = .error reason ∧
        cause = .grid reason) ∨
      ∃ grids, axes intervals gridStep = .ok grids ∧ maxGridPoints < pointCount grids ∧
        cause = .gridTooLarge (reportedCount grids) maxGridPoints := by
  unfold checkedAxes at h
  split at h
  · next sizes => exact .inl ⟨sizes, (Except.error.inj h).symm⟩
  · split at h
    · next reason haxes =>
      obtain rfl := Except.error.inj h
      exact .inr (.inl (axes_failsOnly _ _ haxes))
    · next grids haxes =>
      split at h
      · next hcount =>
        have large := countWithin?_eq_none.1 hcount
        exact .inr (.inr ⟨grids, haxes, large, (Except.error.inj h).symm⟩)
      · cases h

/-- Grids that are not refused are those of the sides, and there is one for each unknown. -/
theorem checkedAxes_eq_ok {gridStep : α} {grids : List (Grid α)}
    (h : checkedAxes system intervals gridStep = .ok grids) :
    intervals.length = system.dimension ∧ axes intervals gridStep = .ok grids := by
  unfold checkedAxes at h
  split at h
  · cases h
  · next sizes =>
    split at h
    · cases h
    · next haxes =>
      split at h
      · cases h
      · obtain rfl := Except.ok.inj h
        exact ⟨not_not.1 sizes, haxes⟩

/-- The contraction check fails because of the number of sides, a side, the number of points, or
what it finds at a point. -/
theorem checkContraction_eq_error {cause : Error α}
    (h : checkContraction system intervals limits = .error cause) :
    (intervals.length ≠ system.dimension ∧
        cause = .dimensionMismatch system.dimension intervals.length system.dimension) ∨
      (∃ interval ∈ intervals, ∃ reason, interval.grid limits.gridStep = .error reason ∧
        cause = .grid reason) ∨
      (∃ grids, axes intervals limits.gridStep = .ok grids ∧
        maxGridPoints < pointCount grids ∧
        cause = .gridTooLarge (reportedCount grids) maxGridPoints) ∨
      ∃ grids, axes intervals limits.gridStep = .ok grids ∧
        intervals.length = system.dimension ∧
        ∃ p ∈ gridPoints grids, violation? p system.functions 0 = some cause := by
  rw [checkContraction_eq] at h
  split at h
  · next refused =>
    obtain rfl := Except.error.inj h
    rcases checkedAxes_eq_error refused with sizes | side | large
    · exact .inl sizes
    · exact .inr (.inl side)
    · exact .inr (.inr (.inl large))
  · next grids accepted =>
    obtain ⟨sizes, haxes⟩ := checkedAxes_eq_ok accepted
    split at h
    · next found hfind =>
      obtain rfl := Except.error.inj h
      obtain ⟨p, mem, found⟩ := List.exists_of_findSome?_eq_some hfind
      exact .inr (.inr (.inr ⟨grids, haxes, sizes, p, mem, found⟩))
    · cases h

theorem avoids_checkContraction :
    Avoids Error.IsLate (checkContraction system intervals limits) := by
  intro cause h
  rcases checkContraction_eq_error h with
    ⟨-, rfl⟩ | ⟨_, -, _, -, rfl⟩ | ⟨_, -, -, rfl⟩ | ⟨_, -, -, _, -, found⟩
  · exact id
  · exact id
  · exact id
  · exact not_isLate_of_violation? found

namespace FixedPoint

/-- The checks of the inputs fail because of the sizes, the precision or the start point. -/
theorem checkInputs_eq_error {cause : Error α}
    (h : checkInputs system intervals point precision = .error cause) :
    ((intervals.length ≠ system.dimension ∨ point.length ≠ system.dimension) ∧
        cause = .dimensionMismatch system.dimension intervals.length point.length) ∨
      (isTolerance precision = false ∧ cause = .invalidPrecision precision) ∨
      ∃ i value interval, firstOutside? point intervals 0 = some (i, value, interval) ∧
        cause = .startOutsideInterval i value interval := by
  unfold checkInputs at h
  split at h
  · next sizes => exact .inl ⟨sizes, (Except.error.inj h).symm⟩
  · split at h
    · next unfit => exact .inr (.inl ⟨by simpa using unfit, (Except.error.inj h).symm⟩)
    · split at h
      · next i value interval outside =>
        exact .inr (.inr ⟨i, value, interval, outside, (Except.error.inj h).symm⟩)
      · cases h

theorem avoids_checkInputs :
    Avoids Error.IsLate (checkInputs system intervals point precision) := by
  intro cause h
  rcases checkInputs_eq_error h with ⟨-, rfl⟩ | ⟨-, rfl⟩ | ⟨_, _, _, -, rfl⟩
  · exact id
  · exact id
  · exact id

theorem avoids_start :
    Avoids Error.IsLate (start system intervals point precision limits) :=
  avoids_checkInputs.bind fun _ => avoids_checkContraction.bind fun _ => .ok _

theorem avoids_scheme (s : State α) :
    Avoids Error.IsCeiling (scheme system intervals precision s) := by
  cases s with
  | seed start => exact .ok _
  | iterate point =>
    intro cause h
    rcases scheme_iterate_eq_error.1 h with ⟨_, -, rfl⟩ | ⟨_, _, _, _, -, -, rfl⟩
    · exact id
    · exact id

end FixedPoint

end Systems

end RootFinding
