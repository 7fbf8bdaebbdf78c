import RootFinding.Proofs.Scalar.Failures

/-!
# Inputs that the scalar methods refuse

A scalar method looks at its bracket first, then at the precision, then at the parameter it may
have. `IsFault` is this order, without any function in it: the failure that the inputs alone lead
to. A call with such inputs ends with it before the function is evaluated, whatever the function,
the limits and the observer are (`ValidatesFirst`).

## Shape of the arguments

* Each method starts with `Guard.inputs`, which finds the faults of the bracket and of the precision
  (`IsFault.inputs`). A start that is refused is the whole call.
* In the other direction, a failure of these kinds is true of the inputs, as all failures are. That
  no fault comes before it is again the first direction: it would have ended the call.
-/

namespace RootFinding.Scalar

open Number

variable {α : Type} [Number α] {left right precision : α} {unfit : Parameter → Prop}
  {cause : Error α}

/-- The fault of a bracket, a precision and the parameters that are `unfit`. A fault of the bracket
comes before one of the precision, and both come before one of a parameter. -/
inductive IsFault (left right precision : α) (unfit : Parameter → Prop) : Error α → Prop
  | bracket {reason : IntervalError α} (refused : Interval.ofBounds left right = .error reason) :
      IsFault left right precision unfit (.invalidInterval reason)
  | precision {interval : Interval α} (accepted : Interval.ofBounds left right = .ok interval)
      (refused : isTolerance precision = false) :
      IsFault left right precision unfit (.invalidPrecision precision)
  | parameter {interval : Interval α} (accepted : Interval.ofBounds left right = .ok interval)
      (tolerance : isTolerance precision = true) {p : Parameter} (refused : unfit p) :
      IsFault left right precision unfit (.invalidParameter p)

/-- The bracket, the precision or a parameter is unfit. -/
def AreUnfit (left right precision : α) (unfit : Parameter → Prop) : Prop :=
  (∃ reason, Interval.ofBounds left right = .error reason) ∨ isTolerance precision = false ∨
    ∃ p, unfit p

/-- There is a fault if anything is unfit. -/
theorem exists_isFault_iff :
    (∃ cause, IsFault left right precision unfit cause) ↔
      AreUnfit left right precision unfit := by
  constructor
  · rintro ⟨cause, refused | ⟨-, refused⟩ | ⟨-, -, refused⟩⟩
    · exact .inl ⟨_, refused⟩
    · exact .inr (.inl refused)
    · exact .inr (.inr ⟨_, refused⟩)
  · intro h
    cases bracket : Interval.ofBounds left right with
    | error reason => exact ⟨_, .bracket bracket⟩
    | ok interval =>
      cases tolerance : isTolerance precision with
      | false => exact ⟨_, .precision bracket tolerance⟩
      | true =>
        rcases h with ⟨reason, refused⟩ | refused | ⟨p, refused⟩
        · cases bracket.symm.trans refused
        · cases tolerance.symm.trans refused
        · exact ⟨_, .parameter bracket tolerance refused⟩

/-- The check of the inputs finds a fault of the bracket or the precision, and is passed if there is
only one of a parameter. -/
theorem IsFault.inputs (h : IsFault left right precision unfit cause) :
    Guard.inputs left right precision = .error cause ∨
      ∃ interval p, Guard.inputs left right precision = .ok interval ∧ unfit p ∧
        cause = .invalidParameter p := by
  cases h with
  | bracket refused =>
    rw [Guard.inputs, refused]
    exact .inl rfl
  | precision accepted refused =>
    rw [Guard.inputs, accepted, refused]
    exact .inl rfl
  | parameter accepted tolerance refused =>
    exact .inr ⟨_, _, Guard.inputs_eq_ok.2 ⟨accepted, tolerance⟩, refused, rfl⟩

/-- What a method without parameters starts with fails at once. -/
theorem IsFault.inputs_bind {β : Type}
    (h : IsFault left right precision (fun _ => False) cause)
    (k : Interval α → Except (Error α) β) :
    Guard.inputs left right precision >>= k = .error cause := by
  rcases h.inputs with refused | ⟨interval, p, -, ⟨⟩, -⟩
  exact bind_of_error refused k

/-- The failures that inputs can lead to. -/
def Error.IsOfInputs : Error α → Prop
  | .invalidInterval _ | .invalidPrecision _ | .invalidParameter _ => True
  | _ => False

/-- A method looks at its inputs before it looks at the function. -/
structure ValidatesFirst {τ ρ : Type} (left right precision : α) (unfit : Parameter → Prop)
    (call : ScalarFunction α → Limits α → Observer τ ρ → Run τ ρ (Error α)) : Prop where
  /-- If anything is unfit, there is a fault. -/
  fault : AreUnfit left right precision unfit → ∃ cause, IsFault left right precision unfit cause
  /-- A call with a fault ends with it, before anything is logged or offered to the observer. -/
  refused : ∀ {cause}, IsFault left right precision unfit cause → ∀ f limits o,
    call f limits o = .refused o cause
  /-- If anything is unfit, any two functions lead to the same call. -/
  same : AreUnfit left right precision unfit → ∀ f g limits limits' o,
    call f limits o = call g limits' o
  /-- No other call ends with a failure of these kinds. -/
  only : ∀ {cause} f limits o, cause.IsOfInputs → (call f limits o).result = .error cause →
    IsFault left right precision unfit cause

section Refused

variable {τ : Type} {f : ScalarFunction α} {limits : Limits α}

theorem Bisection.solve_eq_refused (h : IsFault left right precision (fun _ => False) cause)
    (o : Observer τ (Row α)) :
    solve f left right precision limits o = .refused o cause := by
  have start : Bracket.of f left right precision = .error cause := h.inputs_bind _
  rw [solve, start, Scheme.call]

theorem Chord.solve_eq_refused (h : IsFault left right precision (fun _ => False) cause)
    (o : Observer τ (Row α)) :
    solve f left right precision limits o = .refused o cause := by
  have hstart : start f left right precision = .error cause :=
    bind_of_error (h.inputs_bind _) _
  rw [solve, hstart, Scheme.call]

theorem Newton.solve_eq_refused (h : IsFault left right precision (fun _ => False) cause)
    (o : Observer τ (Row α)) :
    solve f left right precision limits o = .refused o cause := by
  have hstart : start f left right precision = .error cause := h.inputs_bind _
  rw [solve, hstart, Scheme.call]

theorem Secant.solve_eq_refused {offset : α}
    (h : IsFault left right precision (fun p => p = .firstOffset ∧ isTolerance offset = false)
      cause) (o : Observer τ (Row α)) :
    solve f left right precision offset limits o = .refused o cause := by
  have hstart : start f left right precision offset = .error cause := by
    rcases h.inputs with refused | ⟨interval, p, accepted, ⟨rfl, unfit⟩, rfl⟩
    · exact bind_of_error refused _
    · rw [start, accepted, unfit]
      rfl
  rw [solve, hstart, Scheme.call]

theorem SimpleIteration.solve_eq_refused [NumberText α] {samples : Nat}
    (h : IsFault left right precision (fun p => p = .samples ∧ samples = 0) cause)
    (o : Observer τ (Row α)) :
    solve f left right precision samples limits o = .refused o cause := by
  have hstart : start f left right precision samples limits = .error cause := by
    rcases h.inputs with refused | ⟨interval, p, accepted, ⟨rfl, rfl⟩, rfl⟩
    · exact bind_of_error refused _
    · rw [start, accepted]
      rfl
  rw [solve, hstart]

end Refused

section Double

variable {left right precision : Float} {unfit : Parameter → Prop}

/-- A method that ends with each fault validates first, since its failures are true. -/
theorem ValidatesFirst.of_refused {τ ρ : Type}
    {call : ScalarFunction Float → Limits Float → Observer τ ρ → Run τ ρ (Error Float)}
    (refused : ∀ {cause}, IsFault left right precision unfit cause → ∀ f limits o,
      call f limits o = .refused o cause)
    (truly : ∀ f limits o, ∃ divisor,
      FailsTruly f left right precision limits unfit divisor (call f limits o).result) :
    ValidatesFirst left right precision unfit call := by
  refine ⟨exists_isFault_iff.2, refused, ?_, ?_⟩
  · intro bad f g limits limits' o
    obtain ⟨cause, fault⟩ := exists_isFault_iff.2 bad
    rw [refused fault, refused fault]
  · intro cause f limits o inputs h
    by_cases fault : ∃ first, IsFault left right precision unfit first
    · -- the fault that comes first has ended the call
      obtain ⟨first, fault⟩ := fault
      rw [refused fault] at h
      cases h
      exact fault
    · rw [exists_isFault_iff] at fault
      obtain ⟨divisor, truly⟩ := truly f limits o
      have true_of_call := truly cause h
      cases cause with
      | invalidInterval reason => exact absurd (.inl ⟨reason, true_of_call⟩) fault
      | invalidPrecision p =>
        obtain ⟨rfl, not_tolerance⟩ := true_of_call
        exact absurd (.inr (.inl not_tolerance)) fault
      | invalidParameter p => exact absurd (.inr (.inr ⟨p, true_of_call⟩)) fault
      | _ => cases inputs

variable {τ : Type}

theorem Bisection.solve_validatesFirst :
    ValidatesFirst left right precision (fun _ => False)
      fun f limits (o : Observer τ (Row Float)) => solve f left right precision limits o :=
  .of_refused (fun fault _ _ => solve_eq_refused fault) fun _ _ o => ⟨_, solve_failsTruly o⟩

theorem Chord.solve_validatesFirst :
    ValidatesFirst left right precision (fun _ => False)
      fun f limits (o : Observer τ (Row Float)) => solve f left right precision limits o :=
  .of_refused (fun fault _ _ => solve_eq_refused fault) fun _ _ o => ⟨_, solve_failsTruly o⟩

theorem Newton.solve_validatesFirst :
    ValidatesFirst left right precision (fun _ => False)
      fun f limits (o : Observer τ (Row Float)) => solve f left right precision limits o :=
  .of_refused (fun fault _ _ => solve_eq_refused fault) fun _ _ o => ⟨_, solve_failsTruly o⟩

theorem Secant.solve_validatesFirst {offset : Float} :
    ValidatesFirst left right precision (fun p => p = .firstOffset ∧ isTolerance offset = false)
      fun f limits (o : Observer τ (Row Float)) => solve f left right precision offset limits o :=
  .of_refused (fun fault _ _ => solve_eq_refused fault) fun _ _ o => ⟨_, solve_failsTruly o⟩

theorem SimpleIteration.solve_validatesFirst {samples : Nat} :
    ValidatesFirst left right precision (fun p => p = .samples ∧ samples = 0)
      fun f limits (o : Observer τ (Row Float)) => solve f left right precision samples limits o :=
  .of_refused (fun fault _ _ => solve_eq_refused fault) fun _ _ o => ⟨_, solve_failsTruly o⟩

end Double

end RootFinding.Scalar
