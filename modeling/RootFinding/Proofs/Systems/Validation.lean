import RootFinding.Proofs.Systems.Failures

/-!
# Inputs that the system solver refuses

The system solver looks at the sizes of its inputs first, then at the precision, then at the start
point, and only after that at the contraction condition. `IsFault` is the order of the first three,
in which of the system only its dimension occurs. A call with a fault ends with it before a function
is evaluated, whatever the functions, the limits and the observer are (`ValidatesFirst`).

## Shape of the arguments

* `checkInputs_eq_error_iff` says that the check of the inputs finds the faults and nothing else.
* A failure of these kinds is true of the inputs, as all failures are. So there is a fault, and the
  call has ended with it.
-/

namespace RootFinding.Systems

open Number

/-- The failures that the inputs can lead to before the contraction condition is looked at. -/
def Error.IsOfInputs {α : Type} [Number α] : Error α → Prop
  | .dimensionMismatch .. | .invalidPrecision _ | .startOutsideInterval .. => True
  | _ => False

namespace FixedPoint

section Faults

variable {α : Type} [Number α] {dimension : Nat} {intervals : List (Interval α)} {point : Point α}
  {precision : α} {cause : Error α} {system : EquationSystem α} {limits : Limits α}

/-- The fault of a box, a start point and a precision, for systems of a dimension. Wrong sizes come
before an unfit precision, and both come before the first coordinate outside. -/
inductive IsFault (dimension : Nat) (intervals : List (Interval α)) (point : Point α)
    (precision : α) : Error α → Prop
  | sizes (unequal : intervals.length ≠ dimension ∨ point.length ≠ dimension) :
      IsFault dimension intervals point precision
        (.dimensionMismatch dimension intervals.length point.length)
  | precision (sides : intervals.length = dimension) (coordinates : point.length = dimension)
      (refused : isTolerance precision = false) :
      IsFault dimension intervals point precision (.invalidPrecision precision)
  | start (sides : intervals.length = dimension) (coordinates : point.length = dimension)
      (tolerance : isTolerance precision = true) {i : Nat} {value : α} {interval : Interval α}
      (first : IsFirstOutside point intervals i value interval) :
      IsFault dimension intervals point precision (.startOutsideInterval i value interval)

/-- A size or the precision is unfit, or a start value lies outside its interval. -/
def AreUnfit (dimension : Nat) (intervals : List (Interval α)) (point : Point α)
    (precision : α) : Prop :=
  (intervals.length ≠ dimension ∨ point.length ≠ dimension) ∨ isTolerance precision = false ∨
    ∃ (i : Nat) (value : α) (interval : Interval α), point[i]? = some value ∧
      intervals[i]? = some interval ∧ interval.contains value = false

/-- The check of the inputs finds the faults, and nothing else. -/
theorem checkInputs_eq_error_iff :
    checkInputs system intervals point precision = .error cause ↔
      IsFault system.dimension intervals point precision cause := by
  rw [checkInputs]
  constructor
  · intro h
    split at h
    · next unequal =>
      cases h
      exact .sizes unequal
    · next equal =>
      obtain ⟨sides, coordinates⟩ :
        intervals.length = system.dimension ∧ point.length = system.dimension := by omega
      split at h
      · next unfit =>
        cases h
        exact .precision sides coordinates (by simpa using unfit)
      · next tolerance =>
        split at h
        · next i value interval outside =>
          cases h
          obtain ⟨j, rfl, first⟩ := firstOutside?_eq_some_iff.1 outside
          rw [Nat.zero_add]
          exact .start sides coordinates (by simpa using tolerance) first
        · cases h
  · intro h
    cases h with
    | sizes unequal => rw [if_pos unequal]
    | precision sides coordinates refused =>
      rw [if_neg (by omega), refused]
      rfl
    | start sides coordinates tolerance first =>
      have outside := firstOutside?_eq_some_iff.2 ⟨_, (Nat.zero_add _).symm, first⟩
      rw [if_neg (by omega), tolerance, outside]
      rfl

/-- If some coordinate lies outside its interval, there is a first one. -/
theorem exists_isFirstOutside (length : point.length = intervals.length) {i : Nat} {value : α}
    {interval : Interval α} (hvalue : point[i]? = some value)
    (hinterval : intervals[i]? = some interval) (outside : interval.contains value = false) :
    ∃ j v s, IsFirstOutside point intervals j v s := by
  cases search : firstOutside? point intervals 0 with
  | some found =>
    obtain ⟨j, -, first⟩ := firstOutside?_eq_some_iff.1 search
    exact ⟨j, _, _, first⟩
  | none =>
    have contained := contained_of_firstOutside?_eq_none length search
    obtain ⟨hi, rfl⟩ := List.getElem?_eq_some_iff.1 hvalue
    obtain ⟨hi', rfl⟩ := List.getElem?_eq_some_iff.1 hinterval
    have inside := (List.forall₂_iff_get.1 contained).2 i hi hi'
    cases inside.symm.trans outside

/-- There is a fault if anything is unfit. -/
theorem exists_isFault_iff :
    (∃ cause, IsFault dimension intervals point precision cause) ↔
      AreUnfit dimension intervals point precision := by
  constructor
  · rintro ⟨cause, unequal | ⟨-, -, refused⟩ | ⟨-, -, -, first⟩⟩
    · exact .inl unequal
    · exact .inr (.inl refused)
    · exact .inr (.inr ⟨_, _, _, first.value_eq, first.interval_eq, first.outside⟩)
  · intro h
    by_cases unequal : intervals.length ≠ dimension ∨ point.length ≠ dimension
    · exact ⟨_, .sizes unequal⟩
    · have bad := h.resolve_left unequal
      obtain ⟨sides, coordinates⟩ : intervals.length = dimension ∧ point.length = dimension := by
        omega
      cases tolerance : isTolerance precision with
      | false => exact ⟨_, .precision sides coordinates tolerance⟩
      | true =>
        obtain ⟨i, value, interval, hvalue, hinterval, outside⟩ :=
          bad.resolve_left (Bool.not_eq_false _ ▸ tolerance)
        obtain ⟨j, v, s, first⟩ :=
          exists_isFirstOutside (coordinates.trans sides.symm) hvalue hinterval outside
        exact ⟨_, .start sides coordinates tolerance first⟩

/-- The system solver looks at its inputs before it looks at the functions. -/
structure ValidatesFirst {τ : Type} (dimension : Nat) (intervals : List (Interval α))
    (point : Point α) (precision : α) (o : Observer τ (Row α)) : Prop where
  /-- If anything is unfit, there is a fault. -/
  fault : AreUnfit dimension intervals point precision →
    ∃ cause, IsFault dimension intervals point precision cause
  /-- A call with a fault ends with it, before anything is logged or offered to the observer. -/
  refused : ∀ {cause}, IsFault dimension intervals point precision cause →
    ∀ system limits, system.dimension = dimension →
      solve system intervals point precision limits o = .refused o cause
  /-- If anything is unfit, any two systems of the dimension lead to the same call. -/
  same : AreUnfit dimension intervals point precision →
    ∀ system system' limits limits', system.dimension = dimension → system'.dimension = dimension →
      solve system intervals point precision limits o =
        solve system' intervals point precision limits' o
  /-- The contraction condition is looked at if there is no fault, and still before anything is
  logged or offered to the observer. -/
  uncontracted : (∀ cause, ¬IsFault dimension intervals point precision cause) →
    ∀ system limits, system.dimension = dimension →
      ∀ {cause}, checkContraction system intervals limits = .error cause →
        solve system intervals point precision limits o = .refused o cause
  /-- Other calls do not end with a failure that inputs can lead to. -/
  only : ∀ {cause} system limits, system.dimension = dimension → cause.IsOfInputs →
    (solve system intervals point precision limits o).result = .error cause →
      IsFault dimension intervals point precision cause
  /-- A call tells of wrong sizes exactly where they are wrong. -/
  mismatch : ∀ system limits, system.dimension = dimension →
    ((∃ n sides coordinates, (solve system intervals point precision limits o).result =
        .error (.dimensionMismatch n sides coordinates)) ↔
      intervals.length ≠ dimension ∨ point.length ≠ dimension)

variable {τ : Type} {o : Observer τ (Row α)}

theorem solve_eq_refused (h : IsFault system.dimension intervals point precision cause) :
    solve system intervals point precision limits o = .refused o cause := by
  have hstart : start system intervals point precision limits = .error cause := by
    rw [start, checkInputs_eq_error_iff.2 h]
    rfl
  rw [solve, hstart, Scheme.call]

theorem solve_eq_refused_of_checkContraction
    (none : ∀ cause, ¬IsFault system.dimension intervals point precision cause)
    (h : checkContraction system intervals limits = .error cause) :
    solve system intervals point precision limits o = .refused o cause := by
  have hstart : start system intervals point precision limits = .error cause := by
    cases hinputs : checkInputs system intervals point precision with
    | error first => exact absurd (checkInputs_eq_error_iff.1 hinputs) (none first)
    | ok u =>
      rw [start, hinputs, h]
      rfl
  rw [solve, hstart, Scheme.call]

end Faults

/-- Over the doubles, a failure of these kinds is a fault of the inputs. -/
theorem isFault_of_result {τ : Type} {system : EquationSystem Float}
    {intervals : List (Interval Float)} {point : Point Float} {precision : Float}
    {limits : Limits Float} {o : Observer τ (Row Float)} {cause : Error Float}
    (inputs : cause.IsOfInputs)
    (h : (solve system intervals point precision limits o).result = .error cause) :
    IsFault system.dimension intervals point precision cause := by
  by_cases fault : ∃ first, IsFault system.dimension intervals point precision first
  · -- the fault that comes first has ended the call
    obtain ⟨first, fault⟩ := fault
    rw [solve_eq_refused fault] at h
    cases h
    exact fault
  · rw [exists_isFault_iff] at fault
    have true_of_call := solve_failsTruly o cause h
    cases cause with
    | dimensionMismatch n sides coordinates =>
      obtain ⟨rfl, rfl, rfl, unequal⟩ := true_of_call
      exact absurd (.inl unequal) fault
    | invalidPrecision p =>
      obtain ⟨rfl, not_tolerance⟩ := true_of_call
      exact absurd (.inr (.inl not_tolerance)) fault
    | startOutsideInterval i value interval =>
      have outside : IsFirstOutside point intervals i value interval := true_of_call
      exact absurd
        (.inr (.inr ⟨i, value, interval, outside.value_eq, outside.interval_eq, outside.outside⟩))
        fault
    | _ => cases inputs

theorem solve_validatesFirst {τ : Type} (dimension : Nat) (intervals : List (Interval Float))
    (point : Point Float) (precision : Float) (o : Observer τ (Row Float)) :
    ValidatesFirst dimension intervals point precision o := by
  refine ⟨exists_isFault_iff.2, ?_, ?_, ?_, ?_, ?_⟩
  · rintro cause fault system limits rfl
    exact solve_eq_refused fault
  · intro bad system system' limits limits' rfl same
    obtain ⟨cause, fault⟩ := exists_isFault_iff.2 bad
    rw [solve_eq_refused fault, solve_eq_refused (same ▸ fault)]
  · rintro none system limits rfl cause
    exact solve_eq_refused_of_checkContraction none
  · rintro cause system limits rfl
    exact isFault_of_result
  · rintro system limits rfl
    constructor
    · rintro ⟨n, sides, coordinates, h⟩
      have inputs : (Error.dimensionMismatch n sides coordinates : Error Float).IsOfInputs :=
        trivial
      cases isFault_of_result inputs h with
      | sizes unequal => exact unequal
    · intro unequal
      have refused : solve system intervals point precision limits o = .refused o _ :=
        solve_eq_refused (.sizes unequal)
      exact ⟨_, _, _, congrArg Run.result refused⟩

end FixedPoint

end RootFinding.Systems
