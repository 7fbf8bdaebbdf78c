import RootFinding.Proofs.Vector.Partials

/-!
# Which points are refused for their length

A function of several variables has an arity, and its operations refuse the points of another
length. The value and the partial derivatives do so for every function. The norm leaves the check to
the partial derivatives that it adds up, and a function of no variables has none: it is the one kind
of function whose norm is given at every point (`length_is_checked_iff`).
-/

namespace RootFinding.VectorFunction

open Number

variable {α β : Type} {f : VectorFunction α} {x : Point α}

/-- An operation checks the length of the point: it refuses the point for its length exactly if this
is not the arity. -/
def ChecksLength (f : VectorFunction α) (x : Point α) (result : Except ArgumentError β) : Prop :=
  result = .error (.arityMismatch f.arity x.length) ↔ x.length ≠ f.arity

/-- An operation that refuses the points of another length checks the length, unless it refuses the
points of the right length as well. -/
theorem checksLength_of_eq {result : Except ArgumentError β}
    (taken : x.length = f.arity → result ≠ .error (.arityMismatch f.arity x.length))
    (refused : x.length ≠ f.arity → result = .error (.arityMismatch f.arity x.length)) :
    f.ChecksLength x result :=
  ⟨fun refusal length => taken length refusal, refused⟩

/-! ## The value -/

theorem apply_eq_ok (length : x.length = f.arity) : f.apply x = .ok (f.eval x) := by
  rw [apply, checkArity, if_pos length]
  rfl

theorem apply_eq_error (length : x.length ≠ f.arity) :
    f.apply x = .error (.arityMismatch f.arity x.length) := by
  rw [apply, checkArity, if_neg length]
  rfl

theorem apply_checksLength (f : VectorFunction α) (x : Point α) : f.ChecksLength x (f.apply x) := by
  refine checksLength_of_eq (fun length => ?_) apply_eq_error
  rw [apply_eq_ok length]
  nofun

/-! ## Partial derivatives -/

variable [Number α]

theorem partialDerivative_eq_outOfRange (length : x.length = f.arity) {index : Nat}
    (beyond : f.arity ≤ index) (precision : α) :
    f.partialDerivative x index precision = .error (.indexOutOfRange index f.arity) := by
  rw [partialDerivative, checkArity, if_pos length, List.getElem?_eq_none (length ▸ beyond)]
  rfl

theorem partialDerivative_checksLength (f : VectorFunction α) (x : Point α) (index : Nat)
    (precision : α) : f.ChecksLength x (f.partialDerivative x index precision) := by
  refine checksLength_of_eq (fun length => ?_) fun length =>
    partialDerivative_eq_error length index precision
  rcases Nat.lt_or_ge index f.arity with within | beyond
  · rw [partialDerivative_eq_ok length ⟨index, length ▸ within⟩]
    nofun
  · rw [partialDerivative_eq_outOfRange length beyond]
    nofun

/-! ## The norm -/

theorem partialDerivativeNorm_ne_error (length : x.length = f.arity) (cause : ArgumentError) :
    f.partialDerivativeNorm x ≠ .error cause := by
  rw [partialDerivativeNorm_eq_ok length]
  nofun

/-- The norm checks the length for all points unless the function has no variables. -/
theorem partialDerivativeNorm_checksLength_iff (f : VectorFunction α) (x : Point α) :
    f.ChecksLength x (f.partialDerivativeNorm x) ↔ (f.arity = 0 → x = []) := by
  by_cases empty : f.arity = 0
  · rw [ChecksLength, partialDerivativeNorm_of_arity_eq_zero empty, empty,
      ← List.length_eq_zero_iff]
    simp
  · refine iff_of_true (checksLength_of_eq (fun length => ?_) ?_) fun none => absurd none empty
    · exact partialDerivativeNorm_ne_error length _
    · exact partialDerivativeNorm_eq_error empty

/-! ## The check -/

/-- A point of the right length has a value and a norm, and a partial derivative for each of its
coordinates. -/
structure TakesPoint (f : VectorFunction α) (x : Point α) : Prop where
  value : ∃ y, f.apply x = .ok y
  norm : ∃ sum, f.partialDerivativeNorm x = .ok sum
  partialDerivative : ∀ index < f.arity, ∀ precision,
    ∃ y, f.partialDerivative x index precision = .ok y
  outOfRange_iff : ∀ index precision,
    f.partialDerivative x index precision = .error (.indexOutOfRange index f.arity) ↔
      f.arity ≤ index

theorem takesPoint (length : x.length = f.arity) : f.TakesPoint x := by
  have within (index : Nat) (h : index < f.arity) (precision : α) :
      ∃ y, f.partialDerivative x index precision = .ok y :=
    ⟨_, partialDerivative_eq_ok length ⟨index, length ▸ h⟩ precision⟩
  refine ⟨⟨_, apply_eq_ok length⟩, ⟨_, partialDerivativeNorm_eq_ok length⟩, within, ?_⟩
  intro index precision
  refine ⟨fun refusal => not_lt.1 fun h => ?_, fun beyond =>
    partialDerivative_eq_outOfRange length beyond precision⟩
  obtain ⟨y, hy⟩ := within index h precision
  cases hy.symm.trans refusal

/-- The value and the partial derivatives check the length of every point. The norm does so exactly
if the function has variables or the point has no coordinates: the norm of a function without
variables is zero at every point. Where the length is right, nothing is refused but an index that is
out of range. -/
theorem length_is_checked_iff (f : VectorFunction α) (x : Point α) :
    f.ChecksLength x (f.apply x) ∧
      (∀ index precision, f.ChecksLength x (f.partialDerivative x index precision)) ∧
      (f.ChecksLength x (f.partialDerivativeNorm x) ↔ (f.arity = 0 → x = [])) ∧
      (f.arity = 0 → f.partialDerivativeNorm x = .ok zero) ∧
      (x.length = f.arity → f.TakesPoint x) := by
  refine ⟨apply_checksLength f x, partialDerivative_checksLength f x, ?_, ?_, takesPoint⟩
  · exact partialDerivativeNorm_checksLength_iff f x
  · exact fun empty => partialDerivativeNorm_of_arity_eq_zero empty x

/-- A function of no variables. -/
def constantOne : VectorFunction Float := ⟨"1", 0, fun _ => 1⟩

/-- A function of no variables refuses a point with one coordinate when it is asked for its value,
and does not when it is asked for its norm. -/
theorem constantOne_ignores_length :
    constantOne.apply [1] = .error (.arityMismatch 0 1) ∧
      constantOne.partialDerivativeNorm [1] = .ok 0 ∧
      ¬constantOne.ChecksLength [1] (constantOne.partialDerivativeNorm [1]) := by
  refine ⟨rfl, rfl, ?_⟩
  rw [partialDerivativeNorm_checksLength_iff]
  exact fun empty => List.cons_ne_nil _ _ (empty rfl)

end RootFinding.VectorFunction
