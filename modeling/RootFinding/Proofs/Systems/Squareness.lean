import RootFinding.Proofs.Systems.Failures
import RootFinding.Proofs.Vector.Arity

/-!
# Square systems refuse no argument

A system is checked once, when it is built: it has as many functions as each of them has arguments
(`EquationSystem.ofFunctions_eq_iff`). Every later step relies on that check. A point of the right
length is taken by all functions of the system, and the points that the solver makes have the right
length: those of the sampling grid have one coordinate for each side of the box, and an iterate has
one for each function. So no call of the solver ends because a function refuses its arguments, and
every row that is recorded can be read and has its residuals
(`square_systems_refuse_no_argument`).

## Shape of the arguments

* `EquationSystem.apply_eq` and `residuals_eq` say when a point is taken, and with which values.
  Only their proofs look at the arities of the functions. That a point of the right length is taken
  by a single function is known beforehand.
* The lengths of the points are kept by what makes them: a combination of grid points is related to
  its axes one by one (`forall₂_of_mem_gridPoints`), and an iteration that starts from a point of
  the right length records a full row (`FixedPoint.isFull_of_step`).
* An iteration that fails starts from the point of the last row, so what is known of the rows is
  known of it.
-/

namespace RootFinding

open Number

/-! ## The check of a system -/

namespace EquationSystem

variable {α : Type}

/-- The function of index `i` is the first one that has another number of arguments than the
function in front. -/
structure IsFirstMixed (functions : List (VectorFunction α)) (i expected actual : Nat) : Prop where
  front : functions.head?.map VectorFunction.arity = some expected
  here : functions[i]?.map VectorFunction.arity = some actual
  differs : actual ≠ expected
  before : ∀ j < i, ∀ f ∈ functions[j]?, f.arity = expected

/-- What the result of the check says about the functions. -/
def IsVerdict (label : String) (functions : List (VectorFunction α)) :
    Except SystemError (EquationSystem α) → Prop
  | .ok s => functions ≠ [] ∧ (∀ f ∈ functions, f.arity = functions.length) ∧
      s.label = label ∧ s.functions = functions
  | .error .empty => functions = []
  | .error (.mixedArity i expected actual) => IsFirstMixed functions i expected actual
  | .error (.notSquare count arity) => functions ≠ [] ∧ (∀ f ∈ functions, f.arity = arity) ∧
      count = functions.length ∧ count ≠ arity

section Check

variable {label : String} {functions : List (VectorFunction α)} {arity i expected actual : Nat}

theorem firstMixed?_eq_some_iff {f : VectorFunction α} :
    firstMixed? arity functions = some (f, i) ↔
      functions[i]? = some f ∧ f.arity ≠ arity ∧
        ∀ j < i, ∀ g ∈ functions[j]?, g.arity = arity := by
  rw [firstMixed?, List.find?_eq_some_iff_getElem]
  constructor
  · rintro ⟨differs, k, hk, here, before⟩
    rw [List.getElem_zipIdx, Prod.mk.injEq, Nat.zero_add] at here
    obtain ⟨rfl, rfl⟩ := here
    rw [List.length_zipIdx] at hk
    refine ⟨List.getElem?_eq_getElem hk, by simpa using differs, ?_⟩
    intro j hj g hg
    have same := before j hj
    rw [List.getElem_zipIdx] at same
    rw [List.getElem?_eq_getElem (hj.trans hk), Option.mem_some_iff] at hg
    simpa [hg] using same
  · rintro ⟨here, differs, before⟩
    obtain ⟨hi, rfl⟩ := List.getElem?_eq_some_iff.1 here
    refine ⟨by simpa using differs, i, by simpa using hi, by simp, ?_⟩
    intro j hj
    have same := before j hj functions[j] (List.getElem?_eq_getElem (hj.trans hi))
    simpa using same

/-- The result of the check is true of the functions. -/
theorem isVerdict_ofFunctions : IsVerdict label functions (ofFunctions label functions) := by
  unfold ofFunctions
  split
  · next head => exact List.head?_eq_none_iff.1 head
  · next first head =>
    have nonempty : functions ≠ [] := by
      rintro rfl
      cases head
    split
    · next f index mixed =>
      obtain ⟨here, differs, before⟩ := firstMixed?_eq_some_iff.1 mixed
      exact ⟨congrArg _ head, congrArg _ here, differs, before⟩
    · next mixed =>
      have same := arity_eq_of_firstMixed?_eq_none mixed
      split
      · next square => exact ⟨nonempty, fun f hf => square ▸ same f hf, rfl, rfl⟩
      · next unequal => exact ⟨nonempty, same, rfl, unequal⟩

/-- Functions with a first mixed one do not all have the same number of arguments. -/
theorem IsFirstMixed.not_all_eq (h : IsFirstMixed functions i expected actual) :
    ¬∀ f ∈ functions, f.arity = arity := by
  intro same
  obtain ⟨first, head, rfl⟩ := Option.map_eq_some_iff.1 h.front
  obtain ⟨f, here, rfl⟩ := Option.map_eq_some_iff.1 h.here
  have agree : f.arity = first.arity :=
    (same f (List.mem_of_getElem? here)).trans (same first (List.mem_of_head? head)).symm
  exact h.differs agree

theorem IsFirstMixed.ne_nil (h : IsFirstMixed functions i expected actual) : functions ≠ [] := by
  rintro rfl
  cases h.front

/-- There is only one first mixed function. -/
theorem IsFirstMixed.unique {i' expected' actual' : Nat}
    (h : IsFirstMixed functions i expected actual)
    (h' : IsFirstMixed functions i' expected' actual') :
    i = i' ∧ expected = expected' ∧ actual = actual' := by
  obtain rfl := Option.some.inj (h.front.symm.trans h'.front)
  have not_before {j k a b : Nat} (hj : IsFirstMixed functions j expected a)
      (hk : IsFirstMixed functions k expected b) : ¬j < k := by
    intro lt
    obtain ⟨f, here, rfl⟩ := Option.map_eq_some_iff.1 hj.here
    exact hj.differs (hk.before j lt f here)
  obtain rfl : i = i' := Nat.le_antisymm (Nat.le_of_not_lt (not_before h' h))
    (Nat.le_of_not_lt (not_before h h'))
  exact ⟨rfl, rfl, Option.some.inj (h.here.symm.trans h'.here)⟩

/-- All functions have the number of arguments that one of them has. -/
theorem eq_of_all_eq {arity' : Nat} (nonempty : functions ≠ [])
    (same : ∀ f ∈ functions, f.arity = arity) (same' : ∀ f ∈ functions, f.arity = arity') :
    arity = arity' := by
  obtain ⟨f, hf⟩ := List.exists_mem_of_ne_nil functions nonempty
  exact (same f hf).symm.trans (same' f hf)

namespace IsVerdict

variable {result result' : Except SystemError (EquationSystem α)}

theorem eq_empty (h : IsVerdict label [] result) : result = .error .empty := by
  rcases result with (_ | ⟨j, expected', actual'⟩ | ⟨count, arity'⟩) | s
  · rfl
  · exact absurd rfl h.ne_nil
  · exact absurd rfl h.1
  · exact absurd rfl h.1

theorem eq_mixedArity (h : IsVerdict label functions result)
    (mixed : IsFirstMixed functions i expected actual) :
    result = .error (.mixedArity i expected actual) := by
  rcases result with (_ | ⟨j, expected', actual'⟩ | ⟨count, arity'⟩) | s
  · exact absurd h mixed.ne_nil
  · obtain ⟨rfl, rfl, rfl⟩ := mixed.unique h
    rfl
  · exact absurd h.2.1 mixed.not_all_eq
  · exact absurd h.2.1 mixed.not_all_eq

theorem eq_notSquare (h : IsVerdict label functions result) (nonempty : functions ≠ [])
    (same : ∀ f ∈ functions, f.arity = arity) (differs : functions.length ≠ arity) :
    result = .error (.notSquare functions.length arity) := by
  rcases result with (_ | ⟨j, expected', actual'⟩ | ⟨count, arity'⟩) | s
  · exact absurd h nonempty
  · exact absurd same h.not_all_eq
  · obtain ⟨-, same', rfl, -⟩ := h
    rw [eq_of_all_eq nonempty same same']
  · exact absurd (eq_of_all_eq nonempty h.2.1 same) differs

theorem eq_ok (h : IsVerdict label functions result) (nonempty : functions ≠ [])
    (square : ∀ f ∈ functions, f.arity = functions.length) :
    result = .ok ⟨label, functions, nonempty, square⟩ := by
  rcases result with (_ | ⟨j, expected', actual'⟩ | ⟨count, arity'⟩) | ⟨label', functions', _, _⟩
  · exact absurd h nonempty
  · exact absurd square h.not_all_eq
  · obtain ⟨-, same', rfl, differs⟩ := h
    exact absurd (eq_of_all_eq nonempty square same') differs
  · obtain ⟨-, -, rfl, rfl⟩ := h
    rfl

/-- Two results cannot both be true of the functions. -/
theorem unique (h : IsVerdict label functions result) (h' : IsVerdict label functions result') :
    result = result' := by
  rcases result' with (_ | ⟨j, expected', actual'⟩ | ⟨count, arity'⟩) | ⟨label', functions', _, _⟩
  · obtain rfl : functions = [] := h'
    exact h.eq_empty
  · exact h.eq_mixedArity h'
  · obtain ⟨nonempty, same, rfl, differs⟩ := h'
    exact h.eq_notSquare nonempty same differs
  · obtain ⟨nonempty, square, rfl, rfl⟩ := h'
    exact h.eq_ok nonempty square

end IsVerdict

/-- The check has a result if and only if the result is true of the functions. -/
theorem ofFunctions_eq_iff {result : Except SystemError (EquationSystem α)} :
    ofFunctions label functions = result ↔ IsVerdict label functions result := by
  constructor
  · rintro rfl
    exact isVerdict_ofFunctions
  · exact isVerdict_ofFunctions.unique

end Check

/-! ## Values and residuals -/

section Points

/-- A point of the right length is taken by all functions, any other one by none. -/
theorem apply_eq (system : EquationSystem α) (x : Point α) :
    system.apply x = if x.length = system.dimension then
        .ok (system.functions.map fun f => f.eval x)
      else .error (.arityMismatch system.dimension x.length) := by
  have arity {f : VectorFunction α} (hf : f ∈ system.functions) : f.arity = system.dimension :=
    system.square f hf
  split
  · next length =>
    exact mapM_eq_ok_map fun f hf => VectorFunction.apply_eq_ok (length.trans (arity hf).symm)
  · next length =>
    -- the function in front refuses the point
    obtain ⟨f, functions, split⟩ := List.exists_cons_of_ne_nil system.nonempty
    have mem : f ∈ system.functions := split ▸ List.mem_cons_self
    have refused : f.apply x = .error (.arityMismatch system.dimension x.length) := by
      rw [← arity mem] at length ⊢
      exact VectorFunction.apply_eq_error length
    rw [apply, split, List.mapM_cons, refused]
    rfl

theorem apply_eq_ok {system : EquationSystem α} {x y : Point α} :
    system.apply x = .ok y ↔
      x.length = system.dimension ∧ y = system.functions.map fun f => f.eval x := by
  rw [apply_eq]
  split <;> simp [*, eq_comm]

variable [Number α]

theorem residuals_eq (system : EquationSystem α) (x : Point α) :
    system.residuals x = if x.length = system.dimension then
        .ok (List.zipWith (fun xi fi => xi - fi) x (system.functions.map fun f => f.eval x))
      else .error (.arityMismatch system.dimension x.length) := by
  rw [residuals, apply_eq]
  split <;> rfl

theorem residuals_eq_ok {system : EquationSystem α} {x residuals : Point α} :
    system.residuals x = .ok residuals ↔ x.length = system.dimension ∧
      residuals =
        List.zipWith (fun xi fi => xi - fi) x (system.functions.map fun f => f.eval x) := by
  rw [residuals_eq]
  split <;> simp [*, eq_comm]

/-- What a system does with a point: if there is a coordinate for each unknown, the point has an
image and residuals, and otherwise it is refused. -/
structure TakesPoints (system : EquationSystem α) : Prop where
  apply_iff : ∀ x, (∃ y, system.apply x = .ok y) ↔ x.length = system.dimension
  residuals_iff : ∀ x, (∃ r, system.residuals x = .ok r) ↔ x.length = system.dimension
  length_apply : ∀ {x y}, system.apply x = .ok y → y.length = system.dimension
  length_residuals : ∀ {x r}, system.residuals x = .ok r → r.length = system.dimension
  /-- A residual is the difference between a coordinate and that of the image. -/
  difference : ∀ {x y r}, system.apply x = .ok y → system.residuals x = .ok r →
    ∀ i < system.dimension, ∃ xi yi, x[i]? = some xi ∧ y[i]? = some yi ∧ r[i]? = some (xi - yi)

theorem takesPoints (system : EquationSystem α) : TakesPoints system := by
  refine ⟨?_, ?_, ?_, ?_, ?_⟩
  · intro x
    simp [apply_eq_ok]
  · intro x
    simp [residuals_eq_ok]
  · intro x y h
    obtain ⟨-, rfl⟩ := apply_eq_ok.1 h
    exact List.length_map _
  · intro x r h
    obtain ⟨length, rfl⟩ := residuals_eq_ok.1 h
    rw [List.length_zipWith, List.length_map, length]
    exact Nat.min_self _
  · intro x y r hy hr i hi
    obtain ⟨length, rfl⟩ := apply_eq_ok.1 hy
    obtain ⟨-, rfl⟩ := residuals_eq_ok.1 hr
    have hx : i < x.length := length.symm ▸ hi
    have hf : i < system.functions.length := hi
    exact ⟨x[i], system.functions[i].eval x, by simp [hx], by simp [hf], by simp [hx, hf]⟩

end Points

end EquationSystem

/-! ## Calls -/

namespace Systems

variable {α τ : Type} [Number α]

/-- The failure that tells of a refused argument. -/
def Error.IsArgument : Error α → Prop
  | .argument _ => True
  | _ => False

/-- The contraction check visits points of the right length only. -/
theorem checkContraction_avoids_argument (system : EquationSystem α)
    (intervals : List (Interval α)) (limits : Limits α) :
    Avoids Error.IsArgument (checkContraction system intervals limits) := by
  intro cause h
  rcases checkContraction_eq_error h with
    ⟨-, rfl⟩ | ⟨_, -, _, -, rfl⟩ | ⟨_, -, -, rfl⟩ | ⟨grids, haxes, sizes, p, hp, hviolation⟩
  · exact id
  · exact id
  · exact id
  · rcases violation?_cases hviolation with
      ⟨f, hf, refusal, hnorm, rfl⟩ | ⟨_, _, _, -, -, -, rfl⟩
    · have length : p.length = f.arity := calc
        p.length = grids.length := (forall₂_of_mem_gridPoints hp).length_eq
        _ = intervals.length := (forall₂_of_axes haxes).length_eq.symm
        _ = system.dimension := sizes
        _ = f.arity := (system.square f hf).symm
      exact absurd hnorm (VectorFunction.partialDerivativeNorm_ne_error length refusal)
    · exact id

namespace FixedPoint

variable {system : EquationSystem α} {intervals : List (Interval α)} {point : Point α}
  {precision : α} {limits : Limits α} {s t : State α} {row : Row α}
  {verdict : Verdict (State α) Unit}

theorem start_avoids_argument :
    Avoids Error.IsArgument (start system intervals point precision limits) := by
  have inputs : Avoids Error.IsArgument (checkInputs system intervals point precision) := by
    intro cause h
    rcases checkInputs_eq_error h with ⟨-, rfl⟩ | ⟨-, rfl⟩ | ⟨_, _, _, -, rfl⟩
    · exact id
    · exact id
    · exact id
  have contraction := checkContraction_avoids_argument system intervals limits
  exact inputs.bind fun _ => contraction.bind fun _ => .ok _

/-- A row has a coordinate for each unknown and, if it tells the changes, a change for each. -/
structure IsFull (system : EquationSystem α) (r : Row α) : Prop where
  values : r.values.length = system.dimension
  changes : ∀ changes ∈ r.changes, changes.length = system.dimension

/-- From a point of the right length, an iteration records a full row. -/
theorem isFull_of_step (length : s.point.length = system.dimension)
    (h : scheme system intervals precision s = .ok (row, verdict)) : IsFull system row := by
  cases s with
  | seed start =>
    obtain ⟨rfl, -⟩ := scheme_seed_eq_ok.1 h
    exact ⟨length, nofun⟩
  | iterate point =>
    obtain ⟨next, happly, -, rfl, -⟩ := scheme_iterate_eq_ok.1 h
    have old_length : point.length = system.dimension := length
    have next_length : next.length = system.dimension := system.takesPoints.length_apply happly
    refine ⟨next_length, ?_⟩
    rintro changes ⟨⟩
    rw [changesBetween, List.length_zipWith, old_length, next_length, Nat.min_self]

/-- The next iteration starts from the point of the row, which has the right length. -/
theorem length_point_next (length : s.point.length = system.dimension)
    (h : scheme system intervals precision s = .ok (row, .next t)) :
    t.point.length = system.dimension := by
  obtain rfl := state_after h
  exact (isFull_of_step length h).values

/-- All rows of a call are full. -/
theorem isFull_of_mem_rows {o : Observer τ (Row α)} {r : Row α}
    (hr : r ∈ (solve system intervals point precision limits o).rows) : IsFull system r := by
  have accepted {s : State α} (h : start system intervals point precision limits = .ok s) :
      s.point.length = system.dimension := by
    obtain ⟨hinputs, -, rfl⟩ := start_eq_ok.1 h
    exact (checkInputs_eq_ok_iff.1 hinputs).2.length
  exact Scheme.forall_mem_rows_call accepted length_point_next isFull_of_step r hr

/-- A full row has a value for each of its cells. -/
theorem IsFull.cells?_eq {r : Row α} (h : IsFull system r) :
    TraceRow.cells? r = some (TraceRow.cells r) := by
  have complete : r.isComplete = true := by
    cases hchanges : r.changes with
    | none => rw [Row.isComplete, hchanges]; rfl
    | some changes =>
      have length := h.changes changes hchanges
      simp [Row.isComplete, hchanges, h.values, length]
  exact if_pos complete

/-- A call whose failures and whose rows do not tell of a refused point. -/
structure RefusesNoArgument (system : EquationSystem α) (run : Run τ (Row α) (Error α)) :
    Prop where
  result : Avoids Error.IsArgument run.result
  full : ∀ r ∈ run.rows, IsFull system r
  /-- The cells of a row can be read: a row that tells the changes has one for each coordinate. -/
  cells : ∀ r ∈ run.rows, TraceRow.cells? r = some (TraceRow.cells r)
  residuals : ∀ r ∈ run.rows, ∃ residuals, system.residuals (TraceRow.answer r) = .ok residuals
  /-- A trace has the rows that were offered. -/
  trace : ∀ {solution}, run.result = .ok solution → solution.trace.rows = run.rows

/-- No call of the solver refuses a point, whoever watches it. -/
theorem solve_refusesNoArgument (system : EquationSystem α) (intervals : List (Interval α))
    (point : Point α) (precision : α) (limits : Limits α) (o : Observer τ (Row α)) :
    RefusesNoArgument system (solve system intervals point precision limits o) := by
  refine ⟨?_, fun r => isFull_of_mem_rows, fun r hr => (isFull_of_mem_rows hr).cells?_eq, ?_,
    Scheme.rows_trace_call⟩
  · intro cause h
    rcases Scheme.call_error_cases h with hstart | rfl | ⟨s, t, hstart, leads, failed⟩
    · exact start_avoids_argument cause hstart
    · exact id
    · -- the iteration fails at the point of the last row, which has an image
      obtain ⟨-, -, rfl⟩ := start_eq_ok.1 hstart
      obtain ⟨last, hlast, rfl⟩ := iterate_of_leads leads failed
      have length := (isFull_of_mem_rows (List.mem_of_getLast? hlast)).values
      obtain ⟨image, happly⟩ := (system.takesPoints.apply_iff last.values).2 length
      rcases scheme_iterate_eq_error.1 failed with
        ⟨refusal, hrefused, -⟩ | ⟨next, i, value, interval, -, -, rfl⟩
      · cases happly.symm.trans hrefused
      · exact id
  · intro r hr
    exact (system.takesPoints.residuals_iff r.values).2 (isFull_of_mem_rows hr).values

end FixedPoint

/-- A system is built from the lists of functions that are as many as each of them has arguments,
and of the others the first fault is reported. Such a system takes the points with a coordinate for
each unknown, and no check and no call of the solver, whoever watches it, refuses a point. -/
theorem square_systems_refuse_no_argument (α τ : Type) [Number α] :
    (∀ (label : String) (functions : List (VectorFunction α)),
        ((∃ system, EquationSystem.ofFunctions label functions = .ok system) ↔
          functions ≠ [] ∧ ∀ f ∈ functions, f.arity = functions.length) ∧
        ∀ result, EquationSystem.ofFunctions label functions = result ↔
          EquationSystem.IsVerdict label functions result) ∧
      ∀ system : EquationSystem α, system.TakesPoints ∧
        ∀ (intervals : List (Interval α)) (limits : Limits α),
          Avoids Error.IsArgument (checkContraction system intervals limits) ∧
          ∀ (point : Point α) (precision : α) (o : Observer τ (Row α)),
            FixedPoint.RefusesNoArgument system
              (FixedPoint.solve system intervals point precision limits o) := by
  refine ⟨?_, ?_⟩
  · intro label functions
    refine ⟨?_, fun result => EquationSystem.ofFunctions_eq_iff⟩
    constructor
    · rintro ⟨system, h⟩
      obtain ⟨nonempty, square, -, -⟩ := EquationSystem.ofFunctions_eq_iff.1 h
      exact ⟨nonempty, square⟩
    · rintro ⟨nonempty, square⟩
      exact ⟨⟨label, functions, nonempty, square⟩,
        EquationSystem.ofFunctions_eq_iff.2 ⟨nonempty, square, rfl, rfl⟩⟩
  · intro system
    refine ⟨system.takesPoints, fun intervals limits => ?_⟩
    exact ⟨checkContraction_avoids_argument system intervals limits, fun point precision o =>
      FixedPoint.solve_refusesNoArgument system intervals point precision limits o⟩

end Systems

end RootFinding
