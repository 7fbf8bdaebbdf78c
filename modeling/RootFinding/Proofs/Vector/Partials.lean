import Mathlib.Data.List.FinRange
import RootFinding.VectorFunction

/-!
# Partial derivatives are derivatives of sections

All coordinates of a point but one are held fixed, and a function of several variables is left as a
function of one of them, its section. The estimate of a partial derivative is the estimate of the
derivative of the section, and the norm adds up the magnitudes of these estimates
(`partials_are_derivatives_of_sections`). Nothing is assumed about the numbers, so the two sides are
the same double too, to the last bit: they are computed by the same operations in the same order.

## Shape of the arguments

* The section at the coordinate itself is the function at the point, so the sample in the middle is
  taken there (`coordinateSection_self`).
* The two other samples are taken in one copy of the point, moved twice. The second move undoes the
  first one (`List.set_set`), so each is the point moved once.
* A point that has the right length is refused nowhere on the way through the coordinates, which
  makes this way a sum (`partialDerivativeNorm_eq_ok`). Another point is refused at the first
  coordinate, if there is one (`partialDerivativeNorm_eq_error`).
-/

namespace RootFinding.VectorFunction

open Number

variable {α : Type} {f g : VectorFunction α} {x : Point α}

/-! ## Sections -/

/-- The function of one coordinate that is left when all others are those of a point. -/
def coordinateSection (f : VectorFunction α) (x : Point α) (i : Nat) (t : α) : α :=
  f.eval (x.set i t)

/-- At the coordinate of the point itself, the section has the value of the function. -/
theorem coordinateSection_self (f : VectorFunction α) (x : Point α) (i : Fin x.length) :
    f.coordinateSection x i x[i] = f.eval x :=
  congrArg f.eval (List.set_getElem_self i.isLt)

/-- Two points agree in all coordinates, except perhaps in that of index `i`. -/
structure AgreesExcept (i : Nat) (x y : Point α) : Prop where
  length_eq : y.length = x.length
  getElem?_eq : ∀ j, j ≠ i → y[j]? = x[j]?

theorem agreesExcept_self (i : Nat) (x : Point α) : AgreesExcept i x x := ⟨rfl, fun _ _ => rfl⟩

theorem agreesExcept_set (i : Nat) (x : Point α) (t : α) : AgreesExcept i x (x.set i t) :=
  ⟨List.length_set, fun _ other => List.getElem?_set_ne other.symm⟩

variable [Number α]

/-- The derivative estimate of the section through a point along one of its coordinates. -/
def sectionDerivative (f : VectorFunction α) (x : Point α) (i : Fin x.length) (precision : α) : α :=
  Derivative.blended (f.coordinateSection x i) x[i] precision

/-- The points at which a partial derivative samples the function. -/
def samplePoints (x : Point α) (i : Fin x.length) (precision : α) : List (Point α) :=
  [x.set i (x[i] - precision / two), x, x.set i (x[i] + precision / two)]

/-- Only the coordinate that is asked for is moved. -/
theorem agreesExcept_of_mem_samplePoints {i : Fin x.length} {precision : α} {y : Point α}
    (h : y ∈ samplePoints x i precision) : AgreesExcept i x y := by
  simp only [samplePoints, List.mem_cons, List.not_mem_nil, or_false] at h
  obtain rfl | rfl | rfl := h
  · exact agreesExcept_set i x _
  · exact agreesExcept_self i y
  · exact agreesExcept_set i x _

/-- Functions that agree where they are sampled have the same estimate. -/
theorem sectionDerivative_congr {i : Fin x.length} {precision : α}
    (same : ∀ y ∈ samplePoints x i precision, g.eval y = f.eval y) :
    g.sectionDerivative x i precision = f.sectionDerivative x i precision := by
  obtain ⟨left, center, right⟩ : _ ∧ _ ∧ _ := by
    simpa only [samplePoints, List.forall_mem_cons, List.not_mem_nil, false_imp_iff, implies_true,
      and_true] using same
  rw [sectionDerivative, sectionDerivative, Derivative.blended, Derivative.blended,
    coordinateSection_self, coordinateSection_self, center, coordinateSection, coordinateSection,
    coordinateSection, coordinateSection, left, right]

/-! ## The partial derivative and the norm -/

/-- A point of the right length has all partial derivatives, and they are those of its sections. -/
theorem partialDerivative_eq_ok (length : x.length = f.arity) (i : Fin x.length) (precision : α) :
    f.partialDerivative x i precision = .ok (f.sectionDerivative x i precision) := by
  rw [partialDerivative, checkArity, if_pos length, List.getElem?_eq_getElem i.isLt]
  simp only [List.set_set]
  rw [sectionDerivative, Derivative.blended, coordinateSection_self]
  rfl

theorem partialDerivative_eq_error (length : x.length ≠ f.arity) (index : Nat) (precision : α) :
    f.partialDerivative x index precision = .error (.arityMismatch f.arity x.length) := by
  rw [partialDerivative, checkArity, if_neg length]
  rfl

/-- Without variables there is nothing to add up. -/
theorem partialDerivativeNorm_of_arity_eq_zero (empty : f.arity = 0) (x : Point α) :
    f.partialDerivativeNorm x = .ok zero := by
  rw [partialDerivativeNorm, empty]
  rfl

/-- With variables, the first partial derivative refuses a point of another length. -/
theorem partialDerivativeNorm_eq_error (nonempty : f.arity ≠ 0) (length : x.length ≠ f.arity) :
    f.partialDerivativeNorm x = .error (.arityMismatch f.arity x.length) := by
  obtain ⟨n, hn⟩ := Nat.exists_eq_succ_of_ne_zero nonempty
  rw [partialDerivativeNorm, foldFromM_eq, hn, List.range'_succ, List.foldlM_cons,
    partialDerivative_eq_error length, hn]
  rfl

/-- No partial derivative refuses a point of the right length. -/
theorem partialDerivativeNorm_eq_ok (length : x.length = f.arity) :
    f.partialDerivativeNorm x =
      .ok ((List.ofFn fun i : Fin x.length =>
        abs (f.sectionDerivative x i Derivative.defaultPrecision)).foldl (· + ·) zero) := by
  have step (sum : α) (i : Fin x.length) :
      (do return sum + abs (← f.partialDerivative x i)) =
        (pure (sum + abs (f.sectionDerivative x i Derivative.defaultPrecision)) :
          Except ArgumentError α) := by
    rw [partialDerivative_eq_ok length]
    rfl
  rw [partialDerivativeNorm, foldFromM_eq, ← List.range_eq_range', ← length,
    ← List.map_coe_finRange_eq_range, List.foldlM_map, List.ofFn_eq_map, List.foldl_map]
  simp only [step, List.foldlM_pure]
  rfl

/-- What the estimate of a partial derivative is made of: it is that of the section, and only the
values at the sampled points enter it, which are moved along one coordinate. -/
structure IsSectional (f : VectorFunction α) (x : Point α) (i : Fin x.length) (precision : α) :
    Prop where
  eq_blended : f.partialDerivative x i precision =
    .ok (Derivative.blended (f.coordinateSection x i) x[i] precision)
  moved : ∀ y ∈ samplePoints x i precision, AgreesExcept i x y
  /-- Another function with the same values at the sampled points has the same estimate. -/
  sampled : ∀ g : VectorFunction α, g.arity = f.arity →
    (∀ y ∈ samplePoints x i precision, g.eval y = f.eval y) →
      g.partialDerivative x i precision = f.partialDerivative x i precision

/-- The partial derivatives of a function at a point of the right length are the derivatives of its
sections, and the norm is the sum of their magnitudes, from the first coordinate to the last. -/
theorem partials_are_derivatives_of_sections (f : VectorFunction α) (x : Point α)
    (length : x.length = f.arity) :
    (∀ (i : Fin x.length) (precision : α), IsSectional f x i precision) ∧
      f.partialDerivativeNorm x =
        .ok ((List.ofFn fun i : Fin x.length => abs (Derivative.blended (f.coordinateSection x i)
          x[i] Derivative.defaultPrecision)).foldl (· + ·) zero) := by
  refine ⟨fun i precision => ⟨?_, ?_, ?_⟩, partialDerivativeNorm_eq_ok length⟩
  · exact partialDerivative_eq_ok length i precision
  · exact fun y hy => agreesExcept_of_mem_samplePoints hy
  · intro g arity same
    rw [partialDerivative_eq_ok (length.trans arity.symm), partialDerivative_eq_ok length,
      sectionDerivative_congr same]

/-- A product whose second factor is a square. -/
def timesSquare : VectorFunction Float where
  label := "x_0 x_1^2"
  arity := 2
  eval x := x.headD 0 * (x.getLastD 0 * x.getLastD 0)

/-- Along the second coordinate the function is a parabola, and its slope is found exactly. -/
theorem timesSquare_estimated_along_parabola :
    ([2, 3] : Point Float).length = timesSquare.arity ∧ IsSectional timesSquare [2, 3] 1 0.5 ∧
      (timesSquare.partialDerivative [2, 3] 1 0.5).toOption.map (· == 12) = some true ∧
      timesSquare.partialDerivativeNorm [2, 3] =
        .ok (zero + abs (Derivative.blended (timesSquare.coordinateSection [2, 3] 0) 2
          Derivative.defaultPrecision) +
          abs (Derivative.blended (timesSquare.coordinateSection [2, 3] 1) 3
            Derivative.defaultPrecision)) := by
  have length : ([2, 3] : Point Float).length = timesSquare.arity := rfl
  obtain ⟨sectional, norm⟩ := partials_are_derivatives_of_sections timesSquare [2, 3] length
  exact ⟨length, sectional 1 0.5, by decide +kernel, norm⟩

end RootFinding.VectorFunction
