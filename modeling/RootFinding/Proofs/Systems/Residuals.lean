import RootFinding.Proofs.Systems.Squareness

/-!
# The residuals at the answer

The system solver stops when the last step was short, and it does not evaluate the system at its
answer. If the system does not expand distances of that size in the box, its residuals at the answer
are as small as the last step (`residuals_le_of_converged`).

## Shape of the arguments

* The answer is the image of the row before (`exists_image_of_converged`), both rows lie in the box,
  and the stopping rule says that they are near to each other.
* The residuals at an image are the distances between two successive images (`residuals_image`), and
  these are what a system that does not expand keeps small.
-/

namespace RootFinding

open Number

variable {α τ : Type} [Number α]

/-- The residuals at an image are the differences between this image and the next one. -/
theorem EquationSystem.residuals_image {system : EquationSystem α} {x y : Point α}
    (h : system.apply x = .ok y) :
    system.residuals y = .ok (system.functions.map fun f => f.eval x - f.eval y) := by
  have length := system.takesPoints.length_apply h
  obtain ⟨-, hy⟩ := apply_eq_ok.1 h
  have differences :
      List.zipWith (fun yi fi => yi - fi) y (system.functions.map fun f => f.eval y) =
        system.functions.map fun f => f.eval x - f.eval y := calc
    _ = List.zipWith (fun yi fi => yi - fi) (system.functions.map fun f => f.eval x)
          (system.functions.map fun f => f.eval y) := congrArg (List.zipWith _ · _) hy
    _ = _ := by rw [List.zipWith_map, List.zipWith_self]
  exact residuals_eq_ok.2 ⟨length, differences.symm⟩

namespace Systems

/-- Two points have the same number of coordinates, and no coordinate of the one is further than
`scale` from that of the other. -/
def IsNear (scale : α) (x y : Point α) : Prop :=
  List.Forall₂ (fun a b => Number.abs (a - b) ≤ scale) x y

/-- In the box, no function of the system has values further than `scale` apart at points that are
not. -/
def DoesNotExpand (system : EquationSystem α) (intervals : List (Interval α)) (scale : α) : Prop :=
  ∀ x y, FixedPoint.InBox system intervals x → FixedPoint.InBox system intervals y →
    IsNear scale x y → ∀ f ∈ system.functions, Number.abs (f.eval x - f.eval y) ≤ scale

namespace FixedPoint

variable {system : EquationSystem α} {intervals : List (Interval α)} {point : Point α}
  {precision : α} {limits : Limits α} {o : Observer τ (Row α)} {solution : Solution (Row α)}

/-- A row is near to its image if no change exceeds the scale. -/
theorem IsImage.isNear {r r' : Row α} {changes : List α} (h : IsImage system r r')
    (length : r.values.length = r'.values.length) (hchanges : r'.changes = some changes)
    (small : ∀ change ∈ changes, change ≤ precision) : IsNear precision r.values r'.values := by
  obtain rfl := Option.some.inj (hchanges.symm.trans h.changes)
  refine List.forall₂_iff_zip.2 ⟨length, fun {a b} mem => small _ ?_⟩
  rw [← List.map_uncurry_zip_eq_zipWith]
  exact List.mem_map_of_mem mem

/-- A call that converges has recorded a row before its answer, and the answer is the image of this
row and near to it. -/
theorem exists_image_of_converged
    (h : (solve system intervals point precision limits o).result = .ok solution)
    (converged : solution.status = .converged) :
    ∃ r, InBox system intervals r.values ∧ InBox system intervals solution.trace.last.values ∧
      IsImage system r solution.trace.last ∧
      IsNear precision r.values solution.trace.last.values := by
  obtain ⟨changes, hchanges, small⟩ := (solve_obeys system intervals point precision limits
    o).converged h converged
  have orbit := solve_tracesOrbit system intervals point precision limits o
  have rows_eq : solution.trace.earlier.toList ++ [solution.trace.last] =
      (solve system intervals point precision limits o).rows := orbit.trace h
  have last_inBox := orbit.answer h
  rcases List.eq_nil_or_concat solution.trace.earlier.toList with none | ⟨before, r, split⟩
  · -- the only row is the start point, at which the rule does not hold
    have first := orbit.first solution.trace.last (by rw [← rows_eq, none]; rfl)
    rw [first] at hchanges
    cases hchanges
  · rw [split, List.concat_eq_append] at rows_eq
    have mem : r ∈ (solve system intervals point precision limits o).rows := by
      rw [← rows_eq]
      simp
    have image : IsImage system r solution.trace.last := by
      have chain := rows_eq ▸ orbit.later
      rw [List.append_assoc] at chain
      exact List.isChain_pair.1 chain.right_of_append
    have inBox := orbit.inBox r mem
    exact ⟨r, inBox, last_inBox, image,
      image.isNear (inBox.length.trans last_inBox.length.symm) hchanges small⟩

/-- If a call converges, and the system does not expand distances up to the precision in the box, no
residual at the answer exceeds the precision. -/
theorem residuals_le_of_converged (system : EquationSystem α) (intervals : List (Interval α))
    (point : Point α) (precision : α) (limits : Limits α) (o : Observer τ (Row α))
    {solution : Solution (Row α)}
    (h : (solve system intervals point precision limits o).result = .ok solution)
    (converged : solution.status = .converged)
    (nonexpansive : DoesNotExpand system intervals precision) :
    ∃ residuals, system.residuals solution.answer = .ok residuals ∧
      residuals.length = system.dimension ∧
      ∀ residual ∈ residuals, Number.abs residual ≤ precision := by
  obtain ⟨r, hr, hlast, image, near⟩ := exists_image_of_converged h converged
  have hresiduals := EquationSystem.residuals_image image.values
  refine ⟨_, hresiduals, system.takesPoints.length_residuals hresiduals, ?_⟩
  intro residual mem
  obtain ⟨f, hf, rfl⟩ := List.mem_map.1 mem
  exact nonexpansive _ _ hr hlast near f hf

/-- One equation, whose right-hand side has a jump. -/
def jump : EquationSystem Float where
  label := "jump"
  functions := [⟨"x_0 < 0.3 ? 0.5 : 0.25", 1, fun x => if x.headD 0 < 0.3 then 0.5 else 0.25⟩]
  nonempty := by simp
  square := by simp

/-- A box for it, which has both values in it. -/
def aroundJump : Interval Float := ⟨0.2, 0.8, by decide, by decide, by decide⟩

/-- The height of the jump is the distance between any two different values. -/
theorem jump_doesNotExpand : DoesNotExpand jump [aroundJump] 0.25 := by
  intro x y _ _ _ f hf
  obtain rfl := List.mem_singleton.1 hf
  dsimp only
  rcases ite_eq_or_eq (x.headD 0 < 0.3) (0.5 : Float) 0.25 with hx | hx <;>
    rcases ite_eq_or_eq (y.headD 0 < 0.3) (0.5 : Float) 0.25 with hy | hy <;>
    rw [hx, hy] <;> decide

/-- The bound is attained: with the height of the jump as precision, the iteration stops after
jumping once, and its residual is the height of the jump. -/
theorem jump_residual_le_and_attained :
    ∃ (limits : Limits Float) (solution : Solution (Row Float)),
      (solve jump [aroundJump] [0.8] 0.25 limits .silent).result = .ok solution ∧
      solution.status = .converged ∧ DoesNotExpand jump [aroundJump] 0.25 ∧
      (∃ residuals, jump.residuals solution.answer = .ok residuals ∧
        residuals.length = jump.dimension ∧
        ∀ residual ∈ residuals, Number.abs residual ≤ (0.25 : Float)) ∧
      jump.residuals solution.answer = .ok [0.25] := by
  let limits : Limits Float := ⟨10, 0.1, by decide, by decide, by decide⟩
  have solved : ((solve jump [aroundJump] [0.8] 0.25 limits .silent).result.toOption.map
      fun s => (s.status, s.answer)) = some (.converged, [0.5]) := by decide +kernel
  cases h : (solve jump [aroundJump] [0.8] 0.25 limits .silent).result with
  | error cause =>
    rw [h] at solved
    cases solved
  | ok solution =>
    rw [h] at solved
    obtain ⟨converged, answer⟩ := Prod.mk.inj (Option.some.inj solved)
    have bounded := residuals_le_of_converged jump [aroundJump] [0.8] 0.25 limits .silent h
      converged jump_doesNotExpand
    have attained : jump.residuals solution.answer = .ok [0.25] := by
      rw [answer]
      decide +kernel
    exact ⟨limits, solution, h, converged, jump_doesNotExpand, bounded, attained⟩

end FixedPoint

end Systems

end RootFinding
