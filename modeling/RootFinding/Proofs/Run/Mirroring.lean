import RootFinding.Proofs.Run.Outline

/-!
# Calls that mirror each other

One scheme mirrors another if its iterations are the images of the other's iterations: from the
image of a state, it records the image of the row and goes on from the image of the next state, or
it fails with the image of the cause. Then the same holds of courses and of unobserved calls: the
solutions have the same status and the same number of iterations, and the rows of one are the images
of the rows of the other.

## Shape of the arguments

* `Mirrors` compares two computations. It is closed under sequencing, so a scheme is compared guard
  by guard, down to its stopping rule (`Mirrors.step`).
* `Scheme.course_mirrored` is the induction over the iterations.
-/

namespace RootFinding

variable {σ σ' τ υ ρ ρ' ε ε' η β β' γ γ' : Type}
  {onError : ε → ε'} {onState : σ → σ'} {onRow : ρ → ρ'} {onValue : β → β'} {onResult : γ → γ'}

/-! ## Computations -/

/-- The second computation returns the image of what the first one returns, or fails with the image
of its cause of failure. -/
inductive Mirrors (onError : ε → ε') (onValue : β → β') : Except ε β → Except ε' β' → Prop
  | ok (b : β) : Mirrors onError onValue (.ok b) (.ok (onValue b))
  | error (cause : ε) : Mirrors onError onValue (.error cause) (.error (onError cause))

/-- What follows the image of a row. -/
def Verdict.map (onState : σ → σ') : Verdict σ η → Verdict σ' η
  | .halt outcome => .halt outcome
  | .next s => .next (onState s)

namespace Mirrors

variable {x : Except ε β} {y : Except ε' β'}

theorem eq_ok (h : Mirrors onError onValue x y) {b : β} (hx : x = .ok b) :
    y = .ok (onValue b) := by
  subst hx
  cases h
  rfl

theorem eq_error (h : Mirrors onError onValue x y) {cause : ε} (hx : x = .error cause) :
    y = .error (onError cause) := by
  subst hx
  cases h
  rfl

theorem bind {k : β → Except ε γ} {k' : β' → Except ε' γ'} (h : Mirrors onError onValue x y)
    (hk : ∀ b, Mirrors onError onResult (k b) (k' (onValue b))) :
    Mirrors onError onResult (x >>= k) (y >>= k') := by
  cases h with
  | ok b => exact hk b
  | error cause => exact .error cause

/-- Two tests with the same outcome, each at the end of an iteration. -/
theorem step {row : ρ} {row' : ρ'} {final final' : Bool} {t : σ} {t' : σ'}
    (rows : row' = onRow row) (tests : final' = final) (states : t' = onState t) :
    Mirrors onError (Prod.map onRow (Verdict.map onState))
      (.ok (row, if final then .halt () else .next t) : Except ε (ρ × Verdict σ Unit))
      (.ok (row', if final' then .halt () else .next t')) := by
  subst rows tests states
  cases final' with
  | true => exact .ok (row, Verdict.halt ())
  | false => exact .ok (row, Verdict.next t)

end Mirrors

/-! ## Courses -/

namespace Course

/-- The course with an image in the place of each row and of the cause of failure. -/
def mirrored (onRow : ρ → ρ') (onError : ε → ε') (c : Course ρ ε η) : Course ρ' ε' η where
  earlier := c.earlier.map onRow
  finish :=
    match c.finish with
    | .halted last outcome => .halted (onRow last) outcome
    | .exhausted => .exhausted
    | .failed cause => .failed (onError cause)

end Course

namespace Scheme

variable {scheme : Scheme σ ρ ε Unit} {scheme' : Scheme σ' ρ' ε' Unit}
  (steps : ∀ s, Mirrors onError (Prod.map onRow (Verdict.map onState)) (scheme s)
    (scheme' (onState s)))

include steps

/-- From the image of a state, the course is the image of the course from there. -/
theorem course_mirrored (ceiling : Nat) (s : σ) :
    scheme'.course ceiling (onState s) = (scheme.course ceiling s).mirrored onRow onError := by
  induction ceiling generalizing s with
  | zero => rfl
  | succ ceiling ih =>
    rcases hs : scheme s with cause | ⟨row, outcome | t⟩
    · rw [course_of_error hs, course_of_error ((steps s).eq_error hs)]
      rfl
    · rw [course_of_halt hs, course_of_halt ((steps s).eq_ok hs)]
      rfl
    · rw [course_of_next hs, course_of_next ((steps s).eq_ok hs), ih]
      rfl

end Scheme

/-! ## Calls -/

/-- The solution with an image in the place of each row. -/
def Solution.mirrored (onRow : ρ → ρ') (s : Solution ρ) : Solution ρ' where
  status := s.status
  iters := s.iters
  trace := ⟨s.trace.earlier.map onRow, onRow s.trace.last⟩

@[simp] theorem Solution.rows_mirrored (onRow : ρ → ρ') (s : Solution ρ) :
    (s.mirrored onRow).trace.rows = s.trace.rows.map onRow := by
  simp [mirrored, Trace.rows]

namespace Scheme

theorem resultOf_mirrors (exhausted : ε) (c : Course ρ ε Unit) (first : Nat) :
    Mirrors onError (Solution.mirrored onRow) (resultOf exhausted (c.ending first))
      (resultOf (onError exhausted) ((c.mirrored onRow onError).ending first)) := by
  obtain ⟨earlier, finish⟩ := c
  cases finish with
  | halted last outcome =>
    have halted : Mirrors onError (Solution.mirrored onRow)
        (.ok ⟨.converged, first + earlier.length, ⟨earlier.toArray, last⟩⟩) _ := .ok _
    simpa [Solution.mirrored, Course.mirrored, Course.ending, resultOf] using halted
  | exhausted => exact .error exhausted
  | failed cause => exact .error cause

/-- An unobserved call of a scheme that mirrors another mirrors the unobserved call of the other. -/
theorem call_mirrors {scheme : Scheme σ ρ ε Unit} {scheme' : Scheme σ' ρ' ε' Unit}
    (steps : ∀ s, Mirrors onError (Prod.map onRow (Verdict.map onState)) (scheme s)
      (scheme' (onState s)))
    {start : Except ε σ} {start' : Except ε' σ'} (starts : Mirrors onError onState start start')
    {o : Observer τ ρ} {o' : Observer υ ρ'} (passive : o.IsPassive) (passive' : o'.IsPassive)
    (ceiling first : Nat) (exhausted : ε) :
    Mirrors onError (Solution.mirrored onRow) (scheme.call o ceiling first exhausted start).result
      (scheme'.call o' ceiling first (onError exhausted) start').result := by
  rw [result_call_of_isPassive passive, result_call_of_isPassive passive']
  cases starts with
  | ok s =>
    dsimp only [outline]
    rw [course_mirrored steps]
    exact resultOf_mirrors exhausted _ first
  | error cause => exact .error cause

end Scheme

end RootFinding
