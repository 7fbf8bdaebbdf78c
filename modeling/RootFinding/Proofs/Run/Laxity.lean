import RootFinding.Proofs.Methods.Steps
import RootFinding.Proofs.Run.Observation

/-!
# Calls under laxer limits

A method that is given laxer limits does more only where the strict limits end it. As long as no
failure tells of a limit, the two calls are the same call: the same rows are offered to the same
observer, who logs the same and is left in the same state, and the result is the same.

## Shape of the arguments

* `SameUnless` compares two computations. It is closed under sequencing, so an iteration is compared
  guard by guard, and only the guards that look at the limits have to be looked at.
* `Scheme.runFrom_eq_of_laxer` is the induction over a pass, for any two schemes whose iterations
  are the same in this sense and for any larger ceiling. The observer is any observer: it is fed the
  same events.
-/

namespace RootFinding

variable {σ τ ρ ε η β γ : Type} {reason : ε → Prop}

/-! ## Computations -/

/-- Unless `strict` fails for a reason of this kind, `lax` is the same computation. -/
def SameUnless (reason : ε → Prop) (strict lax : Except ε β) : Prop :=
  Avoids reason strict → lax = strict

namespace SameUnless

theorem refl (x : Except ε β) : SameUnless reason x x := fun _ => rfl

theorem bind {x x' : Except ε β} {k k' : β → Except ε γ} (hx : SameUnless reason x x')
    (hk : ∀ b, SameUnless reason (k b) (k' b)) : SameUnless reason (x >>= k) (x' >>= k') := by
  intro avoids
  cases x with
  | error cause =>
    have first : Avoids reason (.error cause : Except ε β) := .error (avoids cause rfl)
    rw [hx first]
    rfl
  | ok b =>
    rw [hx (.ok b)]
    exact hk b avoids

/-- A computation that succeeds is the same computation. -/
theorem eq_ok {strict lax : Except ε β} (h : SameUnless reason strict lax) {b : β}
    (hb : strict = .ok b) : lax = .ok b := by
  subst hb
  exact h (.ok b)

/-- So is one that fails for another reason. -/
theorem eq_error {strict lax : Except ε β} (h : SameUnless reason strict lax) {cause : ε}
    (hcause : strict = .error cause) (other : ¬reason cause) : lax = .error cause := by
  subst hcause
  exact h (.error other)

end SameUnless

/-! ## Passes -/

/-- A pass is cut short by the limits: the ceiling is reached, or an iteration fails for a reason of
this kind. -/
def Ending.IsCutShort (reason : ε → Prop) : Ending ρ ε η → Prop
  | .halted _ _ _ => False
  | .stopped _ _ => False
  | .exhausted => True
  | .failed cause => reason cause

namespace Scheme

/-- A pass that is not cut short is the same pass under a higher ceiling and with laxer
iterations. -/
theorem runFrom_eq_of_laxer {strict lax : Scheme σ ρ ε η}
    (steps : ∀ s, SameUnless reason (strict s) (lax s)) {ceiling ceiling' : Nat}
    (le : ceiling ≤ ceiling') (o : Observer τ ρ) (recorded : Array ρ) (log : Array Log.Entry)
    (iter : Nat) (s : σ)
    (h : ¬(strict.runFrom o recorded log iter ceiling s).ending.IsCutShort reason) :
    lax.runFrom o recorded log iter ceiling' s = strict.runFrom o recorded log iter ceiling s := by
  induction ceiling generalizing ceiling' o recorded log iter s with
  | zero => exact absurd trivial h
  | succ ceiling ih =>
    obtain ⟨ceiling', rfl⟩ := Nat.exists_eq_succ_of_ne_zero (Nat.ne_zero_of_lt le)
    rcases hs : strict s with cause | ⟨row, verdict⟩
    · rw [runFrom_of_error hs] at h ⊢
      exact runFrom_of_error ((steps s).eq_error hs h)
    · have hs' : lax s = .ok (row, verdict) := (steps s).eq_ok hs
      by_cases quiet : (o.observe ⟨recorded.size + 1, row⟩).action = none
      · -- the verdict counts, and it is the same one
        cases verdict with
        | halt outcome => rw [runFrom_of_halt hs quiet, runFrom_of_halt hs' quiet]
        | next t =>
          rw [runFrom_of_next hs quiet] at h ⊢
          rw [runFrom_of_next hs' quiet]
          exact ih (Nat.le_of_succ_le_succ le) _ _ _ _ _ h
      · have stops := Observer.action_ne_none_iff.1 quiet
        rw [runFrom_of_stop hs stops, runFrom_of_stop hs' stops]

theorem run_eq_of_laxer {strict lax : Scheme σ ρ ε η}
    (steps : ∀ s, SameUnless reason (strict s) (lax s)) {ceiling ceiling' : Nat}
    (le : ceiling ≤ ceiling') (o : Observer τ ρ) (first : Nat) (s : σ)
    (h : ¬(strict.run o ceiling first s).ending.IsCutShort reason) :
    lax.run o ceiling' first s = strict.run o ceiling first s :=
  runFrom_eq_of_laxer steps le o #[] #[] first s h

end Scheme

/-! ## Calls -/

/-- What a call under strict limits has to do with the same call under lax ones. The failures for
one of these reasons tell of a limit. -/
structure Run.Outlasts (reason : ε → Prop) (strict lax : Run τ ρ ε) : Prop where
  /-- A solution stays the same, with its status, its iterations and its trace. -/
  success : ∀ {solution}, strict.result = .ok solution → lax.result = .ok solution
  /-- A failure for another reason stays the same, with the values that it carries. -/
  failure : ∀ {cause}, strict.result = .error cause → ¬reason cause → lax.result = .error cause
  /-- In these cases nobody can tell the calls apart: the events, the log and the observer are the
  same too. -/
  unnoticed : Avoids reason strict.result → lax = strict

theorem Run.outlasts_of_eq {strict lax : Run τ ρ ε}
    (h : Avoids reason strict.result → lax = strict) : Outlasts reason strict lax := by
  have same : SameUnless reason strict.result lax.result := fun avoids =>
    congrArg Run.result (h avoids)
  exact ⟨same.eq_ok, same.eq_error, h⟩

/-- A pass whose result does not tell of a limit is not cut short, and it does not matter which
error would tell that the ceiling is reached. -/
theorem Run.ofPass_of_avoids {exhausted : ε} (limit : reason exhausted) {pass : Pass τ ρ ε Unit}
    (h : Avoids reason (Run.ofPass exhausted pass).result) :
    ¬pass.ending.IsCutShort reason ∧
      ∀ exhausted', Run.ofPass exhausted' pass = Run.ofPass exhausted pass := by
  obtain ⟨o, rows, log, ending⟩ := pass
  cases ending with
  | halted trace iters outcome => exact ⟨id, fun _ => rfl⟩
  | stopped trace iters => exact ⟨id, fun _ => rfl⟩
  | exhausted => exact absurd limit (h exhausted rfl)
  | failed cause => exact ⟨h cause rfl, fun _ => rfl⟩

/-- A call with one pass outlasts its limits if its start and its iterations do. -/
theorem Scheme.call_outlasts {strict lax : Scheme σ ρ ε Unit}
    (steps : ∀ s, SameUnless reason (strict s) (lax s)) {start start' : Except ε σ}
    (starts : SameUnless reason start start') {ceiling ceiling' : Nat} (le : ceiling ≤ ceiling')
    {exhausted : ε} (limit : reason exhausted) (exhausted' : ε) (o : Observer τ ρ) (first : Nat) :
    Run.Outlasts reason (strict.call o ceiling first exhausted start)
      (lax.call o ceiling' first exhausted' start') := by
  refine Run.outlasts_of_eq fun avoids => ?_
  cases start with
  | error cause => rw [starts (.error (avoids cause rfl)), call, call]
  | ok s =>
    rw [starts (.ok s), call, call]
    obtain ⟨whole, any⟩ := Run.ofPass_of_avoids limit avoids
    rw [run_eq_of_laxer steps le o first s whole, any exhausted']

end RootFinding
