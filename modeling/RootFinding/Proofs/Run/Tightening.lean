import RootFinding.Proofs.Run.Outline

/-!
# Calls with a stricter stopping rule

Two schemes that differ only in their stopping rule record the same rows as long as both go on. If
the strict rule holds only where the loose one does, the loose scheme is the first to halt. So the
strict run begins with the rows of the loose one, and whatever makes the loose run fail makes the
strict one fail in the same way.

## Shape of the arguments

* `HaltsFirst` compares two iterations from the same state: they are the same, or they record the
  same row and the loose one halts at it. A scheme is compared from its guards down to its test.
* `Scheme.course_haltsFirst` follows the two courses up to the first row at which the loose one
  halts. Until then they are in the same state, so nothing has to be known about the rows.
-/

namespace RootFinding

variable {σ τ ρ ε β : Type}

/-! ## Iterations -/

/-- Of two iterations from one state, `loose` is the same as `strict`, or it halts at the same
row. -/
def HaltsFirst (loose strict : Except ε (ρ × Verdict σ Unit)) : Prop :=
  loose = strict ∨ ∃ row verdict, strict = .ok (row, verdict) ∧ loose = .ok (row, .halt ())

namespace HaltsFirst

/-- What comes before the tests is the same. -/
theorem bind (x : Except ε β) {k k' : β → Except ε (ρ × Verdict σ Unit)}
    (h : ∀ b, HaltsFirst (k b) (k' b)) : HaltsFirst (x >>= k) (x >>= k') := by
  cases x with
  | error cause => exact .inl rfl
  | ok b => exact h b

/-- A test that holds where a stricter one does halts first. -/
theorem test {loose strict : Bool} (implies : strict = true → loose = true) (row : ρ) (next : σ) :
    HaltsFirst (.ok (row, if loose then .halt () else .next next) : Except ε _)
      (.ok (row, if strict then .halt () else .next next)) := by
  cases loose with
  | true => exact .inr ⟨row, _, rfl, rfl⟩
  | false =>
    have fails : strict = false :=
      Bool.eq_false_iff.2 fun holds => Bool.false_ne_true (implies holds)
    rw [fails]
    exact .inl rfl

end HaltsFirst

/-! ## Courses -/

namespace Scheme

variable {loose strict : Scheme σ ρ ε Unit} (steps : ∀ s, HaltsFirst (loose s) (strict s))

include steps

/-- The loose course is the same as the strict one, or it halts at one of the rows of the strict
one. -/
theorem course_haltsFirst (ceiling : Nat) (s : σ) :
    loose.course ceiling s = strict.course ceiling s ∨
      ∃ last, (loose.course ceiling s).finish = .halted last () ∧
        (loose.course ceiling s).rows <+: (strict.course ceiling s).rows := by
  induction ceiling generalizing s with
  | zero => exact .inl rfl
  | succ ceiling ih =>
    rcases steps s with same | ⟨row, verdict, hstrict, hloose⟩
    · rcases hs : strict s with cause | ⟨row, outcome | t⟩
      · rw [course_of_error hs, course_of_error (same.trans hs)]
        exact .inl rfl
      · rw [course_of_halt hs, course_of_halt (same.trans hs)]
        exact .inl rfl
      · -- both courses go on, from the same state
        rw [course_of_next hs, course_of_next (same.trans hs)]
        rcases ih t with later | ⟨last, halts, begins⟩
        · rw [later]
          exact .inl rfl
        · exact .inr ⟨last, halts, (List.prefix_cons_inj row).2 begins⟩
    · rw [course_of_halt hloose]
      refine .inr ⟨row, rfl, ?_⟩
      cases verdict with
      | halt outcome => simp [course_of_halt hstrict]
      | next t =>
        rw [course_of_next hstrict]
        exact (List.prefix_cons_inj row).2 List.nil_prefix

end Scheme

/-! ## Calls -/

/-- What a result has to do with the result under a stricter stopping rule. -/
structure Extends (loose strict : Except ε (Solution ρ)) : Prop where
  /-- A strict solution begins with the rows of a loose one. -/
  success : ∀ {solution}, strict = .ok solution →
    ∃ earlier, loose = .ok earlier ∧ earlier.trace.rows <+: solution.trace.rows
  /-- A loose failure is a strict one. -/
  failure : ∀ {cause}, loose = .error cause → strict = .error cause
  /-- A strict failure is a loose one, unless the loose run stops before it. -/
  failure_or_success : ∀ {cause}, strict = .error cause →
    loose = .error cause ∨ ∃ earlier, loose = .ok earlier

theorem Extends.refl (result : Except ε (Solution ρ)) : Extends result result :=
  ⟨fun h => ⟨_, h, List.prefix_rfl⟩, id, .inl⟩

/-- A loose run that succeeds is extended by a strict one whose trace begins with its rows, if it
has one. -/
theorem Extends.of_success {loose strict : Except ε (Solution ρ)} {earlier : Solution ρ}
    (h : loose = .ok earlier)
    (begins : ∀ {solution}, strict = .ok solution → earlier.trace.rows <+: solution.trace.rows) :
    Extends loose strict := by
  subst h
  refine ⟨?_, ?_, ?_⟩
  · intro solution hs
    exact ⟨earlier, rfl, begins hs⟩
  · intro cause h
    cases h
  · intro cause _
    exact .inr ⟨earlier, rfl⟩

namespace Scheme

/-- An unobserved call extends the one with a looser stopping rule. -/
theorem call_extends {loose strict : Scheme σ ρ ε Unit}
    (steps : ∀ s, HaltsFirst (loose s) (strict s)) {o : Observer τ ρ} (passive : o.IsPassive)
    (ceiling first : Nat) (exhausted : ε) {start start' : Except ε σ} (same : start = start') :
    Extends (loose.call o ceiling first exhausted start).result
      (strict.call o ceiling first exhausted start').result := by
  subst same
  rw [result_call_of_isPassive passive, result_call_of_isPassive passive]
  cases start with
  | error cause => exact .refl _
  | ok s =>
    dsimp only [outline]
    rcases course_haltsFirst steps ceiling s with same | ⟨last, halts, begins⟩
    · rw [same]
      exact .refl _
    · have success : resultOf exhausted ((loose.course ceiling s).ending first) =
          .ok ⟨.converged, first + (loose.course ceiling s).earlier.length,
            ⟨(loose.course ceiling s).earlier.toArray, last⟩⟩ := by
        rw [Course.ending, halts]
        rfl
      refine .of_success success fun hs => ?_
      rw [rows_of_resultOf success, rows_of_resultOf hs]
      exact begins

end Scheme

end RootFinding
