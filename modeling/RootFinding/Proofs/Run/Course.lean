import Mathlib.Data.List.Chain
import RootFinding.Iteration

/-!
# The course of an iteration

What a scheme does does not depend on who watches it. `Scheme.course` is the iteration that nobody
stops: the rows from which it goes on, and how it comes to its end. A watched pass is this course,
cut off where the observer first asks to stop; `RootFinding.Proofs.Run.Observation` proves that.

## Shape of the arguments

* `Scheme.Leads` keeps the states that the rows of a course come from, and `course_spec` lists the
  three ways a course can end together with the state it ends in.
* A fact about every row of a course is an invariant of the state (`forall_mem_course_rows`).
* A fact about successive rows is a fact about one step and the next (`isChain_course_rows`).
-/

namespace RootFinding

variable {σ ρ ε η : Type}

/-- How an iteration comes to its end when nobody stops it. -/
inductive Finish (ρ ε η : Type) where
  /-- The scheme halts at a last row. -/
  | halted (last : ρ) (outcome : η)
  /-- The ceiling is reached. -/
  | exhausted
  /-- An iteration fails. -/
  | failed (cause : ε)

/-- The row at which an iteration halts, if it does. -/
def Finish.last? : Finish ρ ε η → Option ρ
  | .halted last _ => some last
  | .exhausted => none
  | .failed _ => none

/-- The rows from which an iteration goes on, and how it comes to its end. -/
structure Course (ρ ε η : Type) where
  earlier : List ρ
  finish : Finish ρ ε η

namespace Course

/-- All rows in order. -/
def rows (c : Course ρ ε η) : List ρ := c.earlier ++ c.finish.last?.toList

/-- The ending of a pass that nobody stops, when its iterations are counted from `first` on. -/
def ending (c : Course ρ ε η) (first : Nat) : Ending ρ ε η :=
  match c.finish with
  | .halted last outcome => .halted ⟨c.earlier.toArray, last⟩ (first + c.earlier.length) outcome
  | .exhausted => .exhausted
  | .failed cause => .failed cause

/-- The course with one more row in front. -/
def cons (row : ρ) (c : Course ρ ε η) : Course ρ ε η := ⟨row :: c.earlier, c.finish⟩

@[simp] theorem rows_halted (earlier : List ρ) (last : ρ) (outcome : η) :
    (⟨earlier, .halted last outcome⟩ : Course ρ ε η).rows = earlier ++ [last] := rfl

@[simp] theorem rows_exhausted (earlier : List ρ) :
    (⟨earlier, .exhausted⟩ : Course ρ ε η).rows = earlier := List.append_nil _

@[simp] theorem rows_failed (earlier : List ρ) (cause : ε) :
    (⟨earlier, .failed cause⟩ : Course ρ ε η).rows = earlier := List.append_nil _

@[simp] theorem rows_cons (row : ρ) (c : Course ρ ε η) : (cons row c).rows = row :: c.rows := rfl

end Course

namespace Scheme

/-- The course from a state, with at most `ceiling` rows. -/
def course (scheme : Scheme σ ρ ε η) : (ceiling : Nat) → σ → Course ρ ε η
  | 0, _ => ⟨[], .exhausted⟩
  | ceiling + 1, state =>
    match scheme state with
    | .error cause => ⟨[], .failed cause⟩
    | .ok (row, .halt outcome) => ⟨[], .halted row outcome⟩
    | .ok (row, .next state) => (scheme.course ceiling state).cons row

section Course

variable {scheme : Scheme σ ρ ε η} {ceiling : Nat} {s t : σ} {row : ρ} {outcome : η} {cause : ε}

@[simp] theorem course_zero : scheme.course 0 s = ⟨[], .exhausted⟩ := rfl

theorem course_of_error (h : scheme s = .error cause) :
    scheme.course (ceiling + 1) s = ⟨[], .failed cause⟩ := by
  rw [course, h]

theorem course_of_halt (h : scheme s = .ok (row, .halt outcome)) :
    scheme.course (ceiling + 1) s = ⟨[], .halted row outcome⟩ := by
  rw [course, h]

theorem course_of_next (h : scheme s = .ok (row, .next t)) :
    scheme.course (ceiling + 1) s = (scheme.course ceiling t).cons row := by
  rw [course, h]

end Course

/-- From the state `s` the scheme records `rows`, one after the other, and goes on from `t`. -/
inductive Leads (scheme : Scheme σ ρ ε η) : σ → List ρ → σ → Prop
  | refl (s : σ) : Leads scheme s [] s
  | step {s t u : σ} {row : ρ} {rows : List ρ} (first : scheme s = .ok (row, .next t))
      (rest : Leads scheme t rows u) : Leads scheme s (row :: rows) u

/-- The state that rows lead to is the one that the last of them is followed by. -/
theorem Leads.last {scheme : Scheme σ ρ ε η} {s t : σ} {rows : List ρ}
    (leads : scheme.Leads s rows t) :
    (rows = [] ∧ t = s) ∨
      ∃ before row u, rows = before ++ [row] ∧ scheme u = .ok (row, .next t) := by
  induction leads with
  | refl s => exact .inl ⟨rfl, rfl⟩
  | @step s t u row rows first rest ih =>
    rcases ih with ⟨rfl, rfl⟩ | ⟨before, last, v, rfl, hlast⟩
    · exact .inr ⟨[], row, s, rfl, first⟩
    · exact .inr ⟨row :: before, last, v, rfl, hlast⟩

/-- How a course that has recorded `count` rows ends in the state `t`. -/
def EndsIn (scheme : Scheme σ ρ ε η) (ceiling count : Nat) (t : σ) : Finish ρ ε η → Prop
  | .halted last outcome => count < ceiling ∧ scheme t = .ok (last, .halt outcome)
  | .exhausted => count = ceiling
  | .failed cause => count < ceiling ∧ scheme t = .error cause

/-- Everything a course can be: rows that lead to some state, and one of the three ends there. -/
theorem course_spec (scheme : Scheme σ ρ ε η) (ceiling : Nat) (s : σ) :
    ∃ t, scheme.Leads s (scheme.course ceiling s).earlier t ∧
      scheme.EndsIn ceiling (scheme.course ceiling s).earlier.length t
        (scheme.course ceiling s).finish := by
  induction ceiling generalizing s with
  | zero => exact ⟨s, .refl s, rfl⟩
  | succ ceiling ih =>
    rcases h : scheme s with cause | ⟨row, outcome | t⟩
    -- in the first two cases the course ends here, in the third it is one row longer than from `t`
    · rw [course_of_error h]
      exact ⟨s, .refl s, Nat.succ_pos _, h⟩
    · rw [course_of_halt h]
      exact ⟨s, .refl s, Nat.succ_pos _, h⟩
    · rw [course_of_next h]
      obtain ⟨u, leads, ends⟩ := ih t
      refine ⟨u, .step h leads, ?_⟩
      revert ends
      simp only [Course.cons, List.length_cons]
      cases (scheme.course ceiling t).finish with
      | halted last outcome => exact fun ends => ⟨Nat.succ_lt_succ ends.1, ends.2⟩
      | exhausted => exact congrArg Nat.succ
      | failed cause => exact fun ends => ⟨Nat.succ_lt_succ ends.1, ends.2⟩

/-- A course fails after the rows that lead to a state where the iteration fails. -/
theorem Leads.course_of_error {scheme : Scheme σ ρ ε η} {s t : σ} {rows : List ρ} {cause : ε}
    {ceiling : Nat} (leads : scheme.Leads s rows t) (h : scheme t = .error cause)
    (room : rows.length < ceiling) : scheme.course ceiling s = ⟨rows, .failed cause⟩ := by
  induction leads generalizing ceiling with
  | refl s =>
    cases ceiling with
    | zero => cases room
    | succ ceiling => exact Scheme.course_of_error h
  | step first rest ih =>
    cases ceiling with
    | zero => cases room
    | succ ceiling =>
      rw [course_of_next first, ih h (Nat.lt_of_succ_lt_succ room)]
      rfl

/-- A course halts after the rows that lead to a state where the iteration halts. -/
theorem Leads.course_of_halt {scheme : Scheme σ ρ ε η} {s t : σ} {rows : List ρ} {row : ρ}
    {outcome : η} {ceiling : Nat} (leads : scheme.Leads s rows t)
    (h : scheme t = .ok (row, .halt outcome)) (room : rows.length < ceiling) :
    scheme.course ceiling s = ⟨rows, .halted row outcome⟩ := by
  induction leads generalizing ceiling with
  | refl s =>
    cases ceiling with
    | zero => cases room
    | succ ceiling => exact Scheme.course_of_halt h
  | step first rest ih =>
    cases ceiling with
    | zero => cases room
    | succ ceiling =>
      rw [course_of_next first, ih h (Nat.lt_of_succ_lt_succ room)]
      rfl

section Rows

variable {scheme : Scheme σ ρ ε η} {Inv : σ → Prop} {P : ρ → Prop} {R : ρ → ρ → Prop}

/-- A property of rows holds along a course if an invariant of the states gives it. -/
theorem forall_mem_course_rows
    (next : ∀ {s row t}, Inv s → scheme s = .ok (row, .next t) → Inv t)
    (holds : ∀ {s row verdict}, Inv s → scheme s = .ok (row, verdict) → P row)
    (ceiling : Nat) {s : σ} (inv : Inv s) : ∀ row ∈ (scheme.course ceiling s).rows, P row := by
  induction ceiling generalizing s with
  | zero => simp
  | succ ceiling ih =>
    rcases h : scheme s with cause | ⟨row, outcome | t⟩
    · simp [course_of_error h]
    · simpa [course_of_halt h] using holds inv h
    · rw [course_of_next h, Course.rows_cons]
      exact List.forall_mem_cons.2 ⟨holds inv h, ih (next inv h)⟩

/-- The first row of a course is the row of the state it starts from. -/
theorem head?_course_rows (ceiling : Nat) {s : σ} {row : ρ}
    (h : row ∈ (scheme.course ceiling s).rows.head?) :
    ∃ verdict, scheme s = .ok (row, verdict) := by
  cases ceiling with
  | zero => simp at h
  | succ ceiling =>
    rcases hs : scheme s with cause | ⟨first, outcome | t⟩
    · simp [course_of_error hs] at h
    · obtain rfl : first = row := by simpa [course_of_halt hs] using h
      exact ⟨_, rfl⟩
    · obtain rfl : first = row := by simpa [course_of_next hs] using h
      exact ⟨_, rfl⟩

/-- A course that has room for a row begins with the row of the state it starts from. -/
theorem head?_course_rows_of_ok (ceiling : Nat) {s : σ} {row : ρ} {verdict : Verdict σ η}
    (h : scheme s = .ok (row, verdict)) :
    (scheme.course (ceiling + 1) s).rows.head? = some row := by
  cases verdict with
  | halt outcome => rw [course_of_halt h, Course.rows_halted, List.nil_append, List.head?_cons]
  | next t => rw [course_of_next h, Course.rows_cons, List.head?_cons]

/-- Successive rows of a course are related if the rows of one step and the next are. -/
theorem isChain_course_rows
    (next : ∀ {s row t}, Inv s → scheme s = .ok (row, .next t) → Inv t)
    (related : ∀ {s row t row' verdict}, Inv s → scheme s = .ok (row, .next t) →
      scheme t = .ok (row', verdict) → R row row')
    (ceiling : Nat) {s : σ} (inv : Inv s) : (scheme.course ceiling s).rows.IsChain R := by
  induction ceiling generalizing s with
  | zero => simp
  | succ ceiling ih =>
    rcases h : scheme s with cause | ⟨row, outcome | t⟩
    · simp [course_of_error h]
    · simp [course_of_halt h]
    · rw [course_of_next h, Course.rows_cons, List.isChain_cons]
      refine ⟨fun row' hrow' => ?_, ih (next inv h)⟩
      obtain ⟨verdict, ht⟩ := head?_course_rows ceiling hrow'
      exact related inv h ht

end Rows

end Scheme

end RootFinding
