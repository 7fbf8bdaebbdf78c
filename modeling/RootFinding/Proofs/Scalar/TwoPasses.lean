import RootFinding.Proofs.Run.Outline
import RootFinding.Scalar.SimpleIteration

/-!
# The two passes of simple iteration

The outline of simple iteration has one pass, or two when the first one leaves the bracket. The
result is that of the last pass. A watched call follows this outline: an observer who asks to stop
in the first pass ends the call there, also when that pass would have left the bracket.
-/

namespace RootFinding.Scalar.SimpleIteration

variable {α τ : Type} [Number α]

section

variable (f : ScalarFunction α) (interval : Interval α) (precision : α) (limits : Limits α)

/-- The course of the pass with one coefficient. -/
def passCourse (coefficient : α) : Course (Row α) (Error α) (Outcome α) :=
  (scheme f interval precision coefficient).course limits.maxIters interval.left

/-- The outline of the call once the bracket is accepted and the coefficient is known. -/
def outlineFrom (coefficient : α) : Outline (Row α) (Error α) :=
  match (passCourse f interval precision limits coefficient).finish with
  | .halted _ (.escaped _) =>
    ⟨[(passCourse f interval precision limits coefficient).rows,
        (passCourse f interval precision limits (-coefficient)).rows],
      lastResult interval limits ((passCourse f interval precision limits (-coefficient)).ending 1)⟩
  | _ =>
    ⟨[(passCourse f interval precision limits coefficient).rows],
      lastResult interval limits ((passCourse f interval precision limits coefficient).ending 1)⟩

variable {f interval precision limits}

theorem outlineFrom_of_escaped {coefficient : α} {last : Row α} {x : α}
    (escaped : (passCourse f interval precision limits coefficient).finish =
      .halted last (.escaped x)) :
    outlineFrom f interval precision limits coefficient =
      ⟨[(passCourse f interval precision limits coefficient).rows,
          (passCourse f interval precision limits (-coefficient)).rows],
        lastResult interval limits
          ((passCourse f interval precision limits (-coefficient)).ending 1)⟩ := by
  simp only [outlineFrom, escaped]

theorem outlineFrom_of_not_escaped {coefficient : α}
    (inside : ∀ last x, (passCourse f interval precision limits coefficient).finish ≠
      .halted last (.escaped x)) :
    outlineFrom f interval precision limits coefficient =
      ⟨[(passCourse f interval precision limits coefficient).rows],
        lastResult interval limits
          ((passCourse f interval precision limits coefficient).ending 1)⟩ := by
  unfold outlineFrom
  split
  · next last x escaped => exact absurd escaped (inside last x)
  · rfl

variable (f interval precision limits) in
/-- However many passes there are, the last one makes the result, and at most one other precedes
it. -/
theorem outlineFrom_cases (coefficient : α) :
    ∃ done d, outlineFrom f interval precision limits coefficient =
        ⟨done ++ [(passCourse f interval precision limits d).rows],
          lastResult interval limits ((passCourse f interval precision limits d).ending 1)⟩ ∧
      done.length ≤ 1 ∧
      ∀ rows ∈ done, ∃ d', rows = (passCourse f interval precision limits d').rows := by
  by_cases escape : ∃ last x, (passCourse f interval precision limits coefficient).finish =
      .halted last (.escaped x)
  · obtain ⟨last, x, escaped⟩ := escape
    refine ⟨[(passCourse f interval precision limits coefficient).rows], -coefficient,
      outlineFrom_of_escaped escaped, le_rfl, ?_⟩
    exact List.forall_mem_singleton.2 ⟨coefficient, rfl⟩
  · push Not at escape
    exact ⟨[], coefficient, outlineFrom_of_not_escaped escape, Nat.zero_le 1, nofun⟩

end

/-- The outline of a call. -/
def outline (f : ScalarFunction α) (left right precision : α) (samples : Nat) (limits : Limits α) :
    Outline (Row α) (Error α) :=
  match start f left right precision samples limits with
  | .error cause => ⟨[], .error cause⟩
  | .ok (interval, coefficient) => outlineFrom f interval precision limits coefficient

section

variable [NumberText α] {f : ScalarFunction α} {left right precision : α} {samples : Nat}
  {limits : Limits α} {interval : Interval α} {coefficient : α} {o : Observer τ (Row α)}

/-- A first pass that leaves the bracket is followed by a second one with the other sign. -/
theorem solve_of_escaped
    (hstart : start f left right precision samples limits = .ok (interval, coefficient))
    {first second : Pass τ (Row α) (Error α) (Outcome α)}
    (hfirst : pass f interval precision limits coefficient o = first)
    (hsecond : pass f interval precision limits (-coefficient) first.observer = second)
    {trace : Trace (Row α)} {iters : Nat} {x : α}
    (escaped : first.ending = .halted trace iters (.escaped x)) :
    solve f left right precision samples limits o =
      { events := first.events ++ second.events
        log := first.log.toList ++ retryEntry interval x coefficient :: second.log.toList
        observer := second.observer
        result := lastResult interval limits second.ending } := by
  subst hfirst hsecond
  simp only [solve, hstart, escaped]

/-- Any other first pass is the only one. -/
theorem solve_of_not_escaped
    (hstart : start f left right precision samples limits = .ok (interval, coefficient))
    {first : Pass τ (Row α) (Error α) (Outcome α)}
    (hfirst : pass f interval precision limits coefficient o = first)
    (inside : ∀ trace iters x, first.ending ≠ .halted trace iters (.escaped x)) :
    solve f left right precision samples limits o =
      { events := first.events
        log := first.log.toList
        observer := first.observer
        result := lastResult interval limits first.ending } := by
  subst hfirst
  simp only [solve, hstart]

end

omit [Number α] in
/-- A course that does not finish with an escape does not end with one. -/
theorem ending_ne_escaped {c : Course (Row α) (Error α) (Outcome α)}
    (inside : ∀ last x, c.finish ≠ .halted last (.escaped x)) {first : Nat} (trace : Trace (Row α))
    (iters : Nat) (x : α) : c.ending first ≠ .halted trace iters (.escaped x) := by
  unfold Course.ending
  split
  · next last outcome h =>
    rw [Ne, Ending.halted.injEq]
    rintro ⟨-, -, rfl⟩
    exact inside _ _ h
  · simp
  · simp

/-- A call of simple iteration follows its outline. -/
theorem solve_follows [NumberText α] (f : ScalarFunction α) (left right precision : α)
    (samples : Nat) (limits : Limits α) (o : Observer τ (Row α)) :
    (outline f left right precision samples limits).Follows 1 o
      (solve f left right precision samples limits o) := by
  cases hstart : start f left right precision samples limits with
  | error cause =>
    rw [outline, solve, hstart]
    exact .whole trivial rfl rfl rfl
  | ok ready =>
    obtain ⟨interval, coefficient⟩ := ready
    -- a pass that is the last one follows its own course, whichever sign it has
    have single (c : α) (o : Observer τ (Row α)) (log : List Log.Entry) :=
      (scheme f interval precision c).run_follows o limits.maxIters 1 interval.left
        (lastResult interval limits) (fun _ _ => rfl) log
    rw [outline, hstart]
    dsimp only
    by_cases escape : ∃ last x, (passCourse f interval precision limits coefficient).finish =
        .halted last (.escaped x)
    · obtain ⟨last, x, escaped⟩ := escape
      rw [outlineFrom_of_escaped escaped]
      rcases (scheme f interval precision coefficient).run_cases o limits.maxIters 1 interval.left
        with ⟨passes, hfirst⟩ | ⟨before, row, rest, split, stops, hfirst⟩
      · have ending : ((passCourse f interval precision limits coefficient).shownTo o 1).ending =
            .halted ⟨(passCourse f interval precision limits coefficient).earlier.toArray, last⟩
              (1 + (passCourse f interval precision limits coefficient).earlier.length)
              (.escaped x) := by
          simp only [Course.shownTo, Course.ending, escaped]
        rw [solve_of_escaped hstart hfirst rfl ending]
        exact .cons passes (single (-coefficient) _ [])
          (by simp [Course.shownTo, Pass.events, Course.events, pass]) rfl rfl
      · rw [solve_of_not_escaped hstart hfirst (by simp [Pass.stoppedAt])]
        exact .broken [] [_] (congrArg (· :: [_]) split) stops rfl rfl rfl
    · push Not at escape
      rw [outlineFrom_of_not_escaped escape]
      have inside : ∀ trace iters x, (pass f interval precision limits coefficient o).ending ≠
          .halted trace iters (.escaped x) := by
        rw [pass]
        rcases (scheme f interval precision coefficient).run_cases o limits.maxIters 1 interval.left
          with ⟨-, hrun⟩ | ⟨before, row, rest, -, -, hrun⟩
        · rw [hrun]
          exact ending_ne_escaped escape
        · simp [hrun, Pass.stoppedAt]
      rw [solve_of_not_escaped hstart rfl inside]
      exact single coefficient o _

/-- A property of rows holds of all that a call shows if it holds of those of all iterations. -/
theorem forall_mem_rows_solve [NumberText α] {f : ScalarFunction α} {left right precision : α}
    {samples : Nat} {limits : Limits α} {o : Observer τ (Row α)} {P : Row α → Prop}
    (holds : ∀ {interval coefficient x row verdict},
      scheme f interval precision coefficient x = .ok (row, verdict) → P row) :
    ∀ row ∈ (solve f left right precision samples limits o).rows, P row := by
  intro row hrow
  have follows := solve_follows f left right precision samples limits o
  have offered := (List.IsPrefix.map Event.row follows.events_prefix).subset hrow
  rw [Outline.map_row_events, outline] at offered
  cases hstart : start f left right precision samples limits with
  | error cause =>
    rw [hstart] at offered
    cases offered
  | ok ready =>
    obtain ⟨interval, coefficient⟩ := ready
    have pass (c : α) : ∀ row ∈ (passCourse f interval precision limits c).rows, P row :=
      Scheme.forall_mem_course_rows (fun _ _ => trivial) (fun _ => holds) limits.maxIters trivial
    obtain ⟨done, d, outline_eq, -, earlier⟩ :=
      outlineFrom_cases f interval precision limits coefficient
    rw [hstart] at offered
    dsimp only at offered
    rw [outline_eq] at offered
    obtain ⟨rows, hrows, hrow⟩ := List.mem_flatten.1 offered
    rcases List.mem_append.1 hrows with hrows | hrows
    · obtain ⟨d', rfl⟩ := earlier rows hrows
      exact pass d' row hrow
    · rw [List.mem_singleton.1 hrows] at hrow
      exact pass d row hrow

end RootFinding.Scalar.SimpleIteration
