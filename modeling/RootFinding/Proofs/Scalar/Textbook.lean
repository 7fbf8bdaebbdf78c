import RootFinding.Proofs.Methods.Steps
import RootFinding.Proofs.Run.Recurrence

/-!
# The methods as they are written down

Bisection, the chord method, Newton's method and the secant method keep values of the function from
one iteration to the next. Here each of them is a `Recurrence` that keeps points only, and evaluates
the function wherever it needs a value. `rows_are_textbook` says that the calls show the rows of
these recurrences: a value that is kept is never out of date.

## Shape of the arguments

* What is kept is current in every state. For the two bracketing methods this is
  `Bracket.IsCurrent`, which a cut keeps (`Bracket.IsCurrent.cut`); for the secant method it is
  about the earlier one of two points. Newton's method keeps its point only.
* So each scheme computes its recurrence (`computes_textbook`), and a start that is accepted is the
  start of the recurrence (`begins_textbook`).
-/

namespace RootFinding.Scalar

open Number

variable {α : Type} [Number α] {f : ScalarFunction α} {left right precision : α} {limits : Limits α}

/-! ## Brackets without values -/

/-- The two ends of a bracket. -/
structure Ends (α : Type) where
  left : α
  right : α
deriving DecidableEq, Repr

/-- The part between the left end and `x` if the product of the values there is not positive, and
otherwise the part between `x` and the right end. -/
def Ends.cut (f : ScalarFunction α) (e : Ends α) (x : α) : Ends α :=
  if f.eval e.left * f.eval x ≤ zero then ⟨e.left, x⟩ else ⟨x, e.right⟩

namespace Bracket

omit [Number α] in
/-- The ends of a bracket, without the values. -/
def ends (b : Bracket α) : Ends α := ⟨b.left, b.right⟩

/-- The values of a bracket are those of the function at its ends. -/
structure IsCurrent (f : ScalarFunction α) (b : Bracket α) : Prop where
  left : b.fLeft = f.eval b.left
  right : b.fRight = f.eval b.right

/-- A bracket that is cut takes the value at the cut along with the point. -/
theorem IsCurrent.cut {b : Bracket α} (h : b.IsCurrent f) (x : α) :
    (b.cut x (f.eval x)).IsCurrent f ∧ (b.cut x (f.eval x)).ends = b.ends.cut f x := by
  by_cases chosen : b.fLeft * f.eval x ≤ zero
  · have chosen_ends : f.eval b.ends.left * f.eval x ≤ zero := h.left ▸ chosen
    rw [Bracket.cut, if_pos chosen, Ends.cut, if_pos chosen_ends]
    exact ⟨⟨h.left, rfl⟩, rfl⟩
  · have chosen_ends : ¬f.eval b.ends.left * f.eval x ≤ zero := h.left ▸ chosen
    rw [Bracket.cut, if_neg chosen, Ends.cut, if_neg chosen_ends]
    exact ⟨⟨rfl, h.right⟩, rfl⟩

/-- The bracket to start with is the one that was asked for, with the values at its ends. -/
theorem begins {b : Bracket α} (h : Bracket.of f left right precision = .ok b) :
    b.IsCurrent f ∧ b.ends = ⟨left, right⟩ := by
  obtain ⟨interval, fLeft, fRight, hinputs, hleft, hright, -, rfl⟩ := Bracket.of_eq_ok.1 h
  obtain ⟨-, rfl⟩ := Guard.value_eq_ok.1 hleft
  obtain ⟨-, rfl⟩ := Guard.value_eq_ok.1 hright
  obtain ⟨rfl, rfl⟩ := Interval.bounds_of_ofBounds (Guard.inputs_eq_ok.1 hinputs).1
  exact ⟨⟨rfl, rfl⟩, rfl⟩

end Bracket

/-! ## Bisection -/

namespace Bisection

/-- The point that lies half the distance from the left end to the right one further on. -/
def middle (e : Ends α) : α := e.left + (e.right - e.left) / two

/-- Bisection: a bracket is cut at its middle. -/
def textbook (f : ScalarFunction α) : Recurrence (Ends α) (Row α) where
  row e := ⟨e.left, e.right, middle e, f.eval e.left, f.eval e.right, f.eval (middle e),
    e.right - e.left⟩
  next e := e.cut f (middle e)

theorem computes_textbook :
    (scheme f precision).Computes (textbook f) (Bracket.IsCurrent f) Bracket.ends where
  row {s row verdict} current h := by
    obtain ⟨fX, hfX, rfl, -⟩ := scheme_eq_ok.1 h
    obtain ⟨-, rfl⟩ := Guard.value_eq_ok.1 hfX
    rw [current.left, current.right]
    rfl
  next {s row t} current h := by
    obtain ⟨fX, hfX, rfl, hverdict⟩ := scheme_eq_ok.1 h
    obtain ⟨-, rfl⟩ := Guard.value_eq_ok.1 hfX
    split at hverdict
    · cases hverdict
    · obtain rfl := Verdict.next.inj hverdict
      exact current.cut _

end Bisection

/-! ## The chord method -/

namespace Chord

/-- The ends of a bracket, and the crossing before. -/
structure Ends (α : Type) extends Scalar.Ends α where
  lastX : α
deriving DecidableEq, Repr

/-- The divisor of a bracket: the difference of the values at its ends. -/
def rise (f : ScalarFunction α) (e : Scalar.Ends α) : α := f.eval e.right - f.eval e.left

/-- The point where the straight line through the values at the ends crosses zero. -/
def crossing (f : ScalarFunction α) (e : Scalar.Ends α) : α :=
  (e.left * f.eval e.right - e.right * f.eval e.left) / rise f e

/-- The chord method: a bracket is cut at its crossing. -/
def textbook (f : ScalarFunction α) : Recurrence (Ends α) (Row α) where
  row e :=
    let x := crossing f e.toEnds
    ⟨e.left, e.right, x, f.eval e.left, f.eval e.right, f.eval x, abs (e.lastX - x)⟩
  next e := ⟨e.toEnds.cut f (crossing f e.toEnds), crossing f e.toEnds⟩

omit [Number α] in
/-- The points of a state, without the values. -/
def State.ends (s : State α) : Ends α := ⟨s.toBracket.ends, s.lastX⟩

theorem computes_textbook :
    (scheme f precision limits).Computes (textbook f) (fun s => s.toBracket.IsCurrent f)
      State.ends where
  row {s row verdict} current h := by
    obtain ⟨slope, fX, hslope, hfX, rfl, -⟩ := scheme_eq_ok.1 h
    obtain ⟨-, rfl⟩ := Guard.divisor_eq_ok.1 hslope
    obtain ⟨-, rfl⟩ := Guard.value_eq_ok.1 hfX
    rw [current.left, current.right]
    rfl
  next {s row t} current h := by
    obtain ⟨slope, fX, hslope, hfX, rfl, hverdict⟩ := scheme_eq_ok.1 h
    obtain ⟨-, rfl⟩ := Guard.divisor_eq_ok.1 hslope
    obtain ⟨-, rfl⟩ := Guard.value_eq_ok.1 hfX
    split at hverdict
    · cases hverdict
    · obtain rfl := Verdict.next.inj hverdict
      obtain ⟨current_cut, ends_cut⟩ := current.cut
        ((s.left * s.fRight - s.right * s.fLeft) / (s.fRight - s.fLeft))
      refine ⟨current_cut, ?_⟩
      rw [State.ends, ends_cut, current.left, current.right]
      rfl

/-- The left end of the first bracket stands for the crossing before. -/
theorem begins_textbook {s : State α} (h : start f left right precision = .ok s) :
    s.toBracket.IsCurrent f ∧ s.ends = ⟨⟨left, right⟩, left⟩ := by
  obtain ⟨b, hb, h⟩ := bind_eq_ok.1 h
  obtain rfl := Except.ok.inj h
  obtain ⟨current, ends_eq⟩ := Bracket.begins hb
  refine ⟨current, ?_⟩
  rw [State.ends, ends_eq]
  exact congrArg (Ends.mk _) (congrArg Scalar.Ends.left ends_eq)

end Chord

/-! ## Newton's method -/

/-- The end to start at: the left one if the value and the second derivative have a positive product
there, and otherwise the right one. -/
def startingPoint (f : ScalarFunction α) (left right : α) : α :=
  if zero < f.eval left * f.secondDerivative left then left else right

namespace Newton

/-- Newton's method: a point is followed by the point where the tangent crosses zero. -/
def textbook (f : ScalarFunction α) : Recurrence α (Row α) where
  row x :=
    let next := x - f.eval x / f.derivative x
    ⟨x, f.eval x, f.derivative x, next, abs (next - x)⟩
  next x := x - f.eval x / f.derivative x

theorem computes_textbook :
    (scheme f precision limits).Computes (textbook f) (fun _ => True) id where
  row {x row verdict} _ h := by
    obtain ⟨fX, slope, derivative, next, hfX, hslope, hderivative, hnext, rfl, -⟩ :=
      scheme_eq_ok.1 h
    obtain ⟨-, rfl⟩ := Guard.value_eq_ok.1 hfX
    obtain ⟨-, rfl⟩ := Guard.finite_eq_ok.1 hslope
    obtain ⟨-, rfl⟩ := Guard.divisor_eq_ok.1 hderivative
    obtain ⟨-, rfl⟩ := Guard.finite_eq_ok.1 hnext
    rfl
  next {x row t} _ h := by
    obtain ⟨fX, slope, derivative, next, hfX, hslope, hderivative, hnext, -, hverdict⟩ :=
      scheme_eq_ok.1 h
    obtain ⟨-, rfl⟩ := Guard.value_eq_ok.1 hfX
    obtain ⟨-, rfl⟩ := Guard.finite_eq_ok.1 hslope
    obtain ⟨-, rfl⟩ := Guard.divisor_eq_ok.1 hderivative
    obtain ⟨-, rfl⟩ := Guard.finite_eq_ok.1 hnext
    split at hverdict
    · cases hverdict
    · exact ⟨trivial, Verdict.next.inj hverdict⟩

end Newton

/-- The side that is chosen has the end to start at. -/
theorem endpoint_eq_startingPoint {interval : Interval α} {side : Guard.Side}
    (hinputs : Guard.inputs left right precision = .ok interval)
    (hside : Guard.startingSide f interval = .ok side) :
    side.endpoint interval = startingPoint f left right := by
  obtain ⟨rfl, rfl⟩ := Interval.bounds_of_ofBounds (Guard.inputs_eq_ok.1 hinputs).1
  obtain ⟨-, -, rfl⟩ := Guard.startingSide_eq_ok.1 hside
  rw [startingPoint]
  split
  · rfl
  · rfl

theorem Newton.begins_textbook {x : α} (h : Newton.start f left right precision = .ok x) :
    x = startingPoint f left right := by
  obtain ⟨interval, hinputs, h⟩ := bind_eq_ok.1 h
  obtain ⟨side, hside, h⟩ := bind_eq_ok.1 h
  obtain rfl := Except.ok.inj h
  exact endpoint_eq_startingPoint hinputs hside

/-! ## The secant method -/

namespace Secant

/-- The last two points. -/
structure Points (α : Type) where
  prev : α
  x : α
deriving DecidableEq, Repr

/-- The divisor of two points: the difference of the values there. -/
def rise (f : ScalarFunction α) (p : Points α) : α := f.eval p.x - f.eval p.prev

/-- The point where the straight line through the values at two points crosses zero. -/
def crossing (f : ScalarFunction α) (p : Points α) : α :=
  p.x - (p.x - p.prev) / rise f p * f.eval p.x

/-- The secant method: two points are followed by the later one of them and the crossing. -/
def textbook (f : ScalarFunction α) : Recurrence (Points α) (Row α) where
  row p :=
    let next := crossing f p
    ⟨p.prev, p.x, next, f.eval next, abs (next - p.x)⟩
  next p := ⟨p.x, crossing f p⟩

omit [Number α] in
/-- The points of a state, without the value. -/
def Pair.points (s : Pair α) : Points α := ⟨s.prev, s.x⟩

/-- The first two points: the end to start at, and a point that lies `offset` further inside. -/
def startingPoints (f : ScalarFunction α) (left right offset : α) : Points α :=
  if zero < f.eval left * f.secondDerivative left then ⟨left, left + offset⟩
  else ⟨right, right - offset⟩

theorem computes_textbook :
    (scheme f precision limits).Computes (textbook f) (fun s => s.fPrev = f.eval s.prev)
      Pair.points where
  row {s row verdict} current h := by
    obtain ⟨fX, slope, next, fNext, hfX, hslope, hnext, hfNext, rfl, -⟩ := scheme_eq_ok.1 h
    obtain ⟨-, rfl⟩ := Guard.value_eq_ok.1 hfX
    obtain ⟨-, rfl⟩ := Guard.divisor_eq_ok.1 hslope
    obtain ⟨-, rfl⟩ := Guard.finite_eq_ok.1 hnext
    obtain ⟨-, rfl⟩ := Guard.value_eq_ok.1 hfNext
    rw [current]
    rfl
  next {s row t} current h := by
    obtain ⟨fX, slope, next, fNext, hfX, hslope, hnext, hfNext, -, hverdict⟩ := scheme_eq_ok.1 h
    obtain ⟨-, rfl⟩ := Guard.value_eq_ok.1 hfX
    obtain ⟨-, rfl⟩ := Guard.divisor_eq_ok.1 hslope
    obtain ⟨-, rfl⟩ := Guard.finite_eq_ok.1 hnext
    split at hverdict
    · cases hverdict
    · obtain rfl := Verdict.next.inj hverdict
      rw [current]
      exact ⟨rfl, rfl⟩

theorem begins_textbook {offset : α} {s : Pair α}
    (h : start f left right precision offset = .ok s) :
    s.fPrev = f.eval s.prev ∧ s.points = startingPoints f left right offset := by
  obtain ⟨interval, hinputs, h⟩ := bind_eq_ok.1 h
  dsimp only at h
  split at h
  · cases h
  · obtain ⟨side, hside, h⟩ := bind_eq_ok.1 h
    obtain ⟨fPrev, hfPrev, h⟩ := bind_eq_ok.1 h
    obtain rfl := Except.ok.inj h
    obtain ⟨-, rfl⟩ := Guard.value_eq_ok.1 hfPrev
    obtain ⟨rfl, rfl⟩ := Interval.bounds_of_ofBounds (Guard.inputs_eq_ok.1 hinputs).1
    obtain ⟨-, -, rfl⟩ := Guard.startingSide_eq_ok.1 hside
    refine ⟨rfl, ?_⟩
    rw [startingPoints]
    split
    · rfl
    · rfl

end Secant

/-! ## Calls -/

/-- Whatever the function, the inputs and the observer, the rows that a call shows are the first
rows of the method as it is written down, with the function evaluated anew at each point. The first
bracket is the one that was asked for. -/
theorem rows_are_textbook {τ : Type} (f : ScalarFunction α) (left right precision offset : α)
    (limits : Limits α) :
    (∀ o : Observer τ (Bisection.Row α),
        (Bisection.solve f left right precision limits o).Unrolls (Bisection.textbook f)
          ⟨left, right⟩) ∧
      (∀ o : Observer τ (Chord.Row α),
        (Chord.solve f left right precision limits o).Unrolls (Chord.textbook f)
          ⟨⟨left, right⟩, left⟩) ∧
      (∀ o : Observer τ (Newton.Row α),
        (Newton.solve f left right precision limits o).Unrolls (Newton.textbook f)
          (startingPoint f left right)) ∧
      ∀ o : Observer τ (Secant.Row α),
        (Secant.solve f left right precision offset limits o).Unrolls (Secant.textbook f)
          (Secant.startingPoints f left right offset) := by
  refine ⟨?_, ?_, ?_, ?_⟩
  · exact fun o => Bisection.computes_textbook.call_unrolls Bracket.begins o _ _ _
  · exact fun o => Chord.computes_textbook.call_unrolls Chord.begins_textbook o _ _ _
  · exact fun o => Newton.computes_textbook.call_unrolls
      (fun h => ⟨trivial, Newton.begins_textbook h⟩) o _ _ _
  · exact fun o => Secant.computes_textbook.call_unrolls Secant.begins_textbook o _ _ _

end RootFinding.Scalar
