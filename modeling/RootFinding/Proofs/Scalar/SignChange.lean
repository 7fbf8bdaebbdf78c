import RootFinding.Proofs.Double.Product
import RootFinding.Proofs.Methods.Steps
import RootFinding.Proofs.Run.Outline

/-!
# The sign change in the bracket

Bisection and the chord method keep a bracket at whose ends the function does not have one strict
sign. Which part of a bracket is kept is decided by a computed product of two values, and a product
of two small values of one sign is computed as zero (`Underflows`). The bracket that is then kept,
or accepted to begin with, has one strict sign at its ends.

`rows_keep_sign_change_iff` says that this is the only way to lose the sign change, for both
methods.

## Shape of the arguments

* `Values` is what the rows of both methods have in common. In a list of them, each one comes from
  the one before by the computed choice (`IsCutOf`), and `keeps_sign_change_iff` is a statement
  about such lists.
* `CutsBrackets` is what the iterations of both methods have in common. It gives such a list of
  values for every call (`call_keeps_sign_change_iff`).
-/

namespace RootFinding.Scalar

open Number Double

/-! ## Signs and products -/

/-- Two values have one strict sign. -/
def SameSign (a b : Float) : Prop := (zero < a ∧ zero < b) ∨ (a < zero ∧ b < zero)

instance (a b : Float) : Decidable (SameSign a b) := inferInstanceAs (Decidable (_ ∨ _))

/-- The exact product of two values is positive, and so small that the computed one is zero. -/
def Underflows (a b : Float) : Prop := 0 < value a * value b ∧ value a * value b ≤ halfLeast

section Signs

variable {a b c : Float}

/-- Values of one sign have a positive product, if it is not rounded. -/
theorem sameSign_iff (ha : a.isFinite = true) (hb : b.isFinite = true) :
    SameSign a b ↔ 0 < value a * value b := by
  rw [SameSign, zero_lt_iff ha, zero_lt_iff hb, lt_zero_iff ha, lt_zero_iff hb, mul_pos_iff]

theorem Underflows.sameSign (h : Underflows a b) (ha : a.isFinite = true)
    (hb : b.isFinite = true) : SameSign a b := (sameSign_iff ha hb).2 h.1

/-- Values whose computed product is not positive have no common sign, unless it underflows. -/
theorem not_sameSign_of_not_underflows (ha : a.isFinite = true) (hb : b.isFinite = true)
    (small : value a * value b ≤ halfLeast) (h : ¬Underflows a b) : ¬SameSign a b := by
  rw [sameSign_iff ha hb]
  exact fun positive => h ⟨positive, small⟩

/-- Of two values of one sign, a third one has the sign of both or of none. -/
theorem not_sameSign_of_mul_pos (ha : a.isFinite = true) (hb : b.isFinite = true)
    (hc : c.isFinite = true) (same : 0 < value a * value b) (h : ¬SameSign a c) :
    ¬SameSign b c := by
  rw [sameSign_iff ha hc, not_lt] at h
  rw [sameSign_iff hb hc]
  intro positive
  have product : value b ^ 2 * (value a * value c) = value a * value b * (value b * value c) := by
    ring
  have nonpositive := mul_nonpos_of_nonneg_of_nonpos (sq_nonneg (value b)) h
  rw [product] at nonpositive
  exact absurd (mul_pos same positive) (not_lt.2 nonpositive)

end Signs

/-! ## Lists of brackets -/

/-- The values that a row of a bracketing method shows: at the ends of the bracket, and between
them. -/
structure Values where
  fLeft : Float
  fRight : Float
  fX : Float

namespace Values

/-- All three values are finite. -/
structure IsFinite (v : Values) : Prop where
  left : v.fLeft.isFinite = true
  right : v.fRight.isFinite = true
  middle : v.fX.isFinite = true

/-- The bracket of `v'` is the part of the bracket of `v` that the computed product chooses. -/
def IsCutOf (v v' : Values) : Prop :=
  if v.fLeft * v.fX ≤ zero then v'.fLeft = v.fLeft ∧ v'.fRight = v.fX
  else v'.fLeft = v.fX ∧ v'.fRight = v.fRight

/-- A bracket that is cut keeps the sign change exactly if no product underflows. -/
theorem not_sameSign_cut_iff {v v' : Values} (finite : v.IsFinite) (cut : v.IsCutOf v')
    (h : ¬SameSign v.fLeft v.fRight) :
    ¬SameSign v'.fLeft v'.fRight ↔ ¬Underflows v.fLeft v.fX := by
  unfold IsCutOf at cut
  split at cut
  · next chosen =>
    -- the left part is chosen, rightly or because the product underflows
    rw [cut.1, cut.2]
    have small := (mul_le_zero_iff finite.left finite.middle).1 chosen
    exact ⟨fun h underflows => h (underflows.sameSign finite.left finite.middle),
      not_sameSign_of_not_underflows finite.left finite.middle small⟩
  · next chosen =>
    -- the product is positive as computed, so it is positive, and does not underflow
    rw [cut.1, cut.2]
    have large := (mul_le_zero_iff finite.left finite.middle).not.1 chosen
    have same := halfLeast_pos.trans (not_le.1 large)
    exact ⟨fun _ underflows => large underflows.2,
      fun _ => not_sameSign_of_mul_pos finite.left finite.middle finite.right same h⟩

/-- From a bracket with a sign change on, the sign change is kept exactly if no product underflows
that decides which part is kept. -/
theorem keeps_sign_change_from {v : Values} {vs : List Values} (finite : ∀ w ∈ v :: vs, w.IsFinite)
    (cuts : (v :: vs).IsChain IsCutOf) (h : ¬SameSign v.fLeft v.fRight) :
    (∀ w ∈ vs, ¬SameSign w.fLeft w.fRight) ↔
      (v :: vs).IsChain (fun w _ => ¬Underflows w.fLeft w.fX) := by
  induction vs generalizing v with
  | nil => simp
  | cons w vs ih =>
    rw [List.isChain_cons_cons] at cuts ⊢
    rw [List.forall_mem_cons, not_sameSign_cut_iff (finite v List.mem_cons_self) cuts.1 h]
    refine and_congr_right ?_
    intro kept
    refine ih (fun x hx => finite x (List.mem_cons_of_mem v hx)) cuts.2 ?_
    exact (not_sameSign_cut_iff (finite v List.mem_cons_self) cuts.1 h).2 kept

/-- Along brackets that are cut one after the other, the sign change is kept exactly if no product
underflows, neither that of the first ends nor any that decides which part is kept. -/
theorem keeps_sign_change_iff {vs : List Values} (finite : ∀ v ∈ vs, v.IsFinite)
    (accepted : ∀ v ∈ vs.head?, ¬zero < v.fLeft * v.fRight) (cuts : vs.IsChain IsCutOf) :
    (∀ v ∈ vs, ¬SameSign v.fLeft v.fRight) ↔
      (∀ v ∈ vs.head?, ¬Underflows v.fLeft v.fRight) ∧
        vs.IsChain (fun v _ => ¬Underflows v.fLeft v.fX) := by
  cases vs with
  | nil => simp
  | cons v vs =>
    have first := finite v List.mem_cons_self
    have small : value v.fLeft * value v.fRight ≤ halfLeast := by
      rw [← not_lt, ← zero_lt_mul_iff first.left first.right]
      exact accepted v rfl
    have head_iff : ¬SameSign v.fLeft v.fRight ↔ ¬Underflows v.fLeft v.fRight :=
      ⟨fun h underflows => h (underflows.sameSign first.left first.right),
        not_sameSign_of_not_underflows first.left first.right small⟩
    have head_forall : (∀ w ∈ (v :: vs).head?, ¬Underflows w.fLeft w.fRight) ↔
        ¬Underflows v.fLeft v.fRight := by simp
    rw [List.forall_mem_cons, head_forall, ← head_iff]
    exact and_congr_right (keeps_sign_change_from finite cuts)

end Values

/-! ## Calls -/

/-- Each iteration shows the values at the ends of its bracket and a finite one between them, and
goes on from a part of the bracket. -/
def CutsBrackets {σ ρ : Type} (scheme : Scheme σ ρ (Error Float) Unit) (bracket : σ → Bracket Float)
    (values : ρ → Values) : Prop :=
  ∀ {s row verdict}, scheme s = .ok (row, verdict) →
    (values row).fLeft = (bracket s).fLeft ∧ (values row).fRight = (bracket s).fRight ∧
      (values row).fX.isFinite = true ∧
      ∀ t, verdict = .next t → ∃ x, bracket t = (bracket s).cut x (values row).fX

section Calls

variable {σ ρ τ : Type} {scheme : Scheme σ ρ (Error Float) Unit} {bracket : σ → Bracket Float}
  {values : ρ → Values}

/-- Both values of a bracket are finite. -/
def HasFiniteEnds (b : Bracket Float) : Prop := b.fLeft.isFinite = true ∧ b.fRight.isFinite = true

theorem HasFiniteEnds.cut {b : Bracket Float} (h : HasFiniteEnds b) (x : Float) {fX : Float}
    (hfX : fX.isFinite = true) : HasFiniteEnds (b.cut x fX) := by
  unfold Bracket.cut
  split
  · exact ⟨h.1, hfX⟩
  · exact ⟨hfX, h.2⟩

theorem CutsBrackets.finite_next (cuts : CutsBrackets scheme bracket values) {s t : σ} {row : ρ}
    (ends : HasFiniteEnds (bracket s)) (h : scheme s = .ok (row, .next t)) :
    HasFiniteEnds (bracket t) := by
  obtain ⟨-, -, hfX, hnext⟩ := cuts h
  obtain ⟨x, hx⟩ := hnext t rfl
  rw [hx]
  exact ends.cut x hfX

theorem CutsBrackets.isFinite (cuts : CutsBrackets scheme bracket values) {s : σ} {row : ρ}
    {verdict : Verdict σ Unit} (ends : HasFiniteEnds (bracket s))
    (h : scheme s = .ok (row, verdict)) : (values row).IsFinite := by
  obtain ⟨hleft, hright, hfX, -⟩ := cuts h
  exact ⟨hleft ▸ ends.1, hright ▸ ends.2, hfX⟩

/-- The bracket of the next iteration is the part that the computed product chooses. -/
theorem CutsBrackets.isCutOf (cuts : CutsBrackets scheme bracket values) {s t : σ} {row row' : ρ}
    {verdict : Verdict σ Unit} (h : scheme s = .ok (row, .next t))
    (h' : scheme t = .ok (row', verdict)) : (values row).IsCutOf (values row') := by
  obtain ⟨hleft, hright, -, hnext⟩ := cuts h
  obtain ⟨x, hx⟩ := hnext t rfl
  obtain ⟨hleft', hright', -, -⟩ := cuts h'
  rw [Values.IsCutOf, hleft', hright', hx, hleft, hright, Bracket.cut]
  split
  · exact ⟨rfl, rfl⟩
  · exact ⟨rfl, rfl⟩

/-- A call keeps the sign change in its rows exactly if no product underflows. -/
theorem call_keeps_sign_change_iff (cuts : CutsBrackets scheme bracket values)
    {start : Except (Error Float) σ}
    (accepted : ∀ {s}, start = .ok s →
      HasFiniteEnds (bracket s) ∧ ¬zero < (bracket s).fLeft * (bracket s).fRight)
    (o : Observer τ ρ) (ceiling first : Nat) (exhausted : Error Float)
    {run : Run τ ρ (Error Float)} (hrun : scheme.call o ceiling first exhausted start = run) :
    (∀ r ∈ run.rows, ¬SameSign (values r).fLeft (values r).fRight) ↔
      (∀ r ∈ run.rows.head?, ¬Underflows (values r).fLeft (values r).fRight) ∧
        run.rows.IsChain (fun r _ => ¬Underflows (values r).fLeft (values r).fX) := by
  subst hrun
  cases hstart : start with
  | error cause => simp [Scheme.rows_call_of_error]
  | ok s =>
    obtain ⟨ends, hsign⟩ := accepted hstart
    have offered : (scheme.call o ceiling first exhausted (.ok s)).rows <+:
        (scheme.course ceiling s).rows := Scheme.rows_call_prefix rfl
    generalize (scheme.call o ceiling first exhausted (.ok s)).rows = rows at offered ⊢
    have finite : ∀ v ∈ rows.map values, v.IsFinite := by
      refine List.forall_mem_map.2 ?_
      intro r hr
      exact Scheme.forall_mem_course_rows cuts.finite_next cuts.isFinite ceiling ends r
        (offered.subset hr)
    have chain : (rows.map values).IsChain Values.IsCutOf := by
      rw [List.isChain_map]
      have course_chain := Scheme.isChain_course_rows (fun _ _ => trivial) (fun _ => cuts.isCutOf)
        ceiling (s := s) trivial
      exact course_chain.prefix offered
    have first : ∀ v ∈ (rows.map values).head?, ¬zero < v.fLeft * v.fRight := by
      rw [List.head?_map]
      rintro v hv
      obtain ⟨r, hr, rfl⟩ := Option.mem_map.1 hv
      obtain ⟨rest, hrest⟩ := offered
      have course_head := hrest ▸ List.mem_head?_append_of_mem_head? hr
      obtain ⟨verdict, h⟩ := Scheme.head?_course_rows ceiling course_head
      obtain ⟨hleft, hright, -, -⟩ := cuts h
      rw [hleft, hright]
      exact hsign
    simpa [List.isChain_map] using Values.keeps_sign_change_iff finite first chain

end Calls

/-! ## The two methods -/

section Methods

variable {f : ScalarFunction Float} {precision : Float}

theorem Bisection.cutsBrackets :
    CutsBrackets (Bisection.scheme f precision) id (fun r => ⟨r.fLeft, r.fRight, r.fX⟩) := by
  intro s row verdict h
  obtain ⟨fX, hfX, rfl, hverdict⟩ := Bisection.scheme_eq_ok.1 h
  obtain ⟨finite, rfl⟩ := Guard.value_eq_ok.1 hfX
  refine ⟨rfl, rfl, finite, ?_⟩
  intro t ht
  rw [ht] at hverdict
  split at hverdict
  · cases hverdict
  · exact ⟨_, Verdict.next.inj hverdict⟩

theorem Chord.cutsBrackets {limits : Limits Float} :
    CutsBrackets (Chord.scheme f precision limits) Chord.State.toBracket
      (fun r => ⟨r.fLeft, r.fRight, r.fX⟩) := by
  intro s row verdict h
  obtain ⟨slope, fX, -, hfX, rfl, hverdict⟩ := Chord.scheme_eq_ok.1 h
  obtain ⟨finite, rfl⟩ := Guard.value_eq_ok.1 hfX
  refine ⟨rfl, rfl, finite, ?_⟩
  intro t ht
  rw [ht] at hverdict
  split at hverdict
  · cases hverdict
  · exact ⟨_, congrArg Chord.State.toBracket (Verdict.next.inj hverdict)⟩

/-- An accepted bracket has finite values at its ends, whose computed product is not positive. -/
theorem Bracket.accepted_of {left right : Float} {b : Bracket Float}
    (h : Bracket.of f left right precision = .ok b) :
    HasFiniteEnds b ∧ ¬zero < b.fLeft * b.fRight := by
  obtain ⟨interval, fLeft, fRight, -, hleft, hright, hsign, rfl⟩ := Bracket.of_eq_ok.1 h
  obtain ⟨finite_left, rfl⟩ := Guard.value_eq_ok.1 hleft
  obtain ⟨finite_right, rfl⟩ := Guard.value_eq_ok.1 hright
  exact ⟨⟨finite_left, finite_right⟩, hsign⟩

end Methods

/-- The bracketing methods keep the sign change in every row exactly if no product underflows:
neither the product of the values at the ends of the first bracket, nor a product that decides which
part of a bracket is kept. -/
theorem rows_keep_sign_change_iff {τ : Type} (f : ScalarFunction Float)
    (left right precision : Float) (limits : Limits Float) :
    (∀ o : Observer τ (Bisection.Row Float),
        (∀ r ∈ (Bisection.solve f left right precision limits o).rows,
          ¬SameSign r.fLeft r.fRight) ↔
        (∀ r ∈ (Bisection.solve f left right precision limits o).rows.head?,
          ¬Underflows r.fLeft r.fRight) ∧
        (Bisection.solve f left right precision limits o).rows.IsChain
          (fun r _ => ¬Underflows r.fLeft r.fX)) ∧
      ∀ o : Observer τ (Chord.Row Float),
        (∀ r ∈ (Chord.solve f left right precision limits o).rows,
          ¬SameSign r.fLeft r.fRight) ↔
        (∀ r ∈ (Chord.solve f left right precision limits o).rows.head?,
          ¬Underflows r.fLeft r.fRight) ∧
        (Chord.solve f left right precision limits o).rows.IsChain
          (fun r _ => ¬Underflows r.fLeft r.fX) := by
  constructor
  · intro o
    exact call_keeps_sign_change_iff Bisection.cutsBrackets Bracket.accepted_of o _ _ _ rfl
  · intro o
    refine call_keeps_sign_change_iff Chord.cutsBrackets ?_ o _ _ _ rfl
    intro s hstart
    obtain ⟨b, hb, h⟩ := bind_eq_ok.1 hstart
    obtain rfl := Except.ok.inj h
    exact Bracket.accepted_of hb

/-- A function that changes its sign between zero and one, with small values. -/
def smallLine : ScalarFunction Float where
  label := "1e-200 * (x - 0.7)"
  eval x := 1e-200 * (x - 0.7)

/-- Bisection keeps a bracket of `smallLine` at both of whose ends the values are negative: that is
the second row, and an observer that stops there gets it in the trace. -/
theorem bisection_loses_sign_change :
    ∃ limits : Limits Float, limits.maxIters = Limits.defaultMaxIters ∧
      ∃ r ∈ (Bisection.solve smallLine 0 1 1e-210 limits (.stopAt 2)).rows,
        SameSign r.fLeft r.fRight := by
  refine ⟨⟨10000, 1e-12, by decide, by decide, by decide⟩, rfl, ?_⟩
  decide +kernel

end RootFinding.Scalar
