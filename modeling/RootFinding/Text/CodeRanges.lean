/-!
# Ranges of character codes

A property of characters that a standard tabulates is a list of closed ranges of codes. The ranges
of a `CodeRanges` ascend and do not touch, so a search may stop at the first range that begins above
the code it looks for. Main statement: `CodeRanges.contains_iff`, which says that stopping there
loses nothing.
-/

namespace RootFinding.Text

/-- Whether the ranges begin at `low` or above, ascend, and leave a code between each two. -/
def ascendFrom (low : Nat) : List (Nat × Nat) → Bool
  | [] => true
  | (first, last) :: rest =>
    decide (low ≤ first) && decide (first ≤ last) && ascendFrom (last + 2) rest

/-- Closed ranges of codes, ascending and apart. -/
structure CodeRanges where
  ranges : List (Nat × Nat)
  ascending : ascendFrom 0 ranges = true := by decide +kernel

/-- Whether a code lies in one of the ranges, for ranges that ascend. -/
def searchRanges (code : Nat) : List (Nat × Nat) → Bool
  | [] => false
  | (first, last) :: rest =>
    if code < first then false else if code ≤ last then true else searchRanges code rest

/-- Whether a code lies in one of the ranges. -/
def CodeRanges.contains (r : CodeRanges) (code : Nat) : Bool := searchRanges code r.ranges

/-- How many codes the ranges hold. -/
def CodeRanges.count (r : CodeRanges) : Nat :=
  r.ranges.foldl (fun total range => total + (range.2 + 1 - range.1)) 0

theorem le_first_of_ascendFrom {low : Nat} {ranges : List (Nat × Nat)}
    (h : ascendFrom low ranges = true) : ∀ range ∈ ranges, low ≤ range.1 := by
  induction ranges generalizing low with
  | nil => simp
  | cons head rest ih =>
    obtain ⟨first, last⟩ := head
    simp only [ascendFrom, Bool.and_eq_true, decide_eq_true_eq] at h
    intro range hr
    rcases List.mem_cons.1 hr with rfl | hr
    · exact h.1.1
    · have := ih h.2 range hr
      omega

theorem searchRanges_iff {low code : Nat} {ranges : List (Nat × Nat)}
    (h : ascendFrom low ranges = true) :
    searchRanges code ranges = true ↔ ∃ range ∈ ranges, range.1 ≤ code ∧ code ≤ range.2 := by
  induction ranges generalizing low with
  | nil => simp [searchRanges]
  | cons head rest ih =>
    obtain ⟨first, last⟩ := head
    simp only [ascendFrom, Bool.and_eq_true, decide_eq_true_eq] at h
    have above := le_first_of_ascendFrom h.2
    simp only [searchRanges, List.mem_cons, exists_eq_or_imp]
    split
    · refine ⟨fun hf => by simp at hf, ?_⟩
      rintro (hc | ⟨range, hr, hc⟩)
      · omega
      · have := above range hr
        omega
    · split
      · exact ⟨fun _ => .inl ⟨by omega, by omega⟩, fun _ => rfl⟩
      · rw [ih h.2]
        exact ⟨.inr, fun hc => hc.resolve_left (by omega)⟩

/-- A code is found exactly if one of the ranges holds it. -/
theorem CodeRanges.contains_iff (r : CodeRanges) (code : Nat) :
    r.contains code = true ↔ ∃ range ∈ r.ranges, range.1 ≤ code ∧ code ≤ range.2 :=
  searchRanges_iff r.ascending

end RootFinding.Text
