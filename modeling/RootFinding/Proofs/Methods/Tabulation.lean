import RootFinding.Proofs.Report.Csv
import RootFinding.Proofs.Report.PlainText
import RootFinding.Proofs.Systems.Squareness

/-!
# Traces as tables

The traces of all six methods are tables: all their rows have the same columns, and a cell for each.
For the scalar methods this is so by the kind of their rows. A row of the system solver has two
columns for each coordinate, and the rows of one trace have the same number of coordinates because
each has as many as there are unknowns.

So nothing is lost when a trace is written as delimited text (`csv_loses_nothing`). The comma is a
delimiter that may be used for every trace.
-/

namespace RootFinding

open Report.Csv

/-! ## Columns and cells -/

section Tables

variable {ρ α ω : Type} [TraceRow ρ α ω]

/-- A trace whose rows all have some names of columns. -/
structure HasColumns (names : List String) (trace : Trace ρ) : Prop where
  columns : ∀ r ∈ trace.rows, TraceRow.columns r = names
  cells : ∀ r ∈ trace.rows, (TraceRow.cells r).length = names.length
  complete : ∀ r ∈ trace.rows, TraceRow.cells? r = some (TraceRow.cells r)

variable {names : List String} {trace : Trace ρ}

theorem HasColumns.columns_eq (h : HasColumns names trace) : trace.columns = names := by
  have last : trace.last ∈ trace.rows := by simp [Trace.rows]
  exact h.columns trace.last last

/-- Such a trace is a table if there are names, without line breaks. -/
theorem HasColumns.isTable (h : HasColumns names trace) (nonempty : names ≠ [])
    (unbroken : ∀ name ∈ names, '\n' ∉ name.toList) : IsTable trace := by
  obtain rfl := h.columns_eq
  exact ⟨nonempty, unbroken, h.columns, h.cells, h.complete⟩

end Tables

section Double

variable {ρ ω : Type} [TraceRow ρ Float ω] {names : List String} {trace : Trace ρ}

/-- The texts of doubles fill their fields and hold no line breaks. -/
theorem isCell_plain (x : Float) :
    NumberText.plain x ≠ "" ∧ '\n' ∉ (NumberText.plain x).toList :=
  have plain := NumberText.isPlain_plain x
  ⟨plain.ne_empty, plain.not_mem (by decide) (by decide)⟩

/-- A comma separates doubles. -/
theorem comma_not_mem_plain (x : Float) : ',' ∉ (NumberText.plain x).toList :=
  (NumberText.isPlain_plain x).not_mem (by decide) (by decide)

/-- Nothing is lost of a trace of doubles, and its fields can be separated by commas, if the names
of its columns hold neither line breaks nor commas. -/
theorem HasColumns.isLossless (h : HasColumns names trace) (nonempty : names ≠ [])
    (free : ∀ name ∈ names, '\n' ∉ name.toList ∧ ',' ∉ name.toList) :
    IsLossless trace ∧ Separates ',' trace := by
  have table := h.isTable nonempty fun name hname => (free name hname).1
  refine ⟨table.isLossless isCell_plain, by decide, ?_, fun x _ => comma_not_mem_plain x⟩
  rw [h.columns_eq]
  exact fun name hname => (free name hname).2

end Double

/-! ## Rows of the scalar methods -/

namespace Scalar

variable {α : Type}

theorem Bisection.hasColumns (trace : Trace (Row α)) : HasColumns columns trace :=
  ⟨fun _ _ => rfl, fun _ _ => rfl, fun _ _ => rfl⟩

theorem Chord.hasColumns (trace : Trace (Row α)) : HasColumns columns trace :=
  ⟨fun _ _ => rfl, fun _ _ => rfl, fun _ _ => rfl⟩

theorem Newton.hasColumns (trace : Trace (Row α)) : HasColumns columns trace :=
  ⟨fun _ _ => rfl, fun _ _ => rfl, fun _ _ => rfl⟩

theorem Secant.hasColumns (trace : Trace (Row α)) : HasColumns columns trace :=
  ⟨fun _ _ => rfl, fun _ _ => rfl, fun _ _ => rfl⟩

theorem SimpleIteration.hasColumns (trace : Trace (Row α)) : HasColumns columns trace :=
  ⟨fun _ _ => rfl, fun _ _ => rfl, fun _ _ => rfl⟩

end Scalar

/-! ## Rows of the system solver -/

namespace Systems

/-- The names of the columns for a number of unknowns. -/
def columnNames (dimension : Nat) : List String := (List.range dimension).flatMap Row.columnPair

theorem length_columnNames (dimension : Nat) : (columnNames dimension).length = 2 * dimension := by
  simp [columnNames, Row.columnPair, List.length_flatMap, Nat.mul_comm]

theorem columnNames_ne_nil {dimension : Nat} (positive : 0 < dimension) :
    columnNames dimension ≠ [] := by
  intro none
  have length := length_columnNames dimension
  rw [none, List.length_nil] at length
  omega

/-- The names hold nothing but digits and the characters around them. -/
theorem not_mem_columnNames {dimension : Nat} {name : String} {c : Char}
    (hname : name ∈ columnNames dimension) (digit : c.isDigit = false)
    (around : c ∉ "x_".toList ∧ c ∉ "|x_".toList ∧ c ∉ "^k - x_".toList ∧ c ∉ "^(k-1)|".toList) :
    c ∉ name.toList := by
  obtain ⟨i, -, hname⟩ := List.mem_flatMap.1 hname
  have index : c ∉ (toString i).toList := fun mem =>
    nomatch digit.symm.trans (Decimal.isDigit_of_mem_toString mem)
  obtain ⟨value, change, power, before⟩ := around
  rcases List.mem_pair.1 hname with rfl | rfl
  · simp only [String.toList_append, List.mem_append, not_or]
    exact ⟨value, index⟩
  · simp only [String.toList_append, List.mem_append, not_or]
    exact ⟨⟨⟨⟨change, index⟩, power⟩, index⟩, before⟩

/-- Of a list of pairs, the entries with an even index are the first ones of the pairs. -/
theorem getElem?_flatMap_pair {β γ : Type} (f g : β → γ) (xs : List β) (i : Nat) :
    (xs.flatMap fun x => [f x, g x])[2 * i]? = xs[i]?.map f := by
  induction xs generalizing i with
  | nil => simp
  | cons x xs ih =>
    cases i with
    | zero => rfl
    | succ i =>
      rw [List.flatMap_cons, Nat.mul_succ]
      exact ih i

variable {α : Type} [Number α]

/-- The cells with an even index hold the coordinates. -/
theorem getElem?_cells_even (r : Row α) (i : Nat) :
    (TraceRow.cells r)[2 * i]? = r.values[i]?.map some := by
  have even := getElem?_flatMap_pair (fun entry : α × Nat => some entry.1)
    (fun entry => r.change? entry.2) r.values.zipIdx i
  rw [List.getElem?_zipIdx, Option.map_map] at even
  exact even

theorem length_cells (r : Row α) : (TraceRow.cells r).length = 2 * r.values.length := by
  show (r.values.zipIdx.flatMap fun entry => [some entry.1, r.change? entry.2]).length = _
  simp [List.length_flatMap, Nat.mul_comm]

namespace FixedPoint

/-- A trace of full rows has two columns for each unknown. -/
theorem hasColumns_of_isFull {system : EquationSystem α} {trace : Trace (Row α)}
    (full : ∀ r ∈ trace.rows, IsFull system r) :
    HasColumns (columnNames system.dimension) trace := by
  refine ⟨fun r hr => ?_, fun r hr => ?_, fun r hr => (full r hr).cells?_eq⟩
  · rw [← (full r hr).values]
    rfl
  · rw [length_columnNames, ← (full r hr).values, length_cells]

section Solve

variable {τ : Type} {system : EquationSystem Float} {intervals : List (Interval Float)}
  {point : Point Float} {precision : Float} {limits : Limits Float}
  {o : Observer τ (Row Float)} {solution : Solution (Row Float)}
  (h : (solve system intervals point precision limits o).result = .ok solution)

include h

theorem hasColumns_of_solve : HasColumns (columnNames system.dimension) solution.trace := by
  have rows_eq : solution.trace.rows =
      (solve system intervals point precision limits o).rows := Scheme.rows_trace_call h
  refine hasColumns_of_isFull ?_
  rw [rows_eq]
  exact fun r => isFull_of_mem_rows

/-- Nothing is lost of a trace of the system solver. -/
theorem solve_isLossless : IsLossless solution.trace ∧ Separates ',' solution.trace := by
  have positive : 0 < system.dimension := List.length_pos_of_ne_nil system.nonempty
  refine (hasColumns_of_solve h).isLossless (columnNames_ne_nil positive) ?_
  exact fun name hname => ⟨not_mem_columnNames hname (by decide) (by decide),
    not_mem_columnNames hname (by decide) (by decide)⟩

end Solve

end FixedPoint

end Systems

/-- The delimited text of a trace has lost nothing of its cells, and commas are fit to delimit them.
The last row of a system's trace has the answer in its even cells. -/
theorem csv_loses_nothing :
    (∀ trace : Trace (Scalar.Bisection.Row Float), IsLossless trace ∧ Separates ',' trace) ∧
      (∀ trace : Trace (Scalar.Chord.Row Float), IsLossless trace ∧ Separates ',' trace) ∧
      (∀ trace : Trace (Scalar.Newton.Row Float), IsLossless trace ∧ Separates ',' trace) ∧
      (∀ trace : Trace (Scalar.Secant.Row Float), IsLossless trace ∧ Separates ',' trace) ∧
      (∀ trace : Trace (Scalar.SimpleIteration.Row Float),
        IsLossless trace ∧ Separates ',' trace) ∧
      ∀ (τ : Type) (system : EquationSystem Float) (intervals : List (Interval Float))
        (point : Point Float) (precision : Float) (limits : Systems.Limits Float)
        (o : Observer τ (Systems.Row Float)) (solution : Solution (Systems.Row Float)),
        (Systems.FixedPoint.solve system intervals point precision limits o).result =
            .ok solution →
          (IsLossless solution.trace ∧ Separates ',' solution.trace) ∧
            (TraceRow.cells solution.trace.last).length =
              2 * (Systems.FixedPoint.extractAnswer solution.trace).length ∧
            ∀ i, (TraceRow.cells solution.trace.last)[2 * i]? =
              (Systems.FixedPoint.extractAnswer solution.trace)[i]?.map some := by
  refine ⟨?_, ?_, ?_, ?_, ?_, ?_⟩
  · exact fun trace => (Scalar.Bisection.hasColumns trace).isLossless (by decide) (by decide)
  · exact fun trace => (Scalar.Chord.hasColumns trace).isLossless (by decide) (by decide)
  · exact fun trace => (Scalar.Newton.hasColumns trace).isLossless (by decide) (by decide)
  · exact fun trace => (Scalar.Secant.hasColumns trace).isLossless (by decide) (by decide)
  · exact fun trace => (Scalar.SimpleIteration.hasColumns trace).isLossless (by decide) (by decide)
  · intro τ system intervals point precision limits o solution h
    exact ⟨Systems.FixedPoint.solve_isLossless h, Systems.length_cells _,
      Systems.getElem?_cells_even _⟩

end RootFinding
