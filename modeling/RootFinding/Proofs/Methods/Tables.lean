import Mathlib.Data.Nat.Digits.Defs
import RootFinding.Proofs.Methods.Tabulation
import RootFinding.Proofs.Methods.Tightening
import RootFinding.Proofs.Report.FixedText
import RootFinding.Proofs.Report.Table
import RootFinding.Proofs.Scalar.Finiteness

/-!
# The traces of all methods as text tables

Whatever a method returns, in whatever format, its table shows it: the lines have the same length,
and each shows the cells of its row in their columns (`tables_are_faithful`). There is a table if no
text is too long for it, and not too many decimal places are asked for.

The second condition says something only for cells that are not finite. All decimal places of a
finite number are written, so its text is too long if there are too many of them. Each trace has a
finite number in it, since a method checks the values of its function, and the points of the system
solver lie in the box. So if all cells of a trace have short texts, there is a table
(`Tabulates.fits`).
-/

namespace RootFinding

open Report Report.Csv

/-! ## Traces of doubles -/

/-- One of the cells of the row is a finite number. -/
def HasFinite {ρ ω : Type} [TraceRow ρ Float ω] (row : ρ) : Prop :=
  ∃ x, some x ∈ TraceRow.cells row ∧ x.isFinite = true

/-- What is true of the table of a trace. -/
structure Tabulates {ρ ω : Type} [TraceRow ρ Float ω] (format : TableFormat) (trace : Trace ρ) :
    Prop where
  /-- There is a table exactly if it fits. -/
  exists_iff : (∃ text, table? format trace = some text) ↔ Fits format trace
  /-- The table shows the trace. -/
  shows : ∀ {text}, table? format trace = some text →
    ∃ indices header body widths, IsTableText format trace indices header body widths text
  /-- It fits if no cell has a longer text than a column may be wide. The numbers of rows and
  columns are those of a machine. -/
  fits : trace.size ≤ 2 ^ 64 → trace.columns.length ≤ 2 ^ 64 →
    (∀ row ∈ trace.rows, ∀ cell ∈ TraceRow.cells row, ∀ text,
      IsCellText format.decimals cell text → text.length ≤ maxFieldWidth) → Fits format trace

theorem length_toString_le {n : Nat} (h : n ≤ 2 ^ 64) : (toString n).length ≤ 20 :=
  Nat.repr_length n 20 (by decide) (by omega)

section Doubles

variable {ρ ω : Type} [TraceRow ρ Float ω] {names : List String} {trace : Trace ρ}

/-- Short cells fit, if the names of the columns are short too. -/
theorem fits_of_cells (table : IsTable trace)
    (short : ∀ name ∈ trace.columns, name.length ≤ maxFieldWidth)
    (finite : ∃ row ∈ trace.rows, HasFinite row) {format : TableFormat}
    (size : trace.size ≤ 2 ^ 64)
    (cells : ∀ row ∈ trace.rows, ∀ cell ∈ TraceRow.cells row, ∀ text,
      IsCellText format.decimals cell text → text.length ≤ maxFieldWidth) :
    Fits format trace := by
  refine ⟨fun _ _ _ _ => ?_, fun line hline text htext => ?_⟩
  · obtain ⟨row, hrow, x, hx, finite⟩ := finite
    exact (NumberText.places_le_length_fixed format.decimals finite).trans
      (cells row hrow _ hx _ (.number x))
  · rcases mem_lines_cases table hline htext with
      rfl | name | ⟨k, hk, rfl⟩ | ⟨row, hrow, cell, hcell, rfl⟩
    · decide
    · exact short text name
    · exact (length_toString_le (hk.le.trans size)).trans (by decide)
    · exact cells row hrow cell hcell _ (isCellText_cellText format cell)

/-- A trace with columns and a finite number is tabulated. -/
theorem HasColumns.tabulates (h : HasColumns names trace) (nonempty : names ≠ [])
    (unbroken : ∀ name ∈ names, '\n' ∉ name.toList)
    (short : names.length ≤ 2 ^ 64 → ∀ name ∈ names, name.length ≤ maxFieldWidth)
    (finite : ∃ row ∈ trace.rows, HasFinite row) (format : TableFormat) :
    Tabulates format trace := by
  have table := h.isTable nonempty unbroken
  refine ⟨⟨?_, ?_⟩, ?_, ?_⟩
  · rintro ⟨text, htext⟩
    exact ((table?_eq_some_iff table).1 htext).1
  · exact fun fits => ⟨_, (table?_eq_some_iff table).2 ⟨fits, rfl⟩⟩
  · intro text htext
    exact ⟨_, _, _, _, isTableText_of_eq_some table
      (NumberText.lineBreak_not_mem_fixed format.decimals) htext⟩
  · intro size columns cells
    rw [h.columns_eq] at columns
    exact fits_of_cells table (h.columns_eq ▸ short columns) finite size cells

end Doubles

/-- If each iteration records a finite number, there is one in the trace. -/
theorem Scheme.exists_hasFinite {σ τ ρ ε ω : Type} [TraceRow ρ Float ω]
    {scheme : Scheme σ ρ ε Unit} {o : Observer τ ρ} {ceiling first : Nat} {exhausted : ε}
    {start : Except ε σ} {solution : Solution ρ}
    (records : ∀ {s row verdict}, scheme s = .ok (row, verdict) → HasFinite row)
    (h : (scheme.call o ceiling first exhausted start).result = .ok solution) :
    ∃ row ∈ solution.trace.rows, HasFinite row := by
  have last : solution.trace.last ∈ solution.trace.rows := by simp [Trace.rows]
  refine ⟨_, last, ?_⟩
  rw [Scheme.rows_trace_call h] at last
  exact Scheme.forall_mem_rows_call (fun _ => trivial) (fun _ _ => trivial) (fun _ => records)
    _ last

/-! ## Rows with finite numbers -/

namespace Scalar

variable {f : ScalarFunction Float} {precision : Float} {limits : Limits Float}

theorem Bisection.records_finite {s : Bracket Float} {row : Bisection.Row Float}
    {verdict : Verdict (Bracket Float) Unit}
    (h : Bisection.scheme f precision s = .ok (row, verdict)) : HasFinite row := by
  obtain ⟨fX, hfX, rfl, -⟩ := Bisection.scheme_eq_ok.1 h
  obtain ⟨finite, rfl⟩ := Guard.value_eq_ok.1 hfX
  exact ⟨_, List.mem_map_of_mem (by simp), finite⟩

theorem Chord.records_finite {s : Chord.State Float} {row : Chord.Row Float}
    {verdict : Verdict (Chord.State Float) Unit}
    (h : Chord.scheme f precision limits s = .ok (row, verdict)) : HasFinite row := by
  obtain ⟨slope, fX, -, hfX, rfl, -⟩ := Chord.scheme_eq_ok.1 h
  obtain ⟨finite, rfl⟩ := Guard.value_eq_ok.1 hfX
  exact ⟨_, List.mem_map_of_mem (by simp), finite⟩

theorem Newton.records_finite {x : Float} {row : Newton.Row Float} {verdict : Verdict Float Unit}
    (h : Newton.scheme f precision limits x = .ok (row, verdict)) : HasFinite row :=
  ⟨_, List.mem_map_of_mem (by simp), (Newton.isGuarded.finite h).x⟩

theorem Secant.records_finite {s : Secant.Pair Float} {row : Secant.Row Float}
    {verdict : Verdict (Secant.Pair Float) Unit}
    (h : Secant.scheme f precision limits s = .ok (row, verdict)) : HasFinite row :=
  ⟨_, List.mem_map_of_mem (by simp), (Secant.isGuarded.finite h).x⟩

theorem SimpleIteration.exists_hasFinite {τ : Type} {left right : Float} {samples : Nat}
    {o : Observer τ (SimpleIteration.Row Float)} {solution : Solution (SimpleIteration.Row Float)}
    (h : (SimpleIteration.solve f left right precision samples limits o).result = .ok solution) :
    ∃ row ∈ solution.trace.rows, HasFinite row := by
  have accounts := accounts_of_follows
    (SimpleIteration.outline_accounts f left right precision samples limits)
    (SimpleIteration.solve_follows f left right precision samples limits o)
  have finite := (SimpleIteration.solve_reportsUnfit f left right precision samples limits o).rows
    _ (accounts.last_mem h)
  exact ⟨solution.trace.last, by simp [Trace.rows], _, List.mem_map_of_mem (by simp), finite.x⟩

end Scalar

namespace Systems.FixedPoint

variable {τ : Type} {system : EquationSystem Float} {intervals : List (Interval Float)}
  {point : Point Float} {precision : Float} {limits : Limits Float}
  {o : Observer τ (Row Float)} {solution : Solution (Row Float)}

/-- The names of so many columns are short. -/
theorem length_le_of_mem_columnNames {dimension : Nat}
    (few : (columnNames dimension).length ≤ 2 ^ 64) :
    ∀ name ∈ columnNames dimension, name.length ≤ Report.maxFieldWidth := by
  intro name hname
  obtain ⟨i, hi, hname⟩ := List.mem_flatMap.1 hname
  rw [length_columnNames] at few
  have hi := List.mem_range.1 hi
  have index : (toString i).length ≤ 20 := length_toString_le (by omega)
  have most : maxFieldWidth = 65535 := rfl
  have around : "x_".length = 2 ∧ "|x_".length = 3 ∧ "^k - x_".length = 7 ∧ "^(k-1)|".length = 7 :=
    ⟨rfl, rfl, rfl, rfl⟩
  rcases List.mem_pair.1 hname with rfl | rfl
  · simp only [String.length_append]
    omega
  · simp only [String.length_append]
    omega

/-- The last point lies in the box, so its first coordinate is finite. -/
theorem exists_hasFinite
    (h : (solve system intervals point precision limits o).result = .ok solution) :
    ∃ row ∈ solution.trace.rows, HasFinite row := by
  have last : solution.trace.last ∈ solution.trace.rows := by simp [Trace.rows]
  have orbit := solve_tracesOrbit system intervals point precision limits o
  have box := orbit.inBox _ (orbit.trace h ▸ last)
  have dimension : 0 < solution.trace.last.values.length := by
    rw [box.length]
    exact List.length_pos_of_ne_nil system.nonempty
  have first := List.getElem?_eq_getElem dimension
  have cell := getElem?_cells_even solution.trace.last 0
  rw [first] at cell
  exact ⟨_, last, _, List.mem_of_getElem? cell,
    isFinite_of_inBox box _ (List.getElem_mem dimension)⟩

theorem tabulates (format : TableFormat)
    (h : (solve system intervals point precision limits o).result = .ok solution) :
    Tabulates format solution.trace := by
  have dimension : 0 < system.dimension := List.length_pos_of_ne_nil system.nonempty
  refine (hasColumns_of_solve h).tabulates (columnNames_ne_nil dimension) ?_
    length_le_of_mem_columnNames (exists_hasFinite h) format
  exact fun name hname => not_mem_columnNames hname (by decide) (by decide)

end Systems.FixedPoint

/-- The tables of whatever a method returns are rectangular and show it. -/
theorem tables_are_faithful (format : TableFormat) (τ : Type) (f : ScalarFunction Float)
    (left right precision offset : Float) (samples : Nat) (limits : Scalar.Limits Float)
    (system : EquationSystem Float) (intervals : List (Interval Float)) (point : Point Float)
    (bounds : Systems.Limits Float) :
    (∀ (o : Observer τ (Scalar.Bisection.Row Float)) (solution : Solution _),
        (Scalar.Bisection.solve f left right precision limits o).result = .ok solution →
          Tabulates format solution.trace) ∧
      (∀ (o : Observer τ (Scalar.Chord.Row Float)) (solution : Solution _),
        (Scalar.Chord.solve f left right precision limits o).result = .ok solution →
          Tabulates format solution.trace) ∧
      (∀ (o : Observer τ (Scalar.Newton.Row Float)) (solution : Solution _),
        (Scalar.Newton.solve f left right precision limits o).result = .ok solution →
          Tabulates format solution.trace) ∧
      (∀ (o : Observer τ (Scalar.Secant.Row Float)) (solution : Solution _),
        (Scalar.Secant.solve f left right precision offset limits o).result = .ok solution →
          Tabulates format solution.trace) ∧
      (∀ (o : Observer τ (Scalar.SimpleIteration.Row Float)) (solution : Solution _),
        (Scalar.SimpleIteration.solve f left right precision samples limits o).result =
            .ok solution →
          Tabulates format solution.trace) ∧
      ∀ (o : Observer τ (Systems.Row Float)) (solution : Solution _),
        (Systems.FixedPoint.solve system intervals point precision bounds o).result =
            .ok solution →
          Tabulates format solution.trace := by
  refine ⟨?_, ?_, ?_, ?_, ?_, ?_⟩
  · intro o solution h
    exact (Scalar.Bisection.hasColumns solution.trace).tabulates (by decide) (by decide)
      (fun _ => by decide) (Scheme.exists_hasFinite Scalar.Bisection.records_finite h) format
  · intro o solution h
    exact (Scalar.Chord.hasColumns solution.trace).tabulates (by decide) (by decide)
      (fun _ => by decide) (Scheme.exists_hasFinite Scalar.Chord.records_finite h) format
  · intro o solution h
    exact (Scalar.Newton.hasColumns solution.trace).tabulates (by decide) (by decide)
      (fun _ => by decide) (Scheme.exists_hasFinite Scalar.Newton.records_finite h) format
  · intro o solution h
    exact (Scalar.Secant.hasColumns solution.trace).tabulates (by decide) (by decide)
      (fun _ => by decide) (Scheme.exists_hasFinite Scalar.Secant.records_finite h) format
  · intro o solution h
    exact (Scalar.SimpleIteration.hasColumns solution.trace).tabulates (by decide) (by decide)
      (fun _ => by decide) (Scalar.SimpleIteration.exists_hasFinite h) format
  · exact fun o solution h => Systems.FixedPoint.tabulates format h

/-- The trace of a system with one unknown, numbered, with its columns in the other order. The index
that is in no range shows nothing, and the start point has no change. -/
theorem halving_tabulated : ∃ (format : TableFormat) (bounds : Systems.Limits Float)
    (solution : Solution (Systems.Row Float)),
    (Systems.FixedPoint.solve halving [aroundZero] [0.25] 0.125 bounds .silent).result =
        .ok solution ∧
      Tabulates format solution.trace ∧ format.columns = some [1, 7, 0] ∧
      table? format solution.trace =
        some ("k  |x_0^k - x_0^(k-1)|   x_0\n" ++
          "0                    -  0.25\n" ++
          "1                 0.12  0.12") := by
  let format : TableFormat := ⟨2, true, some [1, 7, 0]⟩
  let bounds : Systems.Limits Float := ⟨10, 0.1, by decide, by decide, by decide⟩
  have solved : ((Systems.FixedPoint.solve halving [aroundZero] [0.25] 0.125 bounds
      .silent).result.toOption.map fun s => table? format s.trace) =
        some (some ("k  |x_0^k - x_0^(k-1)|   x_0\n" ++
          "0                    -  0.25\n" ++
          "1                 0.12  0.12")) := by decide +kernel
  obtain ⟨solution, h, shown⟩ := exists_ok_of_map_eq_some solved
  obtain ⟨-, -, -, -, -, system⟩ := tables_are_faithful format Unit parabola 0 2 0.125 0.1 1
    ⟨10, 1e-12, by decide, by decide, by decide⟩ halving [aroundZero] [0.25] bounds
  exact ⟨format, bounds, solution, h, system .silent solution h, rfl, shown⟩

end RootFinding
