import Mathlib.Data.List.ReduceOption
import RootFinding.Report.Csv

/-!
# Reading delimited text back

The text of a trace is read back by splitting it at its line breaks, and each line at the delimiter.
This gives the names of the columns and the fields of all rows, if the delimiter is none of their
characters (`records_text`). A missing cell leaves an empty field and a number never does, so the
cells can be told from the text (`cells_eq_of_text_eq`).

## Shape of the arguments

* Splitting at a character undoes putting it between texts that do not contain it
  (`pieces_intercalate`), also where the first or the last of them is empty. There has to be at
  least one text: no text and one empty text look the same. This is why a table must have columns.
* Lines that are each ended by a line break are texts with line breaks between them, the last of
  which is empty (`join_eq_intercalate`).
-/

namespace RootFinding.Report.Csv

/-! ## Lines and their pieces -/

/-- The pieces of a text between the occurrences of a character. -/
def pieces (c : Char) (s : String) : List String := (s.split c).toList.map (·.copy)

/-- The lines of a text, each of which is ended by a line break. -/
def lines (s : String) : List String := (pieces '\n' s).dropLast

/-- The pieces of all lines. -/
def records (delimiter : Char) (s : String) : List (List String) := (lines s).map (pieces delimiter)

theorem pieces_intercalate {c : Char} {xs : List String} (nonempty : xs ≠ [])
    (free : ∀ x ∈ xs, c ∉ x.toList) : pieces c ((String.singleton c).intercalate xs) = xs := by
  rw [pieces, String.toList_split_intercalate free, if_neg nonempty]

theorem join_eq_intercalate (xs : List String) :
    String.join (xs.map (· ++ "\n")) = (String.singleton '\n').intercalate (xs ++ [""]) := by
  induction xs with
  | nil => simp
  | cons x xs ih =>
    have nonempty : xs ++ [""] ≠ [] := by simp
    rw [List.map_cons, String.join_cons, ih, List.cons_append,
      String.intercalate_cons_of_ne_nil nonempty]
    rfl

/-- Lines without line breaks are read back from their text. -/
theorem lines_join {xs : List String} (free : ∀ x ∈ xs, '\n' ∉ x.toList) :
    lines (String.join (xs.map (· ++ "\n"))) = xs := by
  have all_free : ∀ x ∈ xs ++ [""], '\n' ∉ x.toList := by
    intro x hx
    rcases List.mem_append.1 hx with hx | hx
    · exact free x hx
    · rw [List.mem_singleton.1 hx]
      exact List.not_mem_nil
  have nonempty : xs ++ [""] ≠ [] := by simp
  rw [lines, join_eq_intercalate, pieces_intercalate nonempty all_free, List.dropLast_concat]

-- Empty pieces at the ends of a line keep their places.
example : records ',' "a,b\n,\n1,\n" = [["a", "b"], ["", ""], ["1", ""]] := by cbv

/-- A line has the characters of its pieces, and those between the pieces. -/
theorem mem_toList_intercalate {between : String} {d : Char} {xs : List String}
    (h : d ∈ (between.intercalate xs).toList) : d ∈ between.toList ∨ ∃ x ∈ xs, d ∈ x.toList := by
  induction xs with
  | nil => cases h
  | cons x xs ih =>
    by_cases last : xs = []
    · rw [last, String.intercalate_singleton] at h
      exact .inr ⟨x, List.mem_cons_self, h⟩
    · rw [String.intercalate_cons_of_ne_nil last, String.toList_append, String.toList_append] at h
      rcases List.mem_append.1 h with h | later
      · rcases List.mem_append.1 h with here | separator
        · exact .inr ⟨x, List.mem_cons_self, here⟩
        · exact .inl separator
      · rcases ih later with separator | ⟨y, hy, hd⟩
        · exact .inl separator
        · exact .inr ⟨y, List.mem_cons_of_mem x hy, hd⟩

/-- Lists are told apart by the images of their entries if the entries are. -/
theorem eq_of_map_eq_map {β γ : Type} {f : β → γ} {xs ys : List β}
    (injective : ∀ x ∈ xs, ∀ y ∈ ys, f x = f y → x = y) (h : xs.map f = ys.map f) : xs = ys := by
  induction xs generalizing ys with
  | nil => exact (List.map_eq_nil_iff.1 h.symm).symm
  | cons x xs ih =>
    cases ys with
    | nil => cases h
    | cons y ys =>
      obtain ⟨first, later⟩ := List.cons.inj h
      rw [injective x List.mem_cons_self y List.mem_cons_self first,
        ih (fun x hx y hy => injective x (List.mem_cons_of_mem _ hx) y (List.mem_cons_of_mem _ hy))
          later]

/-! ## Tables -/

variable {ρ α ω : Type} [TraceRow ρ α ω]

/-- A trace is a table: it has columns, and each row has these columns and a cell for each. -/
structure IsTable (trace : Trace ρ) : Prop where
  nonempty : trace.columns ≠ []
  unbroken : ∀ name ∈ trace.columns, '\n' ∉ name.toList
  columns : ∀ r ∈ trace.rows, TraceRow.columns r = trace.columns
  cells : ∀ r ∈ trace.rows, (TraceRow.cells r).length = trace.columns.length
  /-- The cells can be read. -/
  complete : ∀ r ∈ trace.rows, TraceRow.cells? r = some (TraceRow.cells r)

/-- The numbers in the cells. -/
def numbers (trace : Trace ρ) : List α :=
  trace.rows.flatMap fun r => (TraceRow.cells r).reduceOption

theorem mem_numbers {trace : Trace ρ} {r : ρ} {x : α} (hr : r ∈ trace.rows)
    (hx : some x ∈ TraceRow.cells r) : x ∈ numbers trace :=
  List.mem_flatMap.2 ⟨r, hr, List.reduceOption_mem_iff.2 hx⟩

variable [NumberText α]

/-- The delimiter is neither a line break nor a character of the fields. -/
structure Separates (delimiter : Char) (trace : Trace ρ) : Prop where
  lineBreak : delimiter ≠ '\n'
  columns : ∀ name ∈ trace.columns, delimiter ∉ name.toList
  numbers : ∀ x ∈ numbers trace, delimiter ∉ (NumberText.plain x).toList

variable {trace trace' : Trace ρ} {delimiter : Char}

/-- A character of a field of a row is one of a number. -/
theorem mem_toList_field {cell : Option α} {c : Char} (h : c ∈ (field cell).toList) :
    ∃ x, cell = some x ∧ c ∈ (NumberText.plain x).toList := by
  cases cell with
  | none => cases h
  | some x => exact ⟨x, rfl, h⟩

section Texts

variable (texts : ∀ x : α, NumberText.plain x ≠ "" ∧ '\n' ∉ (NumberText.plain x).toList)

include texts

/-- Exactly the missing cells have an empty field. -/
theorem field_eq_empty_iff {cell : Option α} : field cell = "" ↔ cell = none := by
  cases cell with
  | none => simp [field]
  | some x => simpa [field] using (texts x).1

/-- Each line has fields, without line breaks and without the delimiter. -/
theorem free_of_mem_fields (table : IsTable trace) (separates : Separates delimiter trace)
    {line : List String} (h : line ∈ fields trace) :
    line ≠ [] ∧ ∀ x ∈ line, '\n' ∉ x.toList ∧ delimiter ∉ x.toList := by
  rcases List.mem_cons.1 h with rfl | h
  · exact ⟨table.nonempty, fun name mem => ⟨table.unbroken name mem, separates.columns name mem⟩⟩
  · obtain ⟨r, hr, rfl⟩ := List.mem_map.1 h
    have length := table.cells r hr
    refine ⟨?_, ?_⟩
    · intro none
      rw [List.map_eq_nil_iff.1 none] at length
      exact table.nonempty (List.eq_nil_of_length_eq_zero length.symm)
    · intro text htext
      obtain ⟨cell, hcell, rfl⟩ := List.mem_map.1 htext
      constructor
      · intro broken
        obtain ⟨x, -, mem⟩ := mem_toList_field broken
        exact (texts x).2 mem
      · intro separated
        obtain ⟨x, rfl, mem⟩ := mem_toList_field separated
        exact separates.numbers x (mem_numbers hr hcell) mem

/-- The lines of the text are those that were written. -/
theorem lines_text (table : IsTable trace) (separates : Separates delimiter trace) :
    lines (text delimiter trace) =
      (fields trace).map fun line => (String.singleton delimiter).intercalate line := by
  have unbroken : ∀ l ∈ (fields trace).map (String.singleton delimiter).intercalate,
      '\n' ∉ l.toList := by
    intro l hl mem
    obtain ⟨line, hline, rfl⟩ := List.mem_map.1 hl
    rcases mem_toList_intercalate mem with between | ⟨x, hx, mem⟩
    · rw [String.toList_singleton] at between
      exact separates.lineBreak (List.mem_singleton.1 between).symm
    · exact ((free_of_mem_fields texts table separates hline).2 x hx).1 mem
  have written := lines_join unbroken
  rwa [List.map_map] at written

/-- The fields are read back. -/
theorem records_text (table : IsTable trace) (separates : Separates delimiter trace) :
    records delimiter (text delimiter trace) = fields trace := by
  rw [records, lines_text texts table separates, List.map_map]
  calc (fields trace).map (pieces delimiter ∘ (String.singleton delimiter).intercalate)
      = (fields trace).map id := by
        refine List.map_congr_left fun line hline => ?_
        obtain ⟨nonempty, free⟩ := free_of_mem_fields texts table separates hline
        exact pieces_intercalate nonempty fun x hx => (free x hx).2
    _ = fields trace := List.map_id _

/-- If their numbers have different texts, tables with the same text have the same cells. -/
theorem cells_eq_of_text_eq (table : IsTable trace) (table' : IsTable trace')
    (separates : Separates delimiter trace) (separates' : Separates delimiter trace')
    (distinct : ∀ x ∈ numbers trace, ∀ y ∈ numbers trace',
      NumberText.plain x = NumberText.plain y → x = y)
    (h : text delimiter trace = text delimiter trace') :
    trace.rows.map TraceRow.cells = trace'.rows.map TraceRow.cells := by
  have read := congrArg (records delimiter) h
  rw [records_text texts table separates, records_text texts table' separates'] at read
  have rows_eq : (trace.rows.map TraceRow.cells).map (List.map field) =
      (trace'.rows.map TraceRow.cells).map (List.map field) := by
    rw [List.map_map, List.map_map]
    exact (List.cons.inj read).2
  refine eq_of_map_eq_map ?_ rows_eq
  intro cells hcells cells' hcells' fields_eq
  obtain ⟨r, hr, rfl⟩ := List.mem_map.1 hcells
  obtain ⟨r', hr', rfl⟩ := List.mem_map.1 hcells'
  refine eq_of_map_eq_map ?_ fields_eq
  intro cell hcell cell' hcell' field_eq
  cases cell with
  | none =>
    have empty : field cell' = "" := field_eq.symm
    exact ((field_eq_empty_iff texts).1 empty).symm
  | some x =>
    cases cell' with
    | none => exact absurd field_eq (texts x).1
    | some y => rw [distinct x (mem_numbers hr hcell) y (mem_numbers hr' hcell') field_eq]

/-- The text of a trace has everything in it that the cells of the trace hold. -/
structure IsLossless (trace : Trace ρ) : Prop where
  table : IsTable trace
  /-- The text has a line for the columns and one for each row, and every line is ended. -/
  lines : ∀ {delimiter}, Separates delimiter trace →
    (lines (text delimiter trace)).length = trace.size + 1 ∧
      String.join ((lines (text delimiter trace)).map (· ++ "\n")) = text delimiter trace
  /-- The lines are split into the names of the columns and the fields of the rows. -/
  records : ∀ {delimiter}, Separates delimiter trace →
    records delimiter (text delimiter trace) =
      trace.columns :: trace.rows.map fun r => (TraceRow.cells r).map field
  /-- A field is empty where the cell is missing, and nowhere else. -/
  missing : ∀ cell : Option α, field cell = "" ↔ cell = none
  written : ∀ x : α, field (some x) = NumberText.plain x
  /-- No other table has the same text, unless it has a different number with the same text. -/
  cells : ∀ {delimiter} {trace' : Trace ρ}, IsTable trace' → Separates delimiter trace →
    Separates delimiter trace' →
    (∀ x ∈ numbers trace, ∀ y ∈ numbers trace', NumberText.plain x = NumberText.plain y → x = y) →
    text delimiter trace = text delimiter trace' →
      trace.rows.map TraceRow.cells = trace'.rows.map TraceRow.cells

/-- Nothing is lost of a table. -/
theorem IsTable.isLossless (table : IsTable trace) : IsLossless trace := by
  refine ⟨table, ?_, records_text texts table, fun _ => field_eq_empty_iff texts, fun _ => rfl,
    cells_eq_of_text_eq texts table⟩
  intro delimiter separates
  rw [lines_text texts table separates]
  constructor
  · rw [List.length_map, fields, List.length_cons, List.length_map, Trace.length_rows]
  · rw [List.map_map]
    rfl

end Texts

end RootFinding.Report.Csv
