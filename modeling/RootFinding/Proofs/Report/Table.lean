import Mathlib.Algebra.Ring.Nat
import Mathlib.Data.List.Forall2
import Mathlib.Order.Bounds.Basic
import RootFinding.Proofs.Report.Csv
import RootFinding.Proofs.Report.PlainText
import RootFinding.Report.Table

/-!
# Text tables are rectangular and faithful

What a table shows is said without the way in which it is put together. `IsContent` says which texts
stand in the header and in the line of each row, `IsWidths` how wide the columns are, and
`IsAlignedLine` how the texts of a line stand in their columns. `IsTableText` puts these together: a
text that is split at its line breaks into lines of the same length.

## Shape of the arguments

* The widths are found by going through the lines one after the other. Each line takes the widths of
  the lines before it to those of one line more (`IsWidths.append_line`).
* Texts that are not longer than their columns are wide fill them up with blanks before them
  (`isRightAligned_padLeft`). So the length of a line depends on the widths alone.
* An index that is selected is in range of the columns, and so of the cells, since a row of a table
  has a cell for each column.
-/

namespace RootFinding.Report

open Csv

/-! ## The widths of columns -/

/-- The numbers of characters of the texts in a column. -/
def lengthsIn (lines : List (List String)) (j : Nat) : Set Nat :=
  {n | ∃ texts ∈ lines, ∃ text, texts[j]? = some text ∧ text.length = n}

/-- Each line has as many texts as there are columns, and each column is as wide as its longest
text: one text fills it, and none is too long for it. -/
structure IsWidths (lines : List (List String)) (widths : List Nat) : Prop where
  columns : ∀ line ∈ lines, line.length = widths.length
  widest : ∀ j width, widths[j]? = some width → IsGreatest (lengthsIn lines j) width

theorem lengthsIn_append (lines lines' : List (List String)) (j : Nat) :
    lengthsIn (lines ++ lines') j = lengthsIn lines j ∪ lengthsIn lines' j := by
  ext n
  simp [lengthsIn, or_and_right, exists_or]

theorem lengthsIn_singleton {texts : List String} {j : Nat} {text : String}
    (h : texts[j]? = some text) : lengthsIn [texts] j = {text.length} := by
  ext n
  simp [lengthsIn, h, eq_comm]

theorem isWidths_singleton (line : List String) : IsWidths [line] (line.map String.length) := by
  refine ⟨by simp, ?_⟩
  intro j width hwidth
  rw [List.getElem?_map, Option.map_eq_some_iff] at hwidth
  obtain ⟨text, htext, rfl⟩ := hwidth
  rw [lengthsIn_singleton htext]
  exact isGreatest_singleton

/-- One more line widens the columns in which its texts are longer. -/
theorem IsWidths.append_line {lines : List (List String)} {widths : List Nat} {line : List String}
    (h : IsWidths lines widths) (length : line.length = widths.length) :
    IsWidths (lines ++ [line]) (List.zipWith max widths (line.map String.length)) := by
  have width_count : (List.zipWith max widths (line.map String.length)).length = widths.length := by
    rw [List.length_zipWith, List.length_map, length, Nat.min_self]
  refine ⟨?_, ?_⟩
  · intro line' hline'
    rw [width_count]
    rcases List.mem_append.1 hline' with before | last
    · exact h.columns line' before
    · rw [List.mem_singleton.1 last, length]
  · intro j width hwidth
    rw [List.getElem?_zipWith_eq_some] at hwidth
    obtain ⟨before, own, hbefore, hown, rfl⟩ := hwidth
    rw [List.getElem?_map, Option.map_eq_some_iff] at hown
    obtain ⟨text, htext, rfl⟩ := hown
    rw [lengthsIn_append, lengthsIn_singleton htext]
    exact (h.widest j before hbefore).union isGreatest_singleton

/-- So do several lines more. -/
theorem IsWidths.foldl {lines rest : List (List String)} {widths : List Nat}
    (h : IsWidths lines widths) (lengths : ∀ line ∈ rest, line.length = widths.length) :
    IsWidths (lines ++ rest) (rest.foldl
      (fun widths line => List.zipWith max widths (line.map String.length)) widths) := by
  induction rest generalizing lines widths with
  | nil => rwa [List.append_nil]
  | cons line rest ih =>
    obtain ⟨first, later⟩ := List.forall_mem_cons.1 lengths
    have step := h.append_line first
    rw [List.foldl_cons, List.append_cons]
    refine ih step fun line' hline' => ?_
    rw [List.length_zipWith, List.length_map, first, Nat.min_self]
    exact later line' hline'

/-- The widths of lines that have the same number of texts. -/
theorem isWidths_columnWidths {first : List String} {rest : List (List String)}
    (lengths : ∀ line ∈ rest, line.length = first.length) :
    IsWidths (first :: rest) (columnWidths (first :: rest)) :=
  (isWidths_singleton first).foldl fun line hline => by rw [lengths line hline, List.length_map]

/-! ## Lines -/

/-- A text with blanks before it that fill up a width. -/
structure IsRightAligned (width : Nat) (text field : String) : Prop where
  length : field.length = width
  blanks : ∃ count, field.toList = List.replicate count ' ' ++ text.toList

/-- The texts of a line stand in their columns, with two blanks between the columns. -/
structure IsAlignedLine (widths : List Nat) (texts : List String) (line : String) : Prop where
  length : texts.length = widths.length
  fields : ∃ fields : List String, line = "  ".intercalate fields ∧
    fields.length = widths.length ∧
    ∀ (j width : Nat) (text field : String), widths[j]? = some width → texts[j]? = some text →
      fields[j]? = some field → IsRightAligned width text field

theorem isRightAligned_padLeft {width : Nat} {text : String} (fits : text.length ≤ width) :
    IsRightAligned width text (padLeft width text) := by
  refine ⟨?_, width - text.length, String.toList_ofList⟩
  rw [padLeft, String.length_ofList, List.length_append, List.length_replicate,
    String.length_toList]
  omega

theorem isAlignedLine_alignedLine {widths : List Nat} {texts : List String}
    (length : texts.length = widths.length)
    (fits : ∀ (j width : Nat) (text : String), widths[j]? = some width → texts[j]? = some text →
      text.length ≤ width) : IsAlignedLine widths texts (alignedLine widths texts) := by
  refine ⟨length, _, rfl, ?_, ?_⟩
  · rw [List.length_zipWith, length, Nat.min_self]
  · intro j width text field hwidth htext hfield
    rw [List.getElem?_zipWith, hwidth, htext] at hfield
    obtain rfl := Option.some.inj hfield
    exact isRightAligned_padLeft (fits j width text hwidth htext)

theorem length_intercalate (between : String) (fields : List String) :
    (between.intercalate fields).length =
      (fields.map String.length).sum + between.length * (fields.length - 1) := by
  induction fields with
  | nil => rfl
  | cons field fields ih =>
    by_cases last : fields = []
    · simp [last]
    · have more : 0 < fields.length := List.length_pos_of_ne_nil last
      have count : fields.length = fields.length - 1 + 1 := by omega
      rw [String.intercalate_cons_of_ne_nil last, String.length_append, String.length_append, ih,
        List.map_cons, List.sum_cons, List.length_cons, Nat.add_sub_cancel]
      conv_rhs => rw [count, Nat.mul_succ]
      omega

/-- The length of a line depends on the widths alone. -/
theorem IsAlignedLine.length_eq {widths : List Nat} {texts : List String} {line : String}
    (h : IsAlignedLine widths texts line) :
    line.length = widths.sum + 2 * (widths.length - 1) := by
  obtain ⟨length, fields, rfl, field_count, aligned⟩ := h
  have lengths_eq : fields.map String.length = widths := by
    refine List.ext_getElem (by simpa using field_count) fun j hj hj' => ?_
    have hfield : j < fields.length := field_count ▸ hj'
    have htext : j < texts.length := length ▸ hj'
    rw [List.getElem_map]
    exact (aligned j widths[j] texts[j] fields[j] (List.getElem?_eq_getElem _)
      (List.getElem?_eq_getElem _) (List.getElem?_eq_getElem _)).length
  rw [length_intercalate, lengths_eq, field_count]
  rfl

/-- A line has no characters but blanks and those of its texts. -/
theorem mem_toList_alignedLine {widths : List Nat} {texts : List String} {c : Char}
    (h : c ∈ (alignedLine widths texts).toList) : c = ' ' ∨ ∃ text ∈ texts, c ∈ text.toList := by
  rcases mem_toList_intercalate h with between | ⟨field, hfield, mem⟩
  · exact .inl (by simpa using between)
  · rw [← List.map_uncurry_zip_eq_zipWith, List.mem_map] at hfield
    obtain ⟨⟨width, text⟩, pair, rfl⟩ := hfield
    rw [Function.uncurry_apply_pair, padLeft, String.toList_ofList] at mem
    rcases List.mem_append.1 mem with blank | mem
    · exact .inl (List.eq_of_mem_replicate blank)
    · exact .inr ⟨text, (List.of_mem_zip pair).2, mem⟩

/-- Texts without line breaks under each other are split into their lines. -/
theorem pieces_aligned {lines : List (List String)} (nonempty : lines ≠ [])
    (unbroken : ∀ line ∈ lines, ∀ text ∈ line, '\n' ∉ text.toList) :
    pieces '\n' (aligned lines) = lines.map (alignedLine (columnWidths lines)) := by
  refine pieces_intercalate (by simpa using nonempty) ?_
  intro line hline mem
  obtain ⟨texts, htexts, rfl⟩ := List.mem_map.1 hline
  rcases mem_toList_alignedLine mem with blank | ⟨text, htext, mem⟩
  · cases blank
  · exact unbroken texts htexts text htext mem

/-! ## What a table shows -/

/-- Of the columns asked for, those that there are, in the same order. -/
inductive Selects (available : Nat) : List Nat → List Nat → Prop
  | nil : Selects available [] []
  | keep {i : Nat} {requested kept : List Nat} (present : i < available)
      (rest : Selects available requested kept) : Selects available (i :: requested) (i :: kept)
  | skip {i : Nat} {requested kept : List Nat} (absent : available ≤ i)
      (rest : Selects available requested kept) : Selects available (i :: requested) kept

/-- The columns shown: the ones asked for, or all if none are. -/
def TableFormat.Shows (format : TableFormat) (available : Nat) (indices : List Nat) : Prop :=
  match format.columns with
  | none => indices = List.range available
  | some requested => Selects available requested indices

/-- The texts of a line, after one more text if the rows are numbered. -/
def TableFormat.numberedLine (format : TableFormat) (number : String) (texts : List String) :
    List String :=
  if format.numbered then number :: texts else texts

/-- The text of a cell: a number with its decimal places, or a dash for a missing one. -/
inductive IsCellText {α : Type} [NumberText α] (decimals : Nat) : Option α → String → Prop
  | number (x : α) : IsCellText decimals (some x) (NumberText.fixed decimals x)
  | missing : IsCellText decimals none "-"

section Content

variable {ρ α ω : Type} [TraceRow ρ α ω] [NumberText α]

/-- The texts of a table: the names of the columns shown, and for each row its cells in these
columns. Every index is in range. If the rows are numbered, the number of a row comes first. -/
structure IsContent (format : TableFormat) (trace : Trace ρ) (indices : List Nat)
    (header : List String) (body : List (List String)) : Prop where
  selected : format.Shows trace.columns.length indices
  header : ∃ names, header = format.numberedLine "k" names ∧
    List.Forall₂ (fun i name => trace.columns[i]? = some name) indices names
  rows : body.length = trace.size
  row : ∀ (k : Nat) (row : ρ), trace.rows[k]? = some row →
    ∃ (cells : List (Option α)) (texts : List String), TraceRow.cells? row = some cells ∧
      body[k]? = some (format.numberedLine (toString k) texts) ∧
      List.Forall₂ (fun i text => ∃ cell, cells[i]? = some cell ∧
        IsCellText format.decimals cell text) indices texts

/-- The text of a table, with the columns and the texts it shows and the widths of its columns: one
line for the header and one for each row, all of the same length. -/
structure IsTableText (format : TableFormat) (trace : Trace ρ) (indices : List Nat)
    (header : List String) (body : List (List String)) (widths : List Nat) (text : String) :
    Prop where
  content : IsContent format trace indices header body
  columnWidths : IsWidths (header :: body) widths
  lines : List.Forall₂ (IsAlignedLine widths) (header :: body) (pieces '\n' text)
  count : (pieces '\n' text).length = trace.size + 1
  rectangular : ∀ line ∈ pieces '\n' text, line.length = widths.sum + 2 * (widths.length - 1)

variable {format : TableFormat} {trace : Trace ρ}

theorem selects_filter (available : Nat) (requested : List Nat) :
    Selects available requested (requested.filter fun i => i < available) := by
  induction requested with
  | nil => exact .nil
  | cons i requested ih =>
    by_cases present : i < available
    · simpa [present] using Selects.keep present ih
    · simpa [present] using Selects.skip (Nat.le_of_not_lt present) ih

theorem shows_selected (format : TableFormat) (available : Nat) :
    format.Shows available (format.selected available) := by
  rw [TableFormat.Shows, TableFormat.selected]
  cases format.columns with
  | none => rfl
  | some requested => exact selects_filter available requested

theorem lt_of_mem_selected {available i : Nat} (h : i ∈ format.selected available) :
    i < available := by
  rw [TableFormat.selected] at h
  cases hc : format.columns with
  | none =>
    rw [hc] at h
    exact List.mem_range.1 h
  | some requested =>
    rw [hc] at h
    exact of_decide_eq_true (List.mem_filter.1 h).2

theorem isCellText_cellText (format : TableFormat) (cell : Option α) :
    IsCellText format.decimals cell (format.cellText cell) := by
  cases cell with
  | none => exact .missing
  | some x => exact .number x

/-- The names in the header are those of the columns selected. -/
theorem forall₂_names {columns : List String} {indices : List Nat}
    (present : ∀ i ∈ indices, i < columns.length) :
    List.Forall₂ (fun i name => columns[i]? = some name) indices
      (indices.filterMap fun i => columns[i]?) := by
  induction indices with
  | nil => exact .nil
  | cons i indices ih =>
    obtain ⟨first, later⟩ := List.forall_mem_cons.1 present
    rw [List.filterMap_cons, List.getElem?_eq_getElem first]
    exact .cons (List.getElem?_eq_getElem first) (ih later)

variable (table : IsTable trace)

include table

omit [NumberText α] in
/-- A row has a cell in the place of each column selected. -/
theorem getElem?_cells {row : ρ} (hrow : row ∈ trace.rows) {i : Nat}
    (hi : i ∈ format.selected trace.columns.length) :
    ∃ cell, (TraceRow.cells row)[i]? = some cell ∧ (TraceRow.cells row)[i]?.join = cell := by
  have present : i < (TraceRow.cells row).length := by
    rw [table.cells row hrow]
    exact lt_of_mem_selected hi
  exact ⟨_, List.getElem?_eq_getElem present, by rw [List.getElem?_eq_getElem present]; rfl⟩

theorem isContent_lines (format : TableFormat) :
    IsContent format trace (format.selected trace.columns.length) (format.header trace)
      (trace.rows.mapIdx (format.line trace)) := by
  refine ⟨shows_selected format _, ?_, ?_, ?_⟩
  · exact ⟨_, rfl, forall₂_names fun _ => lt_of_mem_selected⟩
  · rw [List.length_mapIdx, Trace.length_rows]
  · intro k row hrow
    have mem : row ∈ trace.rows := List.mem_of_getElem? hrow
    refine ⟨_, (format.shown trace row).map format.cellText, table.complete row mem, ?_, ?_⟩
    · rw [List.getElem?_mapIdx, hrow]
      rfl
    · rw [TableFormat.shown, List.map_map, List.forall₂_map_right_iff, List.forall₂_same]
      intro i hi
      obtain ⟨cell, found, joined⟩ := getElem?_cells table mem hi
      refine ⟨cell, found, ?_⟩
      rw [Function.comp_apply, joined]
      exact isCellText_cellText format cell

/-- The texts of a table are those of its columns, of the numbers of its rows and of its cells. -/
theorem mem_lines_cases {line : List String} {text : String} (hline : line ∈ format.lines trace)
    (htext : text ∈ line) :
    text = "k" ∨ text ∈ trace.columns ∨ (∃ k < trace.size, text = toString k) ∨
      ∃ row ∈ trace.rows, ∃ cell ∈ TraceRow.cells row, text = format.cellText cell := by
  have numbered {number : String} {texts : List String}
      (h : text ∈ format.numberedLine number texts) : text = number ∨ text ∈ texts := by
    rw [TableFormat.numberedLine] at h
    split at h
    · exact List.mem_cons.1 h
    · exact .inr h
  rcases List.mem_cons.1 hline with rfl | hline
  · rcases numbered htext with number | name
    · exact .inl number
    · obtain ⟨i, -, hi⟩ := List.mem_filterMap.1 name
      exact .inr (.inl (List.mem_of_getElem? hi))
  · obtain ⟨k, hk, rfl⟩ := List.mem_mapIdx.1 hline
    have mem : trace.rows[k] ∈ trace.rows := List.getElem_mem hk
    rcases numbered htext with number | cell
    · exact .inr (.inr (.inl ⟨k, Trace.length_rows trace ▸ hk, number⟩))
    · obtain ⟨cell, hcell, rfl⟩ := List.mem_map.1 cell
      obtain ⟨i, hi, rfl⟩ := List.mem_map.1 hcell
      obtain ⟨cell, found, joined⟩ := getElem?_cells table mem hi
      exact .inr (.inr (.inr ⟨_, mem, cell, List.mem_of_getElem? found, by rw [joined]⟩))

/-- All lines have as many texts as the header. -/
theorem length_of_mem_body {line : List String}
    (hline : line ∈ trace.rows.mapIdx (format.line trace)) :
    line.length = (format.header trace).length := by
  obtain ⟨k, hk, rfl⟩ := List.mem_mapIdx.1 hline
  obtain ⟨names, header, columns⟩ := (isContent_lines table format).header
  have count := columns.length_eq
  rw [header, TableFormat.line, TableFormat.numberedLine, TableFormat.shown, List.map_map]
  split
  · simp [count]
  · simp [count]

end Content

/-! ## Tables -/

/-- No text is too long for the greatest width, and if a number is shown, there are not too many
decimal places for any number, whatever its text is. -/
structure Fits {ρ α ω : Type} [TraceRow ρ α ω] [NumberText α] (format : TableFormat)
    (trace : Trace ρ) : Prop where
  decimals : ∀ row ∈ trace.rows, ∀ x, some x ∈ format.shown trace row →
    format.decimals ≤ maxFieldWidth
  texts : ∀ line ∈ format.lines trace, ∀ text ∈ line, text.length ≤ maxFieldWidth

/-- Widths are bounded if the texts are. -/
theorem IsWidths.le_iff {lines : List (List String)} {widths : List Nat}
    (h : IsWidths lines widths) {bound : Nat} :
    (∀ width ∈ widths, width ≤ bound) ↔
      ∀ line ∈ lines, ∀ text ∈ line, text.length ≤ bound := by
  constructor
  · intro bounded texts htexts text htext
    obtain ⟨j, hj, rfl⟩ := List.getElem_of_mem htext
    have hwidth : j < widths.length := h.columns texts htexts ▸ hj
    have widest := h.widest j widths[j] (List.getElem?_eq_getElem hwidth)
    have le := widest.2 ⟨texts, htexts, texts[j], List.getElem?_eq_getElem hj, rfl⟩
    exact le.trans (bounded _ (List.getElem_mem hwidth))
  · intro bounded width hwidth
    obtain ⟨j, hj, rfl⟩ := List.getElem_of_mem hwidth
    obtain ⟨texts, htexts, text, htext, length⟩ :=
      (h.widest j widths[j] (List.getElem?_eq_getElem hj)).1
    rw [← length]
    exact bounded texts htexts text (List.mem_of_getElem? htext)

section Tables

variable {ρ α ω : Type} [TraceRow ρ α ω] [NumberText α] {format : TableFormat} {trace : Trace ρ}
  (table : IsTable trace)

include table

theorem isWidths_lines (format : TableFormat) :
    IsWidths (format.lines trace) (columnWidths (format.lines trace)) :=
  isWidths_columnWidths fun _ => length_of_mem_body table

/-- There is a table if its texts and its decimal places fit. -/
theorem table?_eq_some_iff {text : String} :
    table? format trace = some text ↔ Fits format trace ∧ text = aligned (format.lines trace) := by
  have numbers : (trace.rows.any fun row => (format.shown trace row).any Option.isSome) = true ↔
      ∃ row ∈ trace.rows, ∃ x, some x ∈ format.shown trace row := by
    simp [Option.isSome_iff_exists]
  have widths : ((columnWidths (format.lines trace)).all fun width => width ≤ maxFieldWidth) =
      true ↔ ∀ line ∈ format.lines trace, ∀ text ∈ line, text.length ≤ maxFieldWidth := by
    rw [← (isWidths_lines table format).le_iff]
    simp
  rw [table?]
  split
  · next excess =>
    refine ⟨nofun, ?_⟩
    rintro ⟨fits, -⟩
    obtain ⟨row, hrow, x, hx⟩ := numbers.1 excess.1
    exact absurd (fits.decimals row hrow x hx) (not_le.2 excess.2)
  · next few =>
    have decimals : ∀ row ∈ trace.rows, ∀ x, some x ∈ format.shown trace row →
        format.decimals ≤ maxFieldWidth := fun row hrow x hx =>
      not_lt.1 fun above => few ⟨numbers.2 ⟨row, hrow, x, hx⟩, above⟩
    dsimp only
    split
    · next bounded =>
      rw [Option.some.injEq, eq_comm]
      exact ⟨fun h => ⟨⟨decimals, widths.1 bounded⟩, h⟩, fun h => h.2⟩
    · next wide =>
      exact ⟨nofun, fun h => absurd (widths.2 h.1.texts) wide⟩

/-- If the texts of numbers hold no line breaks, no text of a table does. -/
theorem lineBreak_not_mem_lines
    (texts : ∀ x : α, '\n' ∉ (NumberText.fixed format.decimals x).toList) :
    ∀ line ∈ format.lines trace, ∀ text ∈ line, '\n' ∉ text.toList := by
  intro line hline text htext
  rcases mem_lines_cases table hline htext with
    rfl | name | ⟨k, -, rfl⟩ | ⟨row, -, cell, -, rfl⟩
  · decide
  · exact table.unbroken text name
  · intro mem
    cases Decimal.isDigit_of_mem_toString mem
  · cases cell with
    | none => simp [TableFormat.cellText]
    | some x => exact texts x

/-- The text of a table shows the trace. -/
theorem isTableText_of_eq_some
    (texts : ∀ x : α, '\n' ∉ (NumberText.fixed format.decimals x).toList) {text : String}
    (h : table? format trace = some text) :
    IsTableText format trace (format.selected trace.columns.length) (format.header trace)
      (trace.rows.mapIdx (format.line trace)) (columnWidths (format.lines trace)) text := by
  obtain ⟨-, rfl⟩ := (table?_eq_some_iff table).1 h
  have widths := isWidths_lines table format
  have nonempty : format.lines trace ≠ [] := List.cons_ne_nil _ _
  have lines := pieces_aligned nonempty (lineBreak_not_mem_lines table texts)
  have stands : ∀ line ∈ format.lines trace, IsAlignedLine (columnWidths (format.lines trace)) line
      (alignedLine (columnWidths (format.lines trace)) line) := by
    intro line hline
    refine isAlignedLine_alignedLine (widths.columns line hline) ?_
    intro j width text hwidth htext
    exact (widths.widest j width hwidth).2 ⟨line, hline, text, htext, rfl⟩
  refine ⟨isContent_lines table format, widths, ?_, ?_, ?_⟩
  · rw [lines, List.forall₂_map_right_iff]
    exact List.forall₂_same.2 stands
  · rw [lines, List.length_map, TableFormat.lines, List.length_cons, List.length_mapIdx,
      Trace.length_rows]
  · rw [lines]
    intro line hline
    obtain ⟨texts, htexts, rfl⟩ := List.mem_map.1 hline
    exact (stands texts htexts).length_eq

end Tables

end RootFinding.Report
