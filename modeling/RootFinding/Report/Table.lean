import RootFinding.NumberText
import RootFinding.Trace

/-!
# Traces as text tables

A table has a header and one line per row. Every column is as wide as its widest text; texts stand
at the right of their column, and two blanks separate the columns.

A column can be at most `maxFieldWidth` characters wide, and no more decimal places than that can be
asked for; otherwise there is no table.
-/

namespace RootFinding.Report

/-- What a table shows. -/
structure TableFormat where
  /-- The number of decimal places. -/
  decimals : Nat := 6
  /-- Whether the rows are numbered, from zero on. -/
  numbered : Bool := false
  /-- The columns to show, by index; all of them if there is no list. -/
  columns : Option (List Nat) := none
deriving DecidableEq, Repr

/-- The greatest width of a column, and the greatest number of decimal places. -/
def maxFieldWidth : Nat := 65535

/-- A text with blanks before it that fill up a width. -/
def padLeft (width : Nat) (text : String) : String :=
  String.ofList (List.replicate (width - text.length) ' ' ++ text.toList)

namespace TableFormat

/-- The columns shown of those available. An index beyond them is passed over. -/
def selected (format : TableFormat) (available : Nat) : List Nat :=
  match format.columns with
  | none => List.range available
  | some indices => indices.filter fun i => i < available

variable {ρ α ω : Type} [TraceRow ρ α ω] [NumberText α]

/-- The text of a cell; a missing one is shown as a dash. -/
def cellText (format : TableFormat) (cell : Option α) : String :=
  (cell.map (NumberText.fixed format.decimals)).getD "-"

/-- The texts of the header. -/
def header (format : TableFormat) (trace : Trace ρ) : List String :=
  let columns := trace.columns
  let names := (format.selected columns.length).filterMap fun i => columns[i]?
  if format.numbered then "k" :: names else names

/-- The cells of a row that are shown. -/
def shown (format : TableFormat) (trace : Trace ρ) (row : ρ) : List (Option α) :=
  let cells := TraceRow.cells row
  (format.selected trace.columns.length).map fun i => cells[i]?.join

/-- The texts of row `k`. -/
def line (format : TableFormat) (trace : Trace ρ) (k : Nat) (row : ρ) : List String :=
  let texts := (format.shown trace row).map format.cellText
  if format.numbered then toString k :: texts else texts

/-- The texts of the header and of all rows. -/
def lines (format : TableFormat) (trace : Trace ρ) : List (List String) :=
  format.header trace :: trace.rows.mapIdx (format.line trace)

end TableFormat

/-- The width of each column: that of its widest text. -/
def columnWidths : List (List String) → List Nat
  | [] => []
  | first :: rest =>
    rest.foldl (fun widths line => List.zipWith max widths (line.map String.length))
      (first.map String.length)

/-- A line of the table. -/
def alignedLine (widths : List Nat) (texts : List String) : String :=
  "  ".intercalate (List.zipWith padLeft widths texts)

/-- The lines of texts under each other. -/
def aligned (lines : List (List String)) : String :=
  let widths := columnWidths lines
  "\n".intercalate (lines.map (alignedLine widths))

/-- The trace as a table, if no column is too wide. -/
def table? {ρ α ω : Type} [TraceRow ρ α ω] [NumberText α] (format : TableFormat)
    (trace : Trace ρ) : Option String :=
  let hasNumbers := trace.rows.any fun row => (format.shown trace row).any Option.isSome
  if hasNumbers ∧ maxFieldWidth < format.decimals then none
  else
    let lines := format.lines trace
    if (columnWidths lines).all fun width => width ≤ maxFieldWidth then some (aligned lines)
    else none

end RootFinding.Report
