import RootFinding.NumberText
import RootFinding.Trace

/-!
# Traces as delimited text

A line with the names of the columns and one line per row, each ended by a line break. Fields are
put between delimiters as they are, without quotes; a missing cell leaves its field empty.
-/

namespace RootFinding.Report.Csv

variable {ρ α ω : Type} [TraceRow ρ α ω] [NumberText α]

/-- The text of a cell. -/
def field (cell : Option α) : String := (cell.map NumberText.plain).getD ""

/-- The fields of all lines. -/
def fields (trace : Trace ρ) : List (List String) :=
  trace.columns :: trace.rows.map fun row => (TraceRow.cells row).map field

/-- The trace as delimited text. -/
def text (delimiter : Char) (trace : Trace ρ) : String :=
  String.join ((fields trace).map fun line => (String.singleton delimiter).intercalate line ++ "\n")

end RootFinding.Report.Csv
