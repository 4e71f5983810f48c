import HybridRetrieval.Text.Width
/-!
# Tables for the terminal

A table has two columns under the heading Metric and Value, in a frame with round corners.  Cells
are left-aligned with a blank on either side; a cell with line breaks takes several lines.
-/

namespace HybridRetrieval.Report

/-- A row of two cells. -/
abbrev TableRow := String × String

/-- The lines of a cell; a trailing line break begins an empty line. -/
def cellLines (cell : String) : List (List Char) := cell.toList.splitOn '\n'

/-- The columns that a cell takes. -/
def cellColumns (cell : String) : Nat := ((cellLines cell).map textColumns).foldl max 0

/-- A line of a cell, filled up to the width of its column, with a blank on either side. -/
def padLine (width : Nat) (line : List Char) : List Char :=
  ' ' :: (line ++ List.replicate (width - textColumns line + 1) ' ')

/-- A horizontal line between the given corners. -/
def rule (left middle right : Char) (widths : Nat × Nat) : List Char :=
  left :: (List.replicate (widths.1 + 2) '─' ++ middle :: (List.replicate (widths.2 + 2) '─' ++
    [right]))

/-- The lines of a row. -/
def rowLines (widths : Nat × Nat) (row : TableRow) : List (List Char) :=
  let left := cellLines row.1
  let right := cellLines row.2
  (List.range (max left.length right.length)).map fun i =>
    '│' :: (padLine widths.1 (left.getD i []) ++ '│' :: (padLine widths.2 (right.getD i []) ++
      ['│']))

/-- The heading of every table. -/
def heading : TableRow := ("Metric", "Value")

/-- The text of a table; a table without rows is empty. -/
def table (rows : List TableRow) : String :=
  if rows.isEmpty then ""
  else
    let all := heading :: rows
    let widths := ((all.map fun row => cellColumns row.1).foldl max 0,
      (all.map fun row => cellColumns row.2).foldl max 0)
    let lines := rule '╭' '┬' '╮' widths :: (rowLines widths heading ++
      rule '├' '┼' '┤' widths :: (rows.flatMap (rowLines widths) ++ [rule '╰' '┴' '╯' widths]))
    "\n".intercalate (lines.map String.ofList)

end HybridRetrieval.Report
