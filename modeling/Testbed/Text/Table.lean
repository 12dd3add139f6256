import Testbed.Unicode.Columns

/-!
# Tables of text

This file supplies tables drawn in box characters.  A column is as wide as the
widest line in it, and a row is as high as its highest cell.
-/

namespace Testbed.Text

/-- A table: its header and its rows. -/
structure Table where
  header : List String
  rows : List (List String)

namespace Table

/-- The lines of a cell. -/
def cellLines (cell : String) : List String :=
  cell.splitOn "\n"

/-- The columns that a cell takes. -/
def cellWidth (cell : String) : Nat :=
  ((cellLines cell).map Unicode.textColumns).foldl max 0

/-- The widths of the cells of a row, where they exceed those found so far. -/
def widen : List Nat → List String → List Nat
  | [], row => row.map cellWidth
  | widths, [] => widths
  | width :: widths, cell :: row => max width (cellWidth cell) :: widen widths row

/-- The widths of the columns. -/
def widths (table : Table) : List Nat :=
  table.rows.foldl widen (table.header.map cellWidth)

/-! ## Drawing -/

/-- The characters of a horizontal rule. -/
structure Rule where
  left : String
  line : String
  crossing : String
  right : String

/-- The rule above the header. -/
def topRule : Rule :=
  ⟨"┌", "─", "┬", "┐"⟩

/-- The rule below the header. -/
def headerRule : Rule :=
  ⟨"╞", "═", "╪", "╡"⟩

/-- The rule between two rows. -/
def innerRule : Rule :=
  ⟨"├", "╌", "┼", "┤"⟩

/-- The rule below the last row. -/
def bottomRule : Rule :=
  ⟨"└", "─", "┴", "┘"⟩

/-- A rule across columns, each of which has a blank on both sides. -/
def Rule.draw (rule : Rule) (widths : List Nat) : String :=
  rule.left
    ++ rule.crossing.intercalate
      (widths.map fun width => String.join (List.replicate (width + 2) rule.line))
    ++ rule.right

/-- A line of a cell with blanks up to a width. -/
def pad (width : Nat) (line : String) : String :=
  line ++ String.ofList (List.replicate (width - Unicode.textColumns line) ' ')

/-- One line across the cells of a row. -/
def drawLine (widths : List Nat) (lines : List String) : String :=
  "│ " ++ " ┆ ".intercalate ((widths.zip lines).map fun (width, line) => pad width line)
    ++ " │"

/-- The lines of a row. -/
def drawRow (widths : List Nat) (row : List String) : List String :=
  let cells := row.map cellLines
  let height := (cells.map List.length).foldl max 0
  (List.range height).map fun index =>
    drawLine widths (cells.map fun lines => lines[index]?.getD "")

/-- The lines of the table. -/
def lines (table : Table) : List String :=
  let widths := table.widths
  let rows := (table.rows.map (drawRow widths)).intersperse [innerRule.draw widths]
  [topRule.draw widths] ++ drawRow widths table.header ++ [headerRule.draw widths]
    ++ rows.flatten ++ [bottomRule.draw widths]

/-- The table as a text without a line break at its end. -/
def render (table : Table) : String :=
  "\n".intercalate table.lines

end Table

end Testbed.Text
