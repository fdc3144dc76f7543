/-
  Tables in plain characters.

  Every cell has a space on either side, a column is as wide as its widest
  line, and a rule stands before the first row and after every row.  A cell
  with line breaks takes as many lines as it has parts, and so does its row.

  * `Table.render`: the table of a list of rows.
-/
import Concord.Text.Width

namespace Concord.Table

/-- The lines of a cell. -/
def cellLines (cell : String) : List (List Char) :=
  (cell.toList.splitOn '\n')

/-- The widest line of a column. -/
def columnWidth (cells : List (List (List Char))) : Nat :=
  cells.foldl (fun n lines => lines.foldl (fun n l => max n (Text.width l)) n) 0

/-- The widths of the columns of rows with the same number of cells. -/
def columnWidths (columns : Nat) (rows : List (List (List (List Char)))) : List Nat :=
  (List.range columns).map fun i => columnWidth (rows.map fun row => row.getD i [])

/-- The rule between rows. -/
def rule (widths : List Nat) : List Char :=
  '+' :: widths.flatMap fun w => List.replicate (w + 2) '-' ++ ['+']

/-- A line of a cell, filled up to the width of its column. -/
def fill (w : Nat) (line : List Char) : List Char :=
  ' ' :: line ++ List.replicate (w - Text.width line) ' ' ++ [' ', '|']

/-- The `i`-th line of a row. -/
def rowLine (widths : List Nat) (row : List (List (List Char))) (i : Nat) : List Char :=
  '|' :: (widths.zip row).flatMap fun (w, lines) => fill w (lines.getD i [])

/-- The lines of a row. -/
def rowLines (widths : List Nat) (row : List (List (List Char))) : List (List Char) :=
  let height := row.foldl (fun n lines => max n lines.length) 1
  (List.range height).map (rowLine widths row)

/-- A table of rows with the same number of cells, without a line break at its
    end. -/
def render (rows : List (List String)) : String :=
  let cells := rows.map fun row => row.map cellLines
  let columns := rows.foldl (fun n row => max n row.length) 0
  let widths := columnWidths columns cells
  let lines := rule widths :: cells.flatMap fun row => rowLines widths row ++ [rule widths]
  String.ofList (lines.intersperse ['\n']).flatten

end Concord.Table
