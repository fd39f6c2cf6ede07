import Mailroom.Text.Basic
import Mailroom.Text.Width

/-!
# Tables

A table of texts in a frame: a row of titles and rows of cells below it, with a line between any two
rows. A column is as wide as its widest line and a blank on either side; a cell with line ends takes
several lines.
-/

namespace Mailroom.Terminal

/-- The lines of a cell. -/
def cellLines (cell : String) : List String :=
  (Text.parts '\n' cell.toList).map String.ofList

/-- The number of columns that a cell takes. -/
def cellWidth (cell : String) : Nat :=
  (cellLines cell).foldl (fun w line => max w (Text.width line)) 0

/-- The width of each column of some rows. -/
def columnWidths (rows : List (List String)) : List Nat :=
  match rows with
  | [] => []
  | [row] => row.map cellWidth
  | row :: rest => List.zipWith max (row.map cellWidth) (columnWidths rest)

/-- A character some times over. -/
def repeated (c : Char) (n : Nat) : String :=
  String.ofList (List.replicate n c)

/-- A line of the frame: its ends, the mark between columns and the mark along them. -/
def rule (left line between right : Char) (widths : List Nat) : String :=
  String.singleton left ++
    (String.singleton between).intercalate (widths.map fun w => repeated line (w + 2)) ++
    String.singleton right

/-- A line of a cell filled up to the width of its column, with a blank on either side. -/
def padded (width : Nat) (line : String) : String :=
  " " ++ line ++ repeated ' ' (width - Text.width line) ++ " "

/-- One line of a row. -/
def rowLine (widths : List Nat) (cells : List (List String)) (index : Nat) : String :=
  "│" ++ "┆".intercalate
    (List.zipWith (fun w lines => padded w ((lines[index]?).getD "")) widths cells) ++ "│"

/-- The lines of a row. -/
def rowLines (widths : List Nat) (row : List String) : List String :=
  let cells := row.map cellLines
  let height := cells.foldl (fun h lines => max h lines.length) 1
  (List.range height).map (rowLine widths cells)

/-- The lines of rows with a line of the frame between any two. -/
def bodyLines (widths : List Nat) (rows : List (List String)) : List String :=
  match rows with
  | [] => []
  | [row] => rowLines widths row
  | row :: rest =>
    rowLines widths row ++ rule '├' '╌' '┼' '┤' widths :: bodyLines widths rest

/-- A table of titles and rows. -/
def table (titles : List String) (rows : List (List String)) : String :=
  let widths := columnWidths (titles :: rows)
  "\n".intercalate
    (rule '┌' '─' '┬' '┐' widths :: rowLines widths titles ++
      rule '╞' '═' '╪' '╡' widths :: bodyLines widths rows ++
      [rule '└' '─' '┴' '┘' widths])

end Mailroom.Terminal
