import Chargeback.Text.Split
import Chargeback.Text.Width

/-!
# Tables

A table has a header and rows of cells, drawn with rounded borders and a line below the header.
Every column is as wide as its widest cell, in display columns, and cells are aligned to the left. A
cell may have several lines; the other cells of its row are filled up with blank ones.
-/

namespace Chargeback.Display

/-- The lines of a cell. -/
abbrev Cell := List String

/-- A row of spaces or strokes. -/
def repeated (n : Nat) (c : Char) : String := String.ofList (List.replicate n c)

/-- A line of a cell, filled up to a width. -/
def padded (width : Nat) (line : String) : String :=
  line ++ repeated (width - displayWidth line) ' '

/-- The width of a cell. -/
def Cell.width (cell : Cell) : Nat := (cell.map displayWidth).foldl max 0

/-- The width of every column. -/
def columnWidths (columns : Nat) (rows : List (List Cell)) : List Nat :=
  rows.foldl (fun widths row => List.zipWith max widths (row.map Cell.width))
    (List.replicate columns 0)

/-- A horizontal line. -/
def border (left middle right : String) (widths : List Nat) : String :=
  left ++ middle.intercalate (widths.map fun w => repeated (w + 2) '─') ++ right

/-- Line `i` of a row of cells. -/
def rowLine (widths : List Nat) (row : List Cell) (i : Nat) : String :=
  let cells := List.zipWith (fun w cell => " " ++ padded w (cell.getD i "") ++ " ") widths row
  "│" ++ "│".intercalate cells ++ "│"

/-- The lines of a row of cells. -/
def rowLines (widths : List Nat) (row : List Cell) : List String :=
  (List.range ((row.map List.length).foldl max 0)).map (rowLine widths row)

/-- Draws a table. -/
def table (header : List String) (rows : List (List String)) : List String :=
  let header := header.map (pieces '\n')
  let rows := rows.map (·.map (pieces '\n'))
  let widths := columnWidths header.length (header :: rows)
  [border "╭" "┬" "╮" widths] ++ rowLines widths header ++ [border "├" "┼" "┤" widths] ++
    rows.flatMap (rowLines widths) ++ [border "╰" "┴" "╯" widths]

end Chargeback.Display
