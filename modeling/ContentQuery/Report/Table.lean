import ContentQuery.Text.Lines
import ContentQuery.Text.DisplayWidth

/-!
# Boxed tables

A table with a heading, drawn with box characters. Cells are left aligned with one blank on either
side, a line stands between all rows, and a cell with line breaks takes several lines.
-/

set_option autoImplicit false

namespace ContentQuery.Report

/-! ## Cells -/

/-- A cell as its lines. -/
abbrev Cell := List (List Char)

def Cell.ofText (s : String) : Cell := Text.lines s.toList

/-- The width of the widest line. -/
def Cell.width (cell : Cell) : Nat := (cell.map Text.displayWidth).foldl max 0

/-- The number of lines of a row of cells, at least one. -/
def rowHeight (row : List Cell) : Nat := (row.map List.length).foldl max 1

/-- The widths of the columns. -/
def columnWidths (rows : List (List Cell)) : List Nat :=
  let count := (rows.map List.length).foldl max 0
  (List.range count).map fun i => (rows.map fun row => (row.getD i []).width).foldl max 0

/-! ## Lines -/

def padRight (width : Nat) (line : List Char) : List Char :=
  line ++ List.replicate (width - Text.displayWidth line) ' '

/-- A line between rows, from its left, middle and right corners. -/
def ruler (left middle right : Char) (widths : List Nat) : List Char :=
  let spans := widths.map fun width => List.replicate (width + 2) '─'
  left :: List.intercalate [middle] spans ++ [right, '\n']

/-- One line of a row. -/
def rowLine (widths : List Nat) (row : List Cell) (i : Nat) : List Char :=
  let cells := (List.range widths.length).map fun j =>
    ' ' :: padRight (widths.getD j 0) ((row.getD j []).getD i []) ++ [' ']
  '│' :: List.intercalate ['│'] cells ++ ['│', '\n']

def rowLines (widths : List Nat) (row : List Cell) : List Char :=
  (List.range (rowHeight row)).flatMap (rowLine widths row)

/-- A table of a heading and rows. -/
def table (heading : List String) (rows : List (List String)) : String :=
  let heading := heading.map Cell.ofText
  let rows := rows.map (·.map Cell.ofText)
  let widths := columnWidths (heading :: rows)
  let between := ruler '├' '┼' '┤' widths
  String.ofList (ruler '┌' '┬' '┐' widths ++ rowLines widths heading ++ between
    ++ List.intercalate between (rows.map (rowLines widths))
    ++ ruler '└' '┴' '┘' widths)

end ContentQuery.Report
