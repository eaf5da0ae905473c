import CardBridge.Text.Pieces
import CardBridge.Text.Width

/-!
# Tables of text

Rows of cells in a frame of lines. A cell may have several lines; a column
is as wide as the widest line in it, with a blank on either side.
-/

namespace CardBridge.Text.Table

/-- A cell, by its lines. -/
abbrev Cell := List (List Char)

/-- The lines of a text; there is at least one. -/
def cell : List Char → Cell :=
  pieces '\n'

/-- The width of the widest line of a cell. -/
def cellWidth (c : Cell) : Nat :=
  (c.map width).foldl max 0

def columnWidths (columns : Nat) (rows : List (List Cell)) : List Nat :=
  (List.range columns).map fun i =>
    (rows.map fun row => cellWidth (row.getD i [])).foldl max 0

/-- A line of a cell, filled up to the width of its column. -/
def padded (columnWidth : Nat) (line : List Char) : List Char :=
  ' ' :: line ++ List.replicate (columnWidth - width line + 1) ' '

/-- The line number `n` of a row. -/
def rowLine (widths : List Nat) (row : List Cell) (n : Nat) : List Char :=
  let cells := (widths.zip row).map fun (w, c) => padded w (c.getD n [])
  '│' :: ['┆'].intercalate cells ++ ['│']

def rowLines (widths : List Nat) (row : List Cell) : List (List Char) :=
  let height := (row.map List.length).foldl max 1
  (List.range height).map (rowLine widths row)

/-- A line between rows: its ends, its crossings, and what it is drawn of. -/
def rule (left line crossing right : Char) (widths : List Nat) : List Char :=
  let parts := widths.map fun w => List.replicate (w + 2) line
  left :: [crossing].intercalate parts ++ [right]

/-- The lines of a table whose first row is its heading. -/
def lines (heading : List Cell) (rows : List (List Cell)) :
    List (List Char) :=
  let widths := columnWidths heading.length (heading :: rows)
  let body := [rule '├' '╌' '┼' '┤' widths].intercalate
    (rows.map (rowLines widths))
  rule '┌' '─' '┬' '┐' widths ::
    rowLines widths heading ++
    rule '╞' '═' '╪' '╡' widths ::
    body ++
    [rule '└' '─' '┴' '┘' widths]

end CardBridge.Text.Table
