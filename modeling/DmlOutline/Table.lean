import DmlOutline.Text.Split
import DmlOutline.Text.Width

/-!
# Tables

A table is drawn with rounded borders and one line below its header. Every column is as wide as its
widest line; a cell with several lines makes its row higher.

* `Table` — the rows, the header first.
* `Table.columnWidths` — the widths of the columns.
* `Table.lines` — the drawn table; `Table.render` is its text.
-/

namespace DmlOutline

/-- The rows of a table as the texts of their cells; the first row is the header. -/
structure Table where
  header : List String
  rows : List (List String)

namespace Table

/-- The lines of a cell. -/
def cellLines (cell : String) : List (List Char) :=
  Text.split '\n' cell.toList

/-- The width of the widest line of a cell. -/
def cellWidth (cell : String) : Nat :=
  ((cellLines cell).map Text.width).foldl max 0

/-- The wider of two rows, column by column. -/
def widest : List Nat → List Nat → List Nat
  | [], widths => widths
  | widths, [] => widths
  | a :: restA, b :: restB => max a b :: widest restA restB

/-- The widths of the columns. -/
def columnWidths (table : Table) : List Nat :=
  ((table.header :: table.rows).map (·.map cellWidth)).foldl widest []

/-- A line with blanks after it up to a width. -/
def padded (width : Nat) (line : List Char) : List Char :=
  line ++ List.replicate (width - Text.width line) ' '

/-- A border with a character for its left end, its crossings and its right end. -/
def border (left crossing right : Char) (widths : List Nat) : String :=
  String.ofList
    (left :: (Text.joinWith crossing (widths.map fun width => List.replicate (width + 2) '─')
      ++ [right]))

/-- One line of a row: the lines of its cells with this number, blank where a cell has fewer. -/
def rowLine (widths : List Nat) (cells : List (List (List Char))) (number : Nat) : String :=
  let parts := (widths.zip cells).map fun (width, lines) =>
    ' ' :: (padded width (lines[number]?.getD []) ++ [' '])
  String.ofList ('│' :: (Text.joinWith '│' parts ++ ['│']))

/-- The lines of a row. -/
def rowLines (widths : List Nat) (row : List String) : List String :=
  let cells := row.map cellLines
  let height := (cells.map List.length).foldl max 0
  (List.range height).map (rowLine widths cells)

/-- The lines of a table. -/
def lines (table : Table) : List String :=
  let widths := table.columnWidths
  [border '╭' '┬' '╮' widths] ++ rowLines widths table.header ++ [border '├' '┼' '┤' widths]
    ++ table.rows.flatMap (rowLines widths) ++ [border '╰' '┴' '╯' widths]

/-- The text of a table, without a line break at its end. -/
def render (table : Table) : String :=
  "\n".intercalate table.lines

end Table

end DmlOutline
