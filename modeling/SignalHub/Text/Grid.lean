import SignalHub.Text.Pieces
import SignalHub.Text.Width

/-!
# Grids

A table drawn with plain characters.  Every column is as wide as the widest
line of its cells, with one blank on either side.  A cell is broken at line
breaks only, and a row is as high as its highest cell.

The program leaves the drawing of tables to a library outside of it, which is
spelled out here as it is assumed to draw by default: with these characters, with
columns measured by display width, and without an upper limit on what a column or
the whole table takes.
-/

namespace SignalHub.Text

structure Grid where
  header : List (List Char)
  rows : List (List (List Char))
deriving DecidableEq, Repr

namespace Grid

/-- The lines of a cell. -/
def cellLines (cell : List Char) : List (List Char) :=
  pieces '\n' cell

/-- The columns that a cell needs. -/
def cellWidth (cell : List Char) : Nat :=
  ((cellLines cell).map width).foldl max 0

/-- Column by column the greater of two lists of widths. -/
def widest : List Nat → List Nat → List Nat
  | first :: left, second :: right => max first second :: widest left right
  | [], right => right
  | left, [] => left

/-- The widths of the columns. -/
def widths (grid : Grid) : List Nat :=
  ((grid.header :: grid.rows).map fun row => row.map cellWidth).foldl widest []

/-- A line of a cell, filled up to the width of its column. -/
def fill (columns : Nat) (line : List Char) : List Char :=
  line ++ List.replicate (columns - width line) ' '

/-- How many lines a row takes. -/
def height (row : List (List Char)) : Nat :=
  (row.map fun cell => (cellLines cell).length).foldl max 0

/-- One line of a row. -/
def rowLine (columns : List Nat) (row : List (List Char)) (index : Nat) :
    List Char :=
  let parts :=
    List.zipWith
      (fun size cell =>
        [' '] ++ fill size ((cellLines cell)[index]?.getD []) ++ [' '])
      columns row
  ['|'] ++ ['|'].intercalate parts ++ ['|']

/-- The lines of a row. -/
def rowLines (columns : List Nat) (row : List (List Char)) :
    List (List Char) :=
  (List.range (height row)).map (rowLine columns row)

/-- A ruled line: its ends, what crosses it between columns, and what it is
drawn with. -/
def rule (side cross stroke : Char) (columns : List Nat) : List Char :=
  let parts := columns.map fun size => List.replicate (size + 2) stroke
  [side] ++ [cross].intercalate parts ++ [side]

def outerRule (columns : List Nat) : List Char :=
  rule '+' '+' '-' columns

/-- Below the header nothing crosses. -/
def headerRule (columns : List Nat) : List Char :=
  rule '+' '=' '=' columns

def innerRule (columns : List Nat) : List Char :=
  rule '|' '+' '-' columns

/-- The rows with a ruled line between any two. -/
def body (columns : List Nat) : List (List (List Char)) → List (List Char)
  | [] => []
  | [row] => rowLines columns row
  | row :: rest =>
      rowLines columns row ++ [innerRule columns] ++ body columns rest

/-- All lines of the drawing. -/
def drawing (grid : Grid) : List (List Char) :=
  let columns := grid.widths
  [outerRule columns] ++ rowLines columns grid.header ++
    [headerRule columns] ++ body columns grid.rows ++ [outerRule columns]

/-- The drawing as one text, without a line break at the end. -/
def render (grid : Grid) : String :=
  String.ofList (['\n'].intercalate grid.drawing)

end Grid

end SignalHub.Text
