import DiceNotation.Text.Columns

/-!
# Tables

A table is drawn with a title centred above it, a head, and rows in a box with rounded corners. A column is as wide as
its widest cell, with a blank on either side.
-/

namespace DiceNotation

/-- A column of a table: its head, and the side on which its cells stand. -/
structure Table.Column where
  head : List Char
  right : Bool

/-- A table. -/
structure Table where
  title : List Char
  columns : List Table.Column
  rows : List (List (List Char))

namespace Table

/-- The cells of a column, its head first. -/
def cells (t : Table) (i : Nat) (column : Column) : List (List Char) :=
  column.head :: t.rows.map fun row => row.getD i []

/-- The columns of the screen that each column takes, without the blanks beside it. -/
def widths (t : Table) : List Nat :=
  t.columns.mapIdx fun i column => ((t.cells i column).map Text.columns).foldl max 0

/-- A cell filled up to a width. -/
def fill (right : Bool) (width : Nat) (cell : List Char) : List Char :=
  let blanks := List.replicate (width - Text.columns cell) ' '
  if right then blanks ++ cell else cell ++ blanks

/-- A row between the sides of the box, in columns of some widths. -/
def row (columns : List Column) (widths : List Nat) (cells : List (List Char)) : List Char :=
  let filled := List.zipWith (fun (column, width) cell => ' ' :: fill column.right width cell ++ [' '])
    (columns.zip widths) cells
  '│' :: ['│'].intercalate filled ++ ['│']

/-- A horizontal rule with its ends and crossings, over columns of some widths. -/
def rule (widths : List Nat) (left crossing right : Char) : List Char :=
  left :: [crossing].intercalate (widths.map fun width => List.replicate (width + 2) '─') ++ [right]

/-- A title in the middle of a width; of an odd number of blanks one more stands behind it. -/
def centred (width : Nat) (title : List Char) : List Char :=
  let blanks := width - Text.columns title
  List.replicate (blanks / 2) ' ' ++ title ++ List.replicate (blanks - blanks / 2) ' '

/-- The lines of a table. -/
def lines (t : Table) : List (List Char) :=
  let widths := t.widths
  let top := rule widths '╭' '┬' '╮'
  [centred (Text.columns top) t.title, top, row t.columns widths (t.columns.map (·.head)), rule widths '├' '┼' '┤'] ++
    t.rows.map (row t.columns widths) ++ [rule widths '╰' '┴' '╯']

end Table

end DiceNotation
