import FormLogic.Text.Width
import FormLogic.Text.Words

/-!
# FormLogic.Command.Table

Tables with round corners.

* `columnWidths`: the widths that the cells of columns need;
* `Table.render`: a table with its head and its rows.
-/

namespace FormLogic
namespace Command

open Text

/-- A head and rows, all of the same length. -/
structure Table where
  head : List String
  rows : List (List String)
deriving DecidableEq, Repr

/-- The lines of a cell, at least one. -/
def cellLines (cell : String) : List (List Char) := splitWhere (· == '\n') cell.toList

def cellWidth (cell : String) : Nat := ((cellLines cell).map textWidth).foldl max 0

/-- The widths that the cells of columns need. -/
def columnWidths (t : Table) : List Nat :=
  t.rows.foldl (fun widths row => (widths.zip (row.map cellWidth)).map fun p => max p.1 p.2)
    (t.head.map cellWidth)

/-- A line between rows or at an end of the table. -/
def ruleLine (left cross right : Char) (widths : List Nat) : List Char :=
  left :: [cross].intercalate (widths.map fun w => List.replicate (w + 2) '─') ++ [right]

/-- One line of a cell, padded to a width. -/
def padCell (width : Nat) (line : List Char) : List Char :=
  ' ' :: line ++ List.replicate (width - textWidth line) ' ' ++ [' ']

/-- One line of a row. -/
def rowLine (widths : List Nat) (cells : List (List Char)) : List Char :=
  '│' :: ['│'].intercalate ((widths.zip cells).map fun p => padCell p.1 p.2) ++ ['│']

/-- The lines of a row, as many as its highest cell has. -/
def rowLines (widths : List Nat) (row : List String) : List (List Char) :=
  let cells := row.map cellLines
  let height := (cells.map List.length).foldl max 1
  (List.range height).map fun i => rowLine widths (cells.map fun lines => lines[i]?.getD [])

/-- The lines of a table; one without rows ends in the line below its head. -/
def Table.lines (t : Table) : List (List Char) :=
  let widths := columnWidths t
  ruleLine '╭' '┬' '╮' widths :: rowLines widths t.head ++
    ruleLine '├' '┼' '┤' widths :: t.rows.flatMap (rowLines widths) ++
    if t.rows.isEmpty then [] else [ruleLine '╰' '┴' '╯' widths]

def Table.render (t : Table) : String :=
  "\n".intercalate (t.lines.map String.ofList)

end Command
end FormLogic
