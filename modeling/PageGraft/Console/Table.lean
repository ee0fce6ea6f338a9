import PageGraft.Console.Wrap

/-!
# Tables

A boxed table of labels and counts with a title above it. The table is as wide as its content; on a
narrow console the wider column gives way first.
-/

namespace PageGraft.Console

/-- A table of two columns; the second is set to the right. -/
structure Table where
  title : List Char
  rows : List (List Char × List Char)
deriving Repr, DecidableEq

/-- The widths of the two columns with their padding. -/
structure Columns where
  left : Nat
  right : Nat
deriving Repr, DecidableEq

namespace Columns

def total (columns : Columns) : Nat :=
  columns.left + columns.right

/-- Half of a number, to the even neighbour. -/
def halfToEven (number : Nat) : Nat :=
  number / 2 + if number % 4 = 3 then 1 else 0

/-- Takes an excess off: off the wider column as long as it is wider, and then off both alike. -/
def reduce (columns : Columns) (excess : Nat) : Columns :=
  let difference := max columns.left columns.right - min columns.left columns.right
  let first := min excess difference
  let rest := excess - first
  let half := halfToEven rest
  let levelled : Columns :=
    if columns.left < columns.right then ⟨columns.left, columns.right - first⟩
    else ⟨columns.left - first, columns.right⟩
  ⟨levelled.left - half, levelled.right - (rest - half)⟩

end Columns

namespace Table

/-- The width that a column needs in a given room: its widest text and a space on both sides. -/
def columnWidth (room : Nat) (texts : List (List Char)) : Nat :=
  max 1 (min room ((texts.map cells).foldl max 0 + 2))

/-- The widths of the columns on a console. Three cells go to the box. -/
def columns (table : Table) (width : Nat) : Columns :=
  let room := width - 3
  let wanted : Columns :=
    ⟨columnWidth room (table.rows.map (·.1)), columnWidth room (table.rows.map (·.2))⟩
  wanted.reduce (wanted.total - room)

/-- The lines of a text in a column, with a space on both sides. -/
def cellLines (justification : Justification) (width : Nat) (text : List Char) :
    List (List Char) :=
  (wrap justification .ellipsis (width - 2) text).map fun line =>
    spaces 1 ++ pad (width - 2) line ++ spaces 1

/-- A line of the box. -/
def rule (columns : Columns) (left middle right : Char) : List Char :=
  left :: List.replicate columns.left '─' ++ middle :: List.replicate columns.right '─' ++ [right]

/-- The lines of a row, as many as its higher cell has, and one at least. -/
def rowLines (columns : Columns) (row : List Char × List Char) : List (List Char) :=
  let label := cellLines .left columns.left row.1
  let count := cellLines .right columns.right row.2
  (List.range (max 1 (max label.length count.length))).map fun index =>
    '│' :: pad columns.left (label.getD index []) ++
      '│' :: pad columns.right (count.getD index []) ++ ['│']

/-- The lines of a table on a console. -/
def lines (table : Table) (width : Nat) : List (List Char) :=
  let columns := table.columns width
  let all := wrap .center .fold (columns.total + 3) table.title ++
    [rule columns '┌' '┬' '┐'] ++ table.rows.flatMap (rowLines columns) ++
    [rule columns '└' '┴' '┘']
  all.map (fit width)

end Table

end PageGraft.Console
