import PageGraft.Console.Wrap

/-!
# Panels

A text in a box with round corners that is as wide as the console, with a title in its upper edge.
-/

namespace PageGraft.Console

structure Panel where
  title : List Char
  body : List Char
deriving Repr, DecidableEq

namespace Panel

/-- The title on one line, with a space on both sides. -/
def label (panel : Panel) : List Char :=
  let line := (stripControls panel.title).map fun character =>
    if character = '\n' then ' ' else character
  spaces 1 ++ expandTabs line ++ spaces 1

/-- Sets a text in the middle of an edge; a cell that is left over is on the right. -/
def centre (width : Nat) (text : List Char) : List Char :=
  let shown := fit width text
  let room := width - cells shown
  dropOverhang width
    (List.replicate (room / 2) '─' ++ shown ++ List.replicate (room - room / 2) '─')

/-- The lines of a panel on a console. A console of up to four cells has no room for a title, and one
of a single cell has none for the right edge. -/
def lines (panel : Panel) (width : Nat) : List (List Char) :=
  let edge := List.replicate (width - 2) '─'
  let upper :=
    if width ≤ 4 then edge else '─' :: centre (width - 4) panel.label ++ ['─']
  let body := (wrap .ragged .fold (width - 4) panel.body).map fun line =>
    '│' :: spaces 1 ++ pad (width - 4) line ++ spaces 1 ++ ['│']
  let all := ['╭' :: upper ++ ['╮']] ++ body ++ ['╰' :: edge ++ ['╯']]
  all.map (fit width)

end Panel

end PageGraft.Console
