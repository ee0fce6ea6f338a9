/-!
# Paths

The normal form of a path: empty and `.` parts go, `..` parts stay, a leading slash stays, and so do
exactly two leading slashes. The path without parts is written as a dot.
-/

namespace PageGraft.File

/-- A path in parts. `root` is empty for a relative path. -/
structure Path where
  root : String := ""
  parts : List String := []
deriving Repr, DecidableEq

namespace Path

/-- The slashes that a path begins with, as far as they count. -/
def rootOf : List Char → String
  | '/' :: '/' :: '/' :: _ => "/"
  | '/' :: '/' :: _ => "//"
  | '/' :: _ => "/"
  | _ => ""

def ofText (text : String) : Path where
  root := rootOf text.toList
  parts :=
    (text.toList.splitOn '/').map String.ofList |>.filter fun part => part ≠ "" && part ≠ "."

def toText (path : Path) : String :=
  if path.root = "" && path.parts.isEmpty then "."
  else path.root ++ "/".intercalate path.parts

/-- The last part, or nothing if there is none. -/
def fileName (path : Path) : String :=
  path.parts.getLast?.getD ""

end Path

/-- A path text in normal form. -/
def normalPath (text : String) : String :=
  (Path.ofText text).toText

end PageGraft.File
