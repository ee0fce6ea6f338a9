import PageGraft.Script.Bracket

/-!
# Arguments and statements

Where an argument and where an expression statement end: both are cut outside brackets, strings,
template literals and comments.
-/

namespace PageGraft.Script

open PageGraft.Text

/-- The number of characters before the first one of a class that stands outside brackets and
literals. -/
def topLevelDistance (stops : Char → Bool) : List Char → Option Nat
  | [] => none
  | character :: rest =>
    if stops character then some 0
    else
      match opening (character :: rest) with
      | .unterminated => none
      | .piece further => (topLevelDistance stops (rest.drop further)).map (· + (further + 1))
      | .code =>
        if isOpener character then
          match groupLength (character :: rest) with
          | none => none
          | some distance => (topLevelDistance stops (rest.drop distance)).map (· + (distance + 1))
        else (topLevelDistance stops rest).map (· + 1)
termination_by text => text.length
decreasing_by all_goals simp only [List.length_drop, List.length_cons]; omega

/-- The index of the first character of a class outside brackets and literals, searched from an
index on. -/
def findTopLevel (text : List Char) (stops : Char → Bool) (start : Nat) : Option Nat :=
  (topLevelDistance stops (text.drop start)).map (· + start)

/-- A line or block comment begins the text. -/
def startsComment : List Char → Bool
  | '/' :: '/' :: _ => true
  | '/' :: '*' :: _ => true
  | _ => false

/-- The length of the expression statement that a text begins with. It ends before the first
semicolon, newline or comment outside brackets and literals; where brackets are unbalanced or a
literal does not end, it ends with its line. -/
def statementLength : List Char → Nat
  | [] => 0
  | character :: rest =>
    if character = ';' || character = '\n' || startsComment (character :: rest) then 0
    else
      match opening (character :: rest) with
      | .unterminated => lineLength (character :: rest)
      | .piece further => statementLength (rest.drop further) + (further + 1)
      | .code =>
        if isOpener character then
          match groupLength (character :: rest) with
          | none => lineLength (character :: rest)
          | some distance => statementLength (rest.drop distance) + (distance + 1)
        else statementLength rest + 1
termination_by text => text.length
decreasing_by all_goals simp only [List.length_drop, List.length_cons]; omega

/-- The index at which the expression statement that begins at an index ends. -/
def findStatementEnd (text : List Char) (start : Nat) : Nat :=
  min start text.length + statementLength (text.drop start)

end PageGraft.Script
