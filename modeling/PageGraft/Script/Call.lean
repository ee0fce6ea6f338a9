import PageGraft.Script.Statement
import PageGraft.Text.Substitute

/-!
# Calls

Replacing calls in a script as text. A callee is recognised in front of an opening parenthesis, and
the arguments reach to the parenthesis that closes it.
-/

namespace PageGraft.Script

open PageGraft.Text

/-- Replaces every call whose callee is found by what `build` makes of the callee and the
arguments. Calls in the arguments are replaced first. A call whose parentheses do not match, or for
which `build` makes nothing, keeps its callee and its parenthesis. A callee found is followed by an
opening parenthesis. -/
def replaceCalls (callee : Finder) (build : List Char → List Char → Option (List Char))
    (previous : Option Char) : List Char → List Char
  | [] => []
  | character :: rest =>
    match callee previous (character :: rest) with
    | none => character :: replaceCalls callee build (some character) rest
    | some length =>
      let afterCallee := (character :: rest).drop length
      let inner := (character :: rest).drop (length + 1)
      let replaced := do
        let distance ← groupLength afterCallee
        let arguments := replaceCalls callee build none (inner.take (distance - 1))
        let replacement ← build ((character :: rest).take length) arguments
        pure (replacement, distance)
      match replaced with
      | none =>
        (character :: rest).take (length + 1) ++ replaceCalls callee build (some '(') inner
      | some (replacement, distance) =>
        replacement ++ replaceCalls callee build (some ')') (inner.drop distance)
termination_by text => text.length
decreasing_by all_goals simp only [List.length_take, List.length_drop, List.length_cons]; omega

/-- The first argument of an argument list. -/
def firstArgument (arguments : List Char) : List Char :=
  trim <|
    match topLevelDistance (· == ',') arguments with
    | some distance => arguments.take distance
    | none => arguments

/-- Finds the callee of a state setter: `set` and a capitalised name. -/
def setterCallee : Finder := fun previous text =>
  match text with
  | 's' :: 'e' :: 't' :: capital :: rest =>
    let name := rest.takeWhile isNamePart
    if startsWord previous && capital.isUpper && (rest.drop name.length).head? == some '(' then
      some (name.length + 4)
    else none
  | _ => none

/-- Finds a callee given by its text. -/
def namedCallee (name : List Char) : Finder := fun previous text =>
  if startsWord previous && name.isPrefixOf text && (text.drop name.length).head? == some '(' then
    some name.length
  else none

/-- A name with a small first letter. -/
def decapitalise : List Char → List Char
  | [] => []
  | first :: rest => first.toLower :: rest

/-- A state setter becomes an assignment, unless its name is preserved. -/
def setterToAssignment (preserved : List String) (callee arguments : List Char) :
    Option (List Char) :=
  if preserved.contains (String.ofList callee) then none
  else some (decapitalise (callee.drop 3) ++ " = ".toList ++ arguments)

/-- A request for data keeps its first argument and answers the data itself. -/
def requestToFetch (_callee arguments : List Char) : Option (List Char) :=
  some ("fetch(".toList ++ firstArgument arguments ++ ").then(res => res.json())".toList)

end PageGraft.Script
