import PageGraft.Script.Call
import PageGraft.Script.ImportStatement
import PageGraft.Settings.Basic

/-!
# Cleaning

Turns component code into script that runs in a page of its own: imports go, state setters become
assignments, environment lookups, data requests and fallback data get their replacements.
-/

namespace PageGraft.Script

open PageGraft.Text PageGraft.Settings

/-- Deletes the word `undefined` where it stands alone. -/
def removeUndefined (code : List Char) : List Char :=
  (freeWord "undefined".toList).replaceAll [] code

/-- State setters become assignments. -/
def assignState (settings : TransformSettings) (code : List Char) : List Char :=
  replaceCalls setterCallee (setterToAssignment settings.preservedCalls) none code

/-- Requests for data become fetches. -/
def fetchData (settings : TransformSettings) (code : List Char) : List Char :=
  replaceCalls (namedCallee settings.fetchCallee.toList) requestToFetch none code

/-- Every substitution, in order; then lines of white space close up and the ends are trimmed. -/
def clean (settings : TransformSettings) (code : List Char) : List Char :=
  let code := importStatement.replaceAll [] code
  let code := assignState settings code
  let code := (wordEnding settings.envLookup.toList).replaceAll settings.envReplacement.toList code
  let code := fetchData settings code
  let code :=
    (freeWord settings.fallbackIdentifier.toList).replaceAll settings.fallbackAccessor.toList code
  let code := removeUndefined code
  trim (blankLines.replaceAll ['\n'] code)

/-- Puts a prefix before every line that is not blank. -/
def indentLines (indent code : List Char) : List Char :=
  unlines ((lines code).map fun line => if isBlankLine line then line else indent ++ line)

end PageGraft.Script
