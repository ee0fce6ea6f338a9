import PageGraft.Environment
import PageGraft.File.Store
import PageGraft.Text.Trim

/-!
# Assignments

A file of assignments gives defaults for environment variables, one on a line: a name, an equals
sign, and a value that can be in quotes. Values can refer to variables. A line that cannot be read is
left out.
-/

namespace PageGraft.Environment

open PageGraft.File PageGraft.Text

namespace Assignments

def isLineEnd (character : Char) : Bool :=
  character = '\n' || character = '\r'

/-- White space that does not end a line. -/
def isGap (character : Char) : Bool :=
  isSpace character && !isLineEnd character

def dropGap (text : List Char) : List Char :=
  text.dropWhile isGap

def dropLine (text : List Char) : List Char :=
  (text.dropWhile (!isLineEnd ·)).drop 1

/-! ## Values -/

/-- The body of a text in quotes up to its end, and what follows. A quote after a backslash ends the
text only if no other does. -/
def quotedBody? (quote : Char) : List Char → Option (List Char × List Char)
  | [] => none
  | '\\' :: character :: rest =>
    if character = quote then
      match quotedBody? quote rest with
      | some (body, behind) => some ('\\' :: character :: body, behind)
      | none => some (['\\'], rest)
    else (quotedBody? quote (character :: rest)).map fun (body, behind) => ('\\' :: body, behind)
  | character :: rest =>
    if character = quote then some ([], rest)
    else (quotedBody? quote rest).map fun (body, behind) => (character :: body, behind)

/-- The characters that stand for others after a backslash in double quotes. -/
def escapes : List (Char × Char) :=
  [('\\', '\\'), ('\'', '\''), ('"', '"'), ('a', '\x07'), ('b', '\x08'), ('f', '\x0c'),
    ('n', '\n'), ('r', '\r'), ('t', '\t'), ('v', '\x0b')]

/-- Replaces the escapes that are allowed. -/
def unescape (allowed : List (Char × Char)) : List Char → List Char
  | [] => []
  | '\\' :: character :: rest =>
    match allowed.lookup character with
    | some meaning => meaning :: unescape allowed rest
    | none => '\\' :: unescape allowed (character :: rest)
  | character :: rest => character :: unescape allowed rest

/-- Cuts a text before white space that a comment follows. -/
def cutComment : List Char → List Char
  | [] => []
  | character :: rest =>
    if isSpace character && (rest.dropWhile isSpace).head? = some '#' then []
    else character :: cutComment rest

/-- A value and what follows; nothing if a quote is not closed. -/
def value? (text : List Char) : Option (List Char × List Char) :=
  match text with
  | '\'' :: rest =>
    (quotedBody? '\'' rest).map fun (body, behind) => (unescape (escapes.take 2) body, behind)
  | '"' :: rest => (quotedBody? '"' rest).map fun (body, behind) => (unescape escapes body, behind)
  | text =>
    let line := text.takeWhile (!isLineEnd ·)
    some (dropEndWhile isSpace (cutComment line), text.drop line.length)

/-! ## Lines -/

/-- A name and what follows; a comment has no name. -/
def name? (text : List Char) : Option (Option (List Char) × List Char) :=
  match text with
  | '#' :: _ => some (none, text)
  | '\'' :: rest =>
    let name := rest.takeWhile (· ≠ '\'')
    match name, rest.drop name.length with
    | _ :: _, '\'' :: behind => some (some name, behind)
    | _, _ => none
  | text =>
    let name := text.takeWhile fun character =>
      character ≠ '=' && character ≠ '#' && !isSpace character
    if name.isEmpty then none else some (some name, text.drop name.length)

/-- The text without the word that can stand in front of a name. -/
def dropExport (text : List Char) : List Char :=
  let word := "export".toList
  if word.isPrefixOf text && ((text.drop word.length).head?.any isGap) then
    dropGap (text.drop word.length)
  else text

/-- The text after the end of a line, which only a comment can delay. -/
def endLine (text : List Char) : Except (List Char) (List Char) :=
  let behind :=
    match dropGap text with
    | '#' :: comment => comment.dropWhile (!isLineEnd ·)
    | _ => text
  match dropGap behind with
  | [] => .ok []
  | '\r' :: '\n' :: rest => .ok rest
  | character :: rest => if isLineEnd character then .ok rest else .error behind

/-- What is left after one assignment. -/
structure Reading where
  name : Option (List Char) := none
  value : Option (List Char) := none
  rest : List Char
deriving Repr, DecidableEq

/-- Reads one assignment. If it cannot be read, the rest begins where it failed. -/
def assignment (text : List Char) : Except (List Char) Reading := do
  let begun := dropExport text
  let some (name, behind) := name? begun | .error begun
  match dropGap behind with
  | '=' :: rest =>
    let given := dropGap rest
    let some (value, behind) := value? given | .error given
    return { name, value := some value, rest := ← endLine behind }
  | rest => return { name, rest := ← endLine rest }

/-- The assignments of a text in order. The fuel is the length of the text. -/
def assignments : Nat → List Char → List (List Char × Option (List Char))
  | 0, _ => []
  | fuel + 1, text =>
    match text.dropWhile isSpace with
    | [] => []
    | begun =>
      match assignment begun with
      | .error rest => assignments fuel (dropLine rest)
      | .ok reading =>
        (reading.name.map fun name => (name, reading.value)).toList ++
          assignments fuel reading.rest

/-! ## References -/

/-- A reference after its dollar sign and brace: the name, the default if there is one, and what
follows. -/
def reference? (text : List Char) : Option (List Char × Option (List Char) × List Char) :=
  let name := text.takeWhile fun character => character ≠ '\x7d' && character ≠ ':'
  match text.drop name.length with
  | '\x7d' :: rest => some (name, none, rest)
  | ':' :: '-' :: rest =>
    let default := rest.takeWhile (· ≠ '\x7d')
    match rest.drop default.length with
    | _ :: behind => some (name, some default, behind)
    | [] => none
  | _ => none

/-- Puts values in the place of references. The fuel is the length of the text. -/
def expand (value? : String → Option String) : Nat → List Char → List Char
  | 0, _ | _, [] => []
  | fuel + 1, '$' :: '\x7b' :: rest =>
    match reference? rest with
    | some (name, default, behind) =>
      let value := (value? (String.ofList name)).map (·.toList)
      value.getD (default.getD []) ++ expand value? fuel behind
    | none => '$' :: expand value? fuel ('\x7b' :: rest)
  | fuel + 1, character :: rest => character :: expand value? fuel rest

end Assignments

open Assignments in
/-- The values that a text assigns, the last one first. A reference means the environment first, then
what has been assigned before; a name that stands without a value is empty. -/
def assigned (environment : Environment) (text : List Char) : List (String × Option String) :=
  (assignments text.length text).foldl
    (fun values (name, value) =>
      let lookup (name : String) : Option String :=
        (environment.get? name).orElse fun _ => (values.lookup name).map (·.getD "")
      let expanded := value.map fun value => String.ofList (expand lookup value.length value)
      (String.ofList name, expanded) :: values)
    []

/-- Adds what a text assigns to variables that are not set. A name without a value takes back what was
assigned to it before. -/
def withAssignments (environment : Environment) (text : List Char) : Environment :=
  let values := environment.assigned text
  environment.withDefaults <| values.filterMap fun (name, value) =>
    if (values.lookup name).join = value then value.map fun value => (name, value) else none

/-- The name of a file of assignments. -/
def assignmentsFile : String := ".env"

/-- Adds what the file of assignments gives, if it is there. -/
def withAssignmentsFile (environment : Environment) (store : Store) : Environment :=
  match store.readText (.ofText assignmentsFile) with
  | .ok text => environment.withAssignments text
  | .error _ => environment

end PageGraft.Environment
