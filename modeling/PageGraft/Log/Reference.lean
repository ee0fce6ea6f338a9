import PageGraft.Log.Vocabulary
import PageGraft.Text.Decimal

/-!
# References in log settings

A text in the settings can stand for something else: behind `cfg://` it is the way to another part of
the settings, and behind `ext://` a name of the vocabulary. What a reference leads to can be a reference
again.
-/

namespace PageGraft.Log

open PageGraft.Data PageGraft.Text

/-- Why a reference leads nowhere. -/
inductive ReferenceFault where
  | noKey (key : Value)
  | notWritten (way : String)
  | notWrittenAt (way rest : String)
  | unknownName (path : String)
  | emptyName
  | noParts (kind : String)
  | notPosition (kind : String)
  | outOfRange (kind : String)
  | endless
deriving Repr

def ReferenceFault.message : ReferenceFault → String
  | .noKey key => key.quoted
  | .notWritten way => s!"Unable to convert {quoted way}"
  | .notWrittenAt way rest => s!"Unable to convert {quoted way} at {quoted rest}"
  | .unknownName path => s!"Cannot resolve {quoted path}: {Named.absence path}"
  | .emptyName => "Empty module name"
  | .noParts kind => s!"'{kind}' object is not subscriptable"
  | .notPosition "str" => "string indices must be integers, not 'str'"
  | .notPosition kind => s!"{kind} indices must be integers or slices, not str"
  | .outOfRange "str" => "string index out of range"
  | .outOfRange kind => s!"{kind} index out of range"
  | .endless => "maximum recursion depth exceeded"

namespace Named

def isTrue : Named → Bool
  | value held => held.isTrue
  | _ => true

/-- The value that is named, if it is one. -/
def value? : Named → Option Value
  | value held => some held
  | _ => none

def text? (named : Named) : Option String :=
  match named with
  | value (.text text) => some text
  | _ => none

/-- The entries of a mapping. -/
def entries? (named : Named) : Option (List (Value × Value)) :=
  match named with
  | value (.mapping entries) => some entries
  | _ => none

end Named

/-- A step on the way to a part: a key, or a position that can also be a key. -/
inductive ReferenceStep where
  | key (word : String)
  | position (number : Nat)
deriving Repr, DecidableEq

/-- Settings in which references can be followed. `made` are the names, by their sections, of the parts
that have been made from what the settings say; nothing is left in them to look into. -/
structure Scope where
  settings : List (Value × Value)
  made : List (String × Value) := []
deriving Repr

/-! ## Reading the way -/

/-- The word of a scheme and what is behind it. The word is in small letters, and the rest is one
line. -/
def scheme? (text : String) : Option (String × String) :=
  let isSmall (character : Char) : Bool := 'a' ≤ character && character ≤ 'z'
  let scheme := text.toList.takeWhile isSmall
  match text.toList.dropWhile isSmall with
  | ':' :: '/' :: '/' :: rest =>
    let line := if rest.getLast? = some '\n' then rest.dropLast else rest
    if scheme.isEmpty || line.contains '\n' then none
    else some (String.ofList scheme, String.ofList line)
  | _ => none

/-- A word with white space around it, and the rest. -/
def spacedWord? (text : List Char) : Option (String × List Char) :=
  let started := text.dropWhile isSpace
  let word := started.takeWhile isWordPart
  if word.isEmpty then none
  else some (String.ofList word, (started.dropWhile isWordPart).dropWhile isSpace)

/-- A step at the beginning of a text, and the rest: a word behind a point or in brackets. -/
def referenceStep? (text : List Char) : Option (ReferenceStep × List Char) :=
  match text with
  | '.' :: rest => (spacedWord? rest).map fun (word, rest) => (.key word, rest)
  | '[' :: rest =>
    match spacedWord? rest with
    | some (word, ']' :: behind) =>
      let step : ReferenceStep :=
        if word.toList.all Char.isDigit then .position (ofDigits word.toList) else .key word
      some (step, behind.dropWhile isSpace)
    | _ => none
  | _ => none

/-- The steps of a way behind its first word, up to where it is not written well. The fuel is the
length of the text. -/
def referenceSteps : Nat → List Char → List ReferenceStep × List Char
  | 0, text => ([], text)
  | fuel + 1, text =>
    match referenceStep? text with
    | none => ([], text)
    | some (step, rest) =>
      let (steps, rest) := referenceSteps fuel rest
      (step :: steps, rest)

/-! ## Following the way -/

/-- The value under a key, or an item at a position. -/
def stepInto (value : Value) (step : ReferenceStep) : Except ReferenceFault Value :=
  let at? (kind : String) (items : List Value) : Except ReferenceFault Value :=
    match step with
    | .key _ => .error (.notPosition kind)
    | .position number =>
      match items[number]? with
      | some item => .ok item
      | none => .error (.outOfRange kind)
  match value with
  | .mapping entries =>
    let key : Value :=
      match step with
      | .key word => .text word
      | .position number => .integer number
    match entries.find? fun (other, _) => Value.sameKey other key with
    | some (_, value) => .ok value
    | none => .error (.noKey key)
  | .list items => at? "list" items
  | .tuple items => at? "tuple" items
  | .text text => at? "str" (text.toList.map fun character => .text character.toString)
  | value => .error (.noParts value.kindName)

namespace Scope

/-- How many references can lead to one another. -/
def depth : Nat := 200

/-- The part at the end of a way; what is there is read. -/
def follow (scope : Scope) (read : Value → Except ReferenceFault Named) :
    List ReferenceStep → Named → Except ReferenceFault Named
  | [], named => .ok named
  | step :: rest, named => do
    match named with
    | .value value => scope.follow read rest (← read (← stepInto value step))
    | named => .error (.noParts named.kindName)

/-- Whether a way begins with the name of a part that has been made. -/
def leadsToMade (scope : Scope) (section_ : String) (steps : List ReferenceStep) : Bool :=
  match steps with
  | .key name :: _ => scope.made.any fun (other, made) =>
    other = section_ && Value.sameKey made (.text name)
  | .position number :: _ => scope.made.any fun (other, made) =>
    other = section_ && Value.sameKey made (.integer number)
  | [] => false

/-- What the text of a reference leads to. -/
def followWay (scope : Scope) (read : Value → Except ReferenceFault Named) (way : String) :
    Except ReferenceFault Named := do
  match spacedWord? way.toList with
  | none => throw (.notWritten way)
  | some (word, rest) =>
    let (steps, rest) := referenceSteps rest.length rest
    let start ← read (← stepInto (.mapping scope.settings) (.key word))
    if scope.leadsToMade word steps then
      if steps.length = 1 && rest.isEmpty then return .other "object"
      else throw (.noParts "object")
    let found ← scope.follow read steps start
    if rest.isEmpty then return found else throw (.notWrittenAt way (String.ofList rest))

/-- What a value stands for, through references up to a depth. -/
def readWithin (scope : Scope) : Nat → Value → Except ReferenceFault Named
  | 0, _ => .error .endless
  | fuel + 1, value =>
    match value.opened with
    | .text text =>
      match scheme? text with
      | some ("ext", path) =>
        if path.toList.takeWhile (· ≠ '.') = [] then .error .emptyName
        else
          match Named.ofPath? path with
          | some named => .ok named
          | none => .error (.unknownName path)
      | some ("cfg", way) => scope.followWay (scope.readWithin fuel) way
      | _ => .ok (.value (.text text))
    | value => .ok (.value value)

/-- What a value stands for. -/
def read (scope : Scope) (value : Value) : Except ReferenceFault Named :=
  scope.readWithin depth value

/-- What the value of a key stands for, if the key is there. -/
def read? (scope : Scope) (entries : List (Value × Value)) (key : String) :
    Except ReferenceFault (Option Named) := do
  match Value.get? entries key with
  | none => return none
  | some value => return some (← scope.read value)

end Scope

end PageGraft.Log
