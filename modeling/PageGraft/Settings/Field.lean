import PageGraft.Data.Value
import PageGraft.File.Path
import PageGraft.Settings.Problem
import PageGraft.Text.Numeral
import PageGraft.Text.Trim

/-!
# Reading single settings

Each reader accepts a plain value for one kind of setting, or tells what is wrong with it. Readers
are lenient where nothing is lost: an integer may be written as a text or as a number without
fraction, a truth value as one of a few words.
-/

namespace PageGraft.Settings

open PageGraft.Data PageGraft.Text

/-- What a reader makes of a value: a result, or problems. -/
abbrev Reading (α : Type) := Except (List Problem) α

def Reading.fail {α : Type} (fault : Fault) : Reading α :=
  .error [⟨[], fault⟩]

def readText : Value → Reading String
  | .text value => .ok value
  | _ => .fail .notText

def readNonemptyText (value : Value) : Reading String := do
  let text ← readText value
  if text.isEmpty then .fail .textTooShort else pure text

/-- An ASCII letter, digit, underscore or dollar sign. -/
def isIdentifierCharacter (character : Char) : Bool :=
  character.isAlphanum || character == '_' || character == '$'

/-- A plain identifier: not empty, ASCII throughout, and not led by a digit. -/
def isIdentifier (name : String) : Bool :=
  match name.toList with
  | [] => false
  | first :: rest => !first.isDigit && (first :: rest).all isIdentifierCharacter

def checkIdentifier (name : String) : Reading String :=
  if isIdentifier name then .ok name else .fail (.notIdentifier name)

def readIdentifier (value : Value) : Reading String := do
  checkIdentifier (← readText value)

/-- A numeral from its first digit that is not zero, or from a minus sign behind zeros. Underscores
between the zeros do not count. A numeral of zeros keeps its last character, and one with a point the
character in front of the point. -/
def dropLeadingZeros? (text : List Char) : Option (List Char) :=
  match text with
  | '0' :: rest => go '0' rest
  | first :: _ => if first.isDigit || first == '-' then some text else none
  | [] => none
where
  go (last : Char) : List Char → Option (List Char)
    | [] => some [last]
    | character :: rest =>
      if character == '0' || character == '_' then go character rest
      else if character.isDigit || character == '-' then some (character :: rest)
      else if character == '.' then some (last :: character :: rest)
      else none

/-- A numeral without a fraction of zeros. -/
def dropZeroFraction (text : List Char) : List Char :=
  let whole := text.takeWhile (· ≠ '.')
  let fraction := (text.dropWhile (· ≠ '.')).drop 1
  if !fraction.isEmpty && fraction.all (· == '0') then whole else text

/-- The digits and the sign of an integer that is written as a text. -/
def integerDigits? (text : String) : Option (List Char) := do
  let trimmed := dropEndWhile isNumberSpace (text.toList.dropWhile isNumberSpace)
  let body ←
    match trimmed with
    | '+' :: '-' :: _ => none
    | '+' :: rest => some rest
    | _ => some trimmed
  let digits ← dropUnderscores? (dropZeroFraction (← dropLeadingZeros? body))
  guard (signedDigits? digits).isSome
  return digits

/-- How long an integer that is written as a text can be. -/
def integerLimit : Nat := 4300

/-- The integer that a text writes: a sign, digits with single underscores, and a fraction of zeros. -/
def integerOfText (text : String) : Reading Int :=
  match integerDigits? text with
  | none => .fail .integerText
  | some digits =>
    if integerLimit < digits.length then .fail .integerTooLong
    else
      match signedDigits? digits with
      | some value => .ok value
      | none => .fail .integerText

/-- The least number that no integer of a machine word reaches. -/
def wordLimit : Float := 9223372036854775808

/-- An integer from a number without fraction. -/
def integerOfNumber (value : Float) : Reading Int :=
  if value.isNaN || value.isInf then .fail .notFinite
  else if value.floor != value then .fail .fractional
  else if -wordLimit < value && value < wordLimit then .ok value.toInt64.toInt
  else .fail .integerTooLong

def readInteger : Value → Reading Int
  | .integer value => .ok value
  | .boolean value => .ok (if value then 1 else 0)
  | .number value => integerOfNumber value
  | .text value => integerOfText value
  | _ => .fail .notInteger

def trueWords : List String := ["1", "t", "y", "yes", "on", "true"]

def falseWords : List String := ["0", "f", "n", "no", "off", "false"]

/-- Whether a machine word holds an integer. -/
def isWord (value : Int) : Bool :=
  -9223372036854775808 ≤ value && value < 9223372036854775808

/-- The truth value of zero and one. An integer that no machine word holds is no truth value at all. -/
def booleanOfInteger (value : Int) : Reading Bool :=
  if value = 0 then .ok false
  else if value = 1 then .ok true
  else if isWord value then .fail .booleanText
  else .fail .notBoolean

def readBoolean : Value → Reading Bool
  | .boolean value => .ok value
  | .integer value => booleanOfInteger value
  | .number value =>
    match integerOfNumber value with
    | .ok value => booleanOfInteger value
    | .error _ => .fail .notBoolean
  | .text value =>
    let word := value.map Char.toLower
    if falseWords.contains word then .ok false
    else if trueWords.contains word then .ok true
    else .fail .booleanText
  | _ => .fail .notBoolean

def readPath : Value → Reading String
  | .text value => .ok (File.normalPath value)
  | _ => .fail .notPath

/-- Reads every item, and collects the problems of all. -/
def readItems {α : Type} (read : Value → Reading α) (position : Int) :
    List Value → Reading (List α)
  | [] => .ok []
  | item :: rest =>
    match read item, readItems read (position + 1) rest with
    | .ok first, .ok others => .ok (first :: others)
    | .ok _, .error problems => .error problems
    | .error problems, .ok _ => .error (problems.map (·.under (.index position)))
    | .error problems, .error others =>
      .error (problems.map (·.under (.index position)) ++ others)

/-- Names in rising order without repetition. -/
def sortedNames (names : List String) : List String :=
  (names.mergeSort fun left right => !(right < left)).eraseReps

def readNames (value : Value) : Reading (List String) :=
  match value.opened with
  | .list items => (readItems readText 0 items).map sortedNames
  | .set items => (readItems readText 0 items).map sortedNames
  | _ => .fail .notSet

/-- Reads names that all have to be identifiers. -/
def readIdentifiers (value : Value) : Reading (List String) := do
  let names ← readNames value
  match names.find? (!isIdentifier ·) with
  | some name => .fail (.notIdentifier name)
  | none => pure names

def readTexts (value : Value) : Reading (List String) :=
  match value.opened with
  | .list items => readItems readText 0 items
  | .set items => readItems readText 0 items
  | _ => .fail .notTuple

/-- Reads an integer of at least zero. -/
def readCount (value : Value) : Reading Nat := do
  let number ← readInteger value
  if number < 0 then .fail (.notAtLeast 0) else pure number.toNat

/-- Reads an integer above zero and not above a bound. -/
def readWidth (bound : Nat) (value : Value) : Reading Nat := do
  let number ← readInteger value
  if number ≤ 0 then .fail (.notGreater 0)
  else if bound < number then .fail (.notAtMost bound)
  else pure number.toNat

end PageGraft.Settings
