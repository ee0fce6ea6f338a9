import PageGraft.Log.Layout.Number
import PageGraft.Text.Character

/-!
# Layouts with percent signs

A percent sign and a name in parentheses make a place. Flags, a width, a precision and a letter tell
how the field of the name is written there.
-/

namespace PageGraft.Log.Layout

open PageGraft.Data PageGraft.Text

/-- How a field is written in a place. The kind is a letter. -/
structure PercentForm where
  flags : List Char := []
  width : Nat := 0
  precision : Option Nat := none
  kind : Char
deriving Repr, DecidableEq

/-- A piece of a layout: a place for a field, or text. -/
inductive PercentPiece where
  | text (character : Char)
  | place (name : String) (form : PercentForm)
deriving Repr, DecidableEq

namespace PercentForm

def has (form : PercentForm) (flag : Char) : Bool :=
  form.flags.contains flag

/-- Parts of a number, filled up to the width: with zeros behind the sign, or with spaces. -/
def fill (form : PercentForm) (parts : NumberParts) (isNumber : Bool) : List Char :=
  let front := parts.sign ++ parts.mark
  let body := parts.whole ++ parts.tail
  let gap := form.width - (front ++ body).length
  if form.has '-' then front ++ body ++ List.replicate gap ' '
  else if isNumber && form.has '0' then front ++ List.replicate gap '0' ++ body
  else List.replicate gap ' ' ++ front ++ body

def sign (form : PercentForm) (number : Number) : List Char :=
  signOf number.isNegative (form.has '+') (form.has ' ')

/-- A whole number; the precision is its least number of digits. -/
def whole (form : PercentForm) (value : Int) : NumberParts :=
  let digits := Nat.toDigits (baseOf form.kind) value.natAbs
  let zeros := List.replicate (form.precision.getD 0 - digits.length) '0'
  { sign := form.sign (.whole value)
    mark := if form.has '#' then markOf form.kind else []
    whole := zeros ++ digits }

/-- A real number; the precision is the number of its decimal places or of its digits. -/
def real (form : PercentForm) (number : Number) (value : Float) : NumberParts :=
  { realParts form.kind (form.precision.getD 6) (form.has '#') value with sign := form.sign number }

/-- The only character of a text, or that of a code point. -/
def character? : Content → Option Char
  | .value (.text text) =>
    match text.toList with
    | [character] => some character
    | _ => none
  | content =>
    match content.number? with
    | some (.whole value) =>
      if 0 ≤ value && value.toNat.isValidChar then some (Char.ofNat value.toNat) else none
    | _ => none

/-- What is written for a content, unless it is not of the kind that the letter asks for. -/
def write? (form : PercentForm) (content : Content) : Option (List Char) :=
  let asText (text : List Char) : List Char :=
    form.fill { whole := text.take (form.precision.getD text.length) } false
  let capital (parts : NumberParts) : NumberParts :=
    if form.kind.isUpper then parts.mapBody Char.toUpper else parts
  match form.kind with
  | 's' => some (asText content.display.toList)
  | 'r' => some (asText content.quoted.toList)
  | 'a' => some (asText (plainQuoted content.quoted.toList))
  | 'c' => (character? content).map fun character => form.fill { whole := [character] } false
  | 'd' | 'i' | 'u' => do
    let value ← (← content.number?).toWhole?
    return form.fill (form.whole value) true
  | 'o' | 'x' | 'X' =>
    match content.number? with
    | some (.whole value) => some (form.fill (capital (form.whole value)) true)
    | _ => none
  | 'e' | 'E' | 'f' | 'F' | 'g' | 'G' => do
    let number ← content.number?
    return form.fill (capital (form.real number (← number.toReal?))) true
  | _ => none

end PercentForm

/-! ## Reading -/

def isPercentFlag (character : Char) : Bool :=
  "#0+ -".toList.contains character

/-- A name up to the parenthesis that closes it, and the rest; there may be others in it. -/
def splitName? : Nat → List Char → Option (List Char × List Char)
  | _, [] => none
  | depth, character :: rest =>
    let deeper (depth : Nat) : Option (List Char × List Char) :=
      (splitName? depth rest).map fun (name, behind) => (character :: name, behind)
    match character, depth with
    | ')', 0 => some ([], rest)
    | ')', depth + 1 => deeper depth
    | '(', depth => deeper (depth + 1)
    | _, depth => deeper depth

/-- The form of a place, and the rest. -/
def percentForm? (text : List Char) : Option (PercentForm × List Char) :=
  let flags := text.takeWhile isPercentFlag
  let sized := text.dropWhile isPercentFlag
  let width := ofDigits (sized.takeWhile Char.isDigit)
  let behind := sized.dropWhile Char.isDigit
  let (precision, behind) :=
    match behind with
    | '.' :: rest => (some (ofDigits (rest.takeWhile Char.isDigit)), rest.dropWhile Char.isDigit)
    | rest => (none, rest)
  let behind :=
    match behind with
    | 'h' :: rest | 'l' :: rest | 'L' :: rest => rest
    | rest => rest
  match behind with
  | kind :: rest => some ({ flags, width, precision, kind }, rest)
  | [] => none

/-- The pieces of a layout, unless a place is incomplete or has no name. Two percent signs stand for
one. The fuel is the length of the text. -/
def percentPieces? : Nat → List Char → Option (List PercentPiece)
  | _, [] => some []
  | 0, _ => none
  | fuel + 1, '%' :: '%' :: rest => do return .text '%' :: (← percentPieces? fuel rest)
  | fuel + 1, '%' :: '(' :: rest => do
    let (name, behind) ← splitName? 0 rest
    let (form, behind) ← percentForm? behind
    return .place (String.ofList name) form :: (← percentPieces? fuel behind)
  | fuel + 1, character :: rest => do
    guard (character ≠ '%')
    return .text character :: (← percentPieces? fuel rest)

/-- Whether a place of any kind begins a text. -/
def beginsPercentPlace (text : List Char) : Bool :=
  match text with
  | '%' :: '(' :: rest =>
    let word := rest.takeWhile isWordPart
    let flags := rest.dropWhile isWordPart
    let skipSize (text : List Char) : List Char :=
      match text with
      | '*' :: rest => rest
      | text => text.dropWhile Char.isDigit
    let afterWidth := skipSize ((flags.drop 1).dropWhile isPercentFlag)
    let conversion :=
      match afterWidth with
      | '.' :: precision => if skipSize precision = precision then [] else skipSize precision
      | text => text
    !word.isEmpty && flags.head? = some ')' &&
      conversion.head?.any fun kind => "diouxefgcrsa%".toList.contains kind.toLower
  | _ => false

/-- Whether a text has a place. -/
def hasPercentPlace : List Char → Bool
  | [] => false
  | character :: rest => beginsPercentPlace (character :: rest) || hasPercentPlace rest

/-- What is written for a piece, with the fields by their names. -/
def PercentPiece.write? (field? : String → Option Content) : PercentPiece → Option (List Char)
  | .text character => some [character]
  | .place name form => do form.write? (← field? name)

end PageGraft.Log.Layout
