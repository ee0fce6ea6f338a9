import PageGraft.Log.Layout.Number
import PageGraft.Text.Character

/-!
# Layouts with braces

A name in braces makes a place. An exclamation mark and a letter behind the name quote the field, and
what follows a colon tells how the field is set in its place; this in turn can have places in it. Two
braces stand for one.
-/

namespace PageGraft.Log.Layout

open PageGraft.Data PageGraft.Text

/-! ## Reading -/

/-- A place in braces, with its parts as they are written. -/
structure BracePlace where
  path : List Char
  conversion : Option Char := none
  setting : List Char := []
deriving Repr, DecidableEq

/-- A piece of a layout: a place for a field, or text. -/
inductive BracePiece where
  | text (character : Char)
  | place (place : BracePlace)
deriving Repr, DecidableEq

/-- The path in a place, and the rest from the sign that ends it. In brackets no sign ends it. -/
def bracePath? (inBrackets : Bool) : List Char → Option (List Char × List Char)
  | [] => none
  | character :: rest =>
    let further (inBrackets : Bool) : Option (List Char × List Char) :=
      (bracePath? inBrackets rest).map fun (path, behind) => (character :: path, behind)
    if inBrackets then further (character ≠ ']')
    else if character = '{' then none
    else if character = '}' || character = ':' || character = '!' then some ([], character :: rest)
    else further (character = '[')

/-- The setting of a place up to the brace that closes the place, and the rest. -/
def braceSetting? : Nat → List Char → Option (List Char × List Char)
  | _, [] => none
  | depth, character :: rest =>
    let further (depth : Nat) : Option (List Char × List Char) :=
      (braceSetting? depth rest).map fun (setting, behind) => (character :: setting, behind)
    match character, depth with
    | '}', 0 => some ([], rest)
    | '}', depth + 1 => further depth
    | '{', depth => further (depth + 1)
    | _, depth => further depth

/-- A place behind the brace that opens it, and the rest. -/
def bracePlace? (text : List Char) : Option (BracePlace × List Char) := do
  let (path, behind) ← bracePath? false text
  match behind with
  | '!' :: conversion :: '}' :: rest => return ({ path, conversion }, rest)
  | '!' :: conversion :: ':' :: rest =>
    let (setting, rest) ← braceSetting? 0 rest
    return ({ path, conversion, setting }, rest)
  | ':' :: rest =>
    let (setting, rest) ← braceSetting? 0 rest
    return ({ path, setting }, rest)
  | '}' :: rest => return ({ path }, rest)
  | _ => none

/-- The pieces of a layout, unless a brace stands alone. The fuel is the length of the text. -/
def bracePieces? : Nat → List Char → Option (List BracePiece)
  | _, [] => some []
  | 0, _ => none
  | fuel + 1, '{' :: '{' :: rest => do return .text '{' :: (← bracePieces? fuel rest)
  | fuel + 1, '}' :: '}' :: rest => do return .text '}' :: (← bracePieces? fuel rest)
  | fuel + 1, '{' :: rest => do
    let (place, behind) ← bracePlace? rest
    return .place place :: (← bracePieces? fuel behind)
  | fuel + 1, character :: rest => do
    guard (character ≠ '}')
    return .text character :: (← bracePieces? fuel rest)

/-! ## Checking -/

/-- The steps of a path behind its first name: names behind points, and anything in brackets. The
fuel is the length of the text. -/
def areSteps : Nat → List Char → Bool
  | _, [] => true
  | _, ['\n'] => true
  | fuel + 1, '.' :: rest =>
    !(rest.takeWhile isWordPart).isEmpty && areSteps fuel (rest.dropWhile isWordPart)
  | fuel + 1, '[' :: rest =>
    let behind := rest.dropWhile (· ≠ ']')
    !(rest.takeWhile (· ≠ ']')).isEmpty && !behind.isEmpty && areSteps fuel (behind.drop 1)
  | _, _ => false

def isPath (path : List Char) : Bool :=
  !(path.takeWhile isWordPart).isEmpty && areSteps path.length (path.dropWhile isWordPart)

/-- A text behind digits or a name in braces, if there is one of both. -/
def afterSize (text : List Char) : List Char :=
  match text with
  | '{' :: rest =>
    match rest.dropWhile isWordPart with
    | '}' :: behind => if (rest.takeWhile isWordPart).isEmpty then text else behind
    | _ => text
  | text => text.dropWhile Char.isDigit

def isAlignment (character : Char) : Bool :=
  "<=>^".toList.contains character

/-- A text without one of some characters at its beginning. -/
def skipOne (characters : String) (text : List Char) : List Char :=
  match text with
  | character :: rest => if characters.toList.contains character then rest else text
  | [] => []

/-- Whether a text is written like a setting. -/
def isSetting (text : List Char) : Bool :=
  let aligned :=
    match text with
    | fill :: alignment :: rest =>
      if isAlignment alignment && fill ≠ '\n' then rest
      else if isAlignment fill then alignment :: rest
      else text
    | [alignment] => if isAlignment alignment then [] else text
    | [] => []
  let grouped := skipOne ",_" (afterSize (skipOne "#" (skipOne "+ -" aligned)))
  let precise :=
    match grouped with
    | '.' :: rest => if afterSize rest = rest then grouped else afterSize rest
    | rest => rest
  let rest := skipOne "bcdefgnosxBCDEFGNOSX%" precise
  rest.isEmpty || rest = ['\n']

/-- Whether the pieces of a layout have a name in a place, and places that are written well. -/
def areBracePieces (pieces : List BracePiece) : Bool :=
  let places := pieces.filterMap fun
    | .place place => some place
    | .text _ => none
  let isGood (place : BracePlace) : Bool :=
    (place.path.isEmpty || isPath place.path) &&
      place.conversion.all (fun conversion => "rsa".toList.contains conversion) &&
      (place.setting.isEmpty || isSetting place.setting)
  places.all isGood && places.any fun place => !place.path.isEmpty

/-! ## Settings -/

/-- How a field is set in its place. -/
structure BraceForm where
  fill : Option Char := none
  alignment : Option Char := none
  sign : Option Char := none
  isAlternate : Bool := false
  isZeroFilled : Bool := false
  width : Nat := 0
  grouping : Option Char := none
  precision : Option Nat := none
  kind : Option Char := none
deriving Repr, DecidableEq

/-- One of some characters at the beginning of a text, and the rest. -/
def splitOne (characters : String) (text : List Char) : Option Char × List Char :=
  match text with
  | character :: rest =>
    if characters.toList.contains character then (some character, rest) else (none, text)
  | [] => (none, [])

namespace BraceForm

/-- Reads a setting without places. -/
def ofText? (text : List Char) : Option BraceForm := do
  let (fill, alignment, text) :=
    match text with
    | fill :: alignment :: rest =>
      if isAlignment alignment then (some fill, some alignment, rest)
      else if isAlignment fill then (none, some fill, alignment :: rest)
      else (none, none, text)
    | [alignment] => if isAlignment alignment then (none, some alignment, []) else (none, none, text)
    | [] => (none, none, [])
  let (sign, text) := splitOne " +-" text
  let (alternate, text) := splitOne "#" text
  let (zero, text) := if fill.isNone then splitOne "0" text else (none, text)
  let width := ofDigits (text.takeWhile Char.isDigit)
  let (grouping, text) := splitOne ",_" (text.dropWhile Char.isDigit)
  let (precision, text) ←
    match text with
    | '.' :: rest =>
      if (rest.takeWhile Char.isDigit).isEmpty then none
      else some (some (ofDigits (rest.takeWhile Char.isDigit)), rest.dropWhile Char.isDigit)
    | text => some (none, text)
  let kind ←
    match text with
    | [] => some none
    | [kind] => some (some kind)
    | _ => none
  return { fill, alignment, sign, isAlternate := alternate.isSome, isZeroFilled := zero.isSome,
           width, grouping, precision, kind }

/-- Fills parts up to the width. -/
def pad (form : BraceForm) (default : Char) (parts : NumberParts) : List Char :=
  let front := parts.sign ++ parts.mark
  let body := parts.whole ++ parts.tail
  let fill := form.fill.getD (if form.isZeroFilled then '0' else ' ')
  let gap := form.width - (front ++ body).length
  let filling (count : Nat) : List Char := List.replicate count fill
  match form.alignment.getD default with
  | '<' => front ++ body ++ filling gap
  | '^' => filling (gap / 2) ++ front ++ body ++ filling (gap - gap / 2)
  | '=' => front ++ filling gap ++ body
  | _ => filling gap ++ front ++ body

/-- Sets a text. Texts have neither signs nor groups. -/
def text? (form : BraceForm) (text : List Char) : Option (List Char) := do
  guard (form.kind.all (· = 's') && form.sign.isNone && !form.isAlternate && form.grouping.isNone &&
    form.alignment ≠ some '=')
  return form.pad '<' { whole := text.take (form.precision.getD text.length) }

/-- Digits in groups from the right. Zeros fill the groups up to a width, which is not ended by a
separator; so does the fuel. -/
def groups (separator : Char) (size : Nat) : Nat → Nat → List Char → List Char
  | 0, _, reversed => reversed
  | fuel + 1, width, reversed =>
    let count := min size (max (max reversed.length width) 1)
    let group := reversed.take count ++ List.replicate (count - reversed.length) '0'
    let rest := reversed.drop count
    if rest.isEmpty && width ≤ count then group
    else group ++ separator :: groups separator size fuel (width - count - 1) rest

/-- The alignment of numbers: zeros stand behind the sign. -/
def numberAlignment (form : BraceForm) : Char :=
  form.alignment.getD (if form.isZeroFilled && form.fill.isNone then '=' else '>')

/-- Sets a number. -/
def number (form : BraceForm) (parts : NumberParts) : List Char :=
  let form := { form with alignment := some form.numberAlignment }
  match form.grouping with
  | none => form.pad '>' parts
  | some separator =>
    let fill := form.fill.getD (if form.isZeroFilled then '0' else ' ')
    let size := if form.kind.any fun kind => "boxX".toList.contains kind then 4 else 3
    let others := (parts.sign ++ parts.mark ++ parts.tail).length
    let width := if fill = '0' && form.numberAlignment = '=' then form.width - others else 0
    let fuel := parts.whole.length + width + 1
    let whole := (groups separator size fuel width parts.whole.reverse).reverse
    form.pad '>' { parts with whole }

def numberSign (form : BraceForm) (number : Number) : List Char :=
  signOf number.isNegative (form.sign = some '+') (form.sign = some ' ')

/-- Sets a real number. -/
def real? (form : BraceForm) (number : Number) (kind : Char) : Option (List Char) := do
  let value ← number.toReal?
  let precision := form.precision.getD 6
  let shown := if kind = '%' then value * 100 else value
  let parts := realParts kind precision form.isAlternate shown
  let parts := { parts with
    sign := form.numberSign number
    tail := if kind = '%' then parts.tail ++ ['%'] else parts.tail }
  return form.number (if kind.isUpper then parts.mapBody Char.toUpper else parts)

/-- Sets a whole number. Its base can only be grouped by underscores. -/
def whole? (form : BraceForm) (value : Int) : Option (List Char) :=
  let kind := form.kind.getD 'd'
  match kind with
  | 'e' | 'E' | 'f' | 'F' | 'g' | 'G' | '%' => form.real? (.whole value) kind
  | 'c' => do
    guard (form.precision.isNone && form.sign.isNone && !form.isAlternate &&
      form.grouping.isNone && 0 ≤ value && value.toNat.isValidChar)
    return form.number { whole := [Char.ofNat value.toNat] }
  | 'b' | 'd' | 'n' | 'o' | 'x' | 'X' => do
    guard (form.precision.isNone &&
      (form.grouping.isNone || kind = 'd' || (form.grouping = some '_' && kind ≠ 'n')))
    let parts : NumberParts :=
      { sign := form.numberSign (.whole value)
        mark := if form.isAlternate then markOf kind else []
        whole := Nat.toDigits (baseOf kind) value.natAbs }
    return form.number (if kind = 'X' then parts.mapBody Char.toUpper else parts)
  | _ => none

/-- Sets a number of double precision; without a kind it is written as in messages. -/
def double? (form : BraceForm) (value : Float) : Option (List Char) :=
  match form.kind with
  | some 'n' => form.real? (.real value) 'g'
  | some kind => if "eEfFgG%".toList.contains kind then form.real? (.real value) kind else none
  | none =>
    let digits := (Value.displayNumber value.abs).toList
    let parts :=
      match form.precision with
      | some precision => realParts 'g' precision form.isAlternate value
      | none => { whole := digits.takeWhile Char.isDigit, tail := digits.dropWhile Char.isDigit }
    some (form.number { parts with sign := form.numberSign (.real value) })

end BraceForm

/-! ## Writing -/

/-- A part of a text or a list by its number. -/
def partAt? (position : Nat) : Content → Option Content
  | .value (.text text) => (text.toList[position]?).map fun part => .text part.toString
  | .value (.list items) | .value (.tuple items) => (items[position]?).map .value
  | _ => none

/-- Goes along the steps of a path. The fuel is the length of the text. -/
def followSteps : Nat → List Char → Content → Option Content
  | _, [], content => some content
  | fuel + 1, '[' :: rest, content => do
    let index := rest.takeWhile (· ≠ ']')
    guard (!index.isEmpty && index.all Char.isDigit)
    followSteps fuel ((rest.dropWhile (· ≠ ']')).drop 1) (← partAt? (ofDigits index) content)
  | _, _, _ => none

/-- The content that a path leads to. -/
def followPath (field? : String → Option Content) (path : List Char) : Option Content := do
  let isStep (character : Char) : Bool := character = '.' || character = '['
  let name := path.takeWhile (!isStep ·)
  guard (!name.isEmpty && !name.all Char.isDigit)
  followSteps path.length (path.dropWhile (!isStep ·)) (← field? (String.ofList name))

/-- Sets a content in its place. What is neither text nor number cannot be set in a certain way. -/
def setContent? (content : Content) (setting : List Char) : Option (List Char) := do
  let form ← BraceForm.ofText? setting
  if setting.isEmpty then return content.display.toList
  match content with
  | .value (.text text) => form.text? text.toList
  | .value (.integer value) => form.whole? value
  | .value (.boolean value) => form.whole? (if value then 1 else 0)
  | .value (.number value) => form.double? value
  | _ => none

/-- What is written for a layout, with the fields by their names. Settings have places in them to a
depth. -/
def writeBraces? (field? : String → Option Content) : Nat → List Char → Option (List Char)
  | depth, text => do
    let written ← (← bracePieces? text.length text).mapM fun piece =>
      match piece with
      | .text character => some [character]
      | .place place => do
        let content ← followPath field? place.path
        let content ←
          match place.conversion with
          | none => some content
          | some 'r' => some (Content.text content.quoted)
          | some 's' => some (Content.text content.display)
          | some 'a' => some (Content.text (String.ofList (plainQuoted content.quoted.toList)))
          | some _ => none
        if place.setting.contains '{' then
          match depth with
          | 0 => none
          | depth + 1 => setContent? content (← writeBraces? field? depth place.setting)
        else setContent? content place.setting
    return written.flatten

end PageGraft.Log.Layout
