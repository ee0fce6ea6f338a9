import PageGraft.Data.Value
import PageGraft.Text.CaseTable
import PageGraft.Text.Numeral
import PageGraft.Yaml.Moment
import PageGraft.Yaml.Scalar

/-!
# What scalars mean

The value of a scalar by its tag, and the tag of a plain scalar without one: its text alone tells
whether it is nothing, a truth value, a number, a moment or a text.
-/

namespace PageGraft.Yaml

open PageGraft.Data PageGraft.Text

/-! ## Words -/

def isNull (text : String) : Bool :=
  ["", "~", "null", "Null", "NULL"].contains text

/-- The truth value of a word in lower case. -/
def truthOfWord (word : String) : Option Bool :=
  if ["yes", "true", "on"].contains word then some true
  else if ["no", "false", "off"].contains word then some false
  else none

/-- A word in lower case, in upper case, or with its first letter in upper case. -/
def isPlainlyCased (text : List Char) : Bool :=
  match text with
  | [] => true
  | first :: rest =>
    rest.all Char.isLower || (first.isUpper && rest.all Char.isUpper)

def truth? (text : List Char) : Option Bool :=
  if isPlainlyCased text then truthOfWord (String.ofList (text.map Char.toLower)) else none

/-! ## Integers -/

def isDigitOrLine (character : Char) : Bool :=
  character.isDigit || character == '_'

/-- Minutes or seconds: one or two digits, below sixty. -/
def isSixtieth : List Char → Bool
  | [digit] => digit.isDigit
  | [first, second] => first.isDigit && first ≤ '5' && second.isDigit
  | _ => false

/-- Digits in parts of sixty: at least two parts, the first one of any size. -/
def isSexagesimal (text : List Char) : Bool :=
  match text.splitOn ':' with
  | first :: second :: rest =>
    first.head?.any Char.isDigit && first.all isDigitOrLine && (second :: rest).all isSixtieth
  | _ => false

/-- Whether a plain scalar is written as an integer: in base two, eight, ten, sixteen or sixty. -/
def isInteger (text : List Char) : Bool :=
  match (splitSign text).2 with
  | '0' :: 'b' :: digits =>
    !digits.isEmpty && digits.all fun c => c == '0' || c == '1' || c == '_'
  | '0' :: 'x' :: digits =>
    !digits.isEmpty && digits.all fun c => (hexValue? c).isSome || c == '_'
  | '0' :: digits => digits.all fun c => ('0' ≤ c && c ≤ '7') || c == '_'
  | first :: digits =>
    first.isDigit && (digits.all isDigitOrLine || isSexagesimal (first :: digits))
  | [] => false

/-- The whole number that a text writes in a base. -/
def integerIn (base : Nat) (text : List Char) : Except Fault Int :=
  match excessDigits? base text, integerOfBase? base text with
  | some count, _ => throw (.tooManyDigits count)
  | none, some value => return value
  | none, none => throw (.noInteger base text)

/-- The whole number that a text writes. Underscores do not count, and the first sign is left to the
whole; behind it stands zero, a number with a sign of its base, or parts of sixty. -/
def integer (text : List Char) : Except Fault Int := do
  let body := text.filter (· ≠ '_')
  if body.isEmpty then throw .noCharacter
  let (negative, body) := splitSign body
  let value ←
    match body with
    | [] => throw .noCharacter
    | ['0'] => pure 0
    | '0' :: 'b' :: digits => integerIn 2 digits
    | '0' :: 'x' :: digits => integerIn 16 digits
    | '0' :: _ => integerIn 8 body
    | _ =>
      (body.splitOn ':').foldlM (fun value part => do
        return value * 60 + (← integerIn 10 part)) 0
  return if negative then -value else value

/-! ## Numbers -/

/-- An exponent with its sign, or nothing. -/
def isExponent : List Char → Bool
  | [] => true
  | mark :: sign :: digits =>
    (mark == 'e' || mark == 'E') && (sign == '-' || sign == '+') && !digits.isEmpty &&
      digits.all Char.isDigit
  | _ => false

def isInfinity (text : List Char) : Bool :=
  [".inf", ".Inf", ".INF"].contains (String.ofList text)

def isNotANumber (text : List Char) : Bool :=
  [".nan", ".NaN", ".NAN"].contains (String.ofList text)

/-- Whether a plain scalar is written as a number with a point. Only numbers with digits in front of
the point have a sign. -/
def isNumber (text : List Char) : Bool :=
  let body := (splitSign text).2
  let whole := body.takeWhile (· ≠ '.')
  match body.dropWhile (· ≠ '.') with
  | '.' :: rest =>
    if whole.isEmpty then
      isInfinity body || isNotANumber text ||
        (text.length = body.length && rest.head?.any Char.isDigit &&
          isExponent (rest.dropWhile isDigitOrLine))
    else if isSexagesimal whole then rest.all isDigitOrLine
    else
      whole.head?.any Char.isDigit && whole.all isDigitOrLine &&
        isExponent (rest.dropWhile isDigitOrLine)
  | _ => false

def numberIn (text : List Char) : Except Fault Float :=
  match numberOfText? text with
  | some value => return value
  | none => throw (.noNumber text)

/-- The values of the places in base sixty, from the last one on. A place from 2 ^ 1024 on is no number. -/
def places : Nat → Nat → Except Fault (List Float)
  | 0, _ => return []
  | count + 1, place =>
    if 2 ^ 1024 ≤ place then throw .numberTooLarge
    else return Float.ofNat place :: (← places count (place * 60))

/-- The number that a text writes. Underscores do not count, and the first sign is left to the whole. -/
def number (text : List Char) : Except Fault Float := do
  let body := lower (text.filter (· ≠ '_'))
  if body.isEmpty then throw .noCharacter
  let (negative, body) := splitSign body
  let value ←
    if isInfinity body then pure (1 / 0)
    else if isNotANumber body then pure (0 / 0)
    else if body.contains ':' then do
      let parts ← (body.splitOn ':').mapM numberIn
      return (parts.reverse.zip (← places parts.length 1)).foldl
        (fun sum (part, place) => sum + part * place) 0
    else numberIn body
  return if negative then -value else value

/-! ## Octets -/

/-- The six bits that a letter of the base of sixty-four stands for. -/
def sixBits? (character : Char) : Option Nat :=
  if 'A' ≤ character && character ≤ 'Z' then some (character.toNat - 'A'.toNat)
  else if 'a' ≤ character && character ≤ 'z' then some (character.toNat - 'a'.toNat + 26)
  else if character.isDigit then some (character.toNat - '0'.toNat + 52)
  else if character == '+' then some 62
  else if character == '/' then some 63
  else none

/-- Octets while their letters are read: how many letters of the current four are read, what bits of
the last one are left, and how many signs of padding stand after it. -/
structure Decoding where
  place : Nat := 0
  left : Nat := 0
  padding : Nat := 0

/-- The octets in groups of four letters. Other characters do not count. Padding ends the text where
it completes a group, and an incomplete group has no octets. -/
def octetsFrom (decoding : Decoding) : List Char → Option (List Nat)
  | [] => if decoding.place = 0 then some [] else none
  | '=' :: rest =>
    if decoding.place < 2 then octetsFrom decoding rest
    else if 4 ≤ decoding.place + decoding.padding + 1 then some []
    else octetsFrom { decoding with padding := decoding.padding + 1 } rest
  | character :: rest =>
    match sixBits? character with
    | none => octetsFrom decoding rest
    | some bits =>
      match decoding.place with
      | 0 => octetsFrom { place := 1, left := bits } rest
      | 1 =>
        (octetsFrom { place := 2, left := bits % 16 } rest).map
          ((decoding.left * 4 + bits / 16) :: ·)
      | 2 =>
        (octetsFrom { place := 3, left := bits % 4 } rest).map
          ((decoding.left * 16 + bits / 4) :: ·)
      | _ => (octetsFrom {} rest).map ((decoding.left * 64 + bits) :: ·)

/-- The octets that a text of ASCII characters stands for. -/
def octets? (text : List Char) : Option (List Nat) :=
  if text.all fun character => character.toNat < 128 then octetsFrom {} text else none

/-! ## Scalars by tag -/

/-- What a tag of the language itself is called; nothing for other tags. -/
def standardName? (tag : String) : Option String :=
  let start := "tag:yaml.org,2002:".toList
  if start.isPrefixOf tag.toList then some (String.ofList (tag.toList.drop start.length)) else none

/-- The name of the tag that a plain scalar has by its text. -/
def plainName (text : List Char) : String :=
  if (truth? text).isSome then "bool"
  else if isNumber text then "float"
  else if isInteger text then "int"
  else if text = ['<', '<'] then "merge"
  else if isNull (String.ofList text) then "null"
  else if (Moment.ofPlain? text).isSome then "timestamp"
  else if text = ['='] then "value"
  else "str"

/-- The value of a scalar under a tag of the language. -/
def valueOf (name : String) (text : List Char) : Except Fault Value :=
  match name with
  | "str" => return .text (String.ofList text)
  | "null" => return .null
  | "bool" =>
    match truthOfWord (String.ofList (lower text)) with
    | some truth => return .boolean truth
    | none => throw (.noTruth (lower text))
  | "int" => return .integer (← integer text)
  | "float" => return .number (← number text)
  | "timestamp" =>
    match Moment.ofText? text with
    | none => throw .notMoment
    | some moment =>
      match Moment.problem? moment with
      | some reason => throw (.noMoment reason)
      | none => return .moment moment
  | "binary" =>
    match octets? text with
    | some octets => return .bytes octets
    | none => throw .malformed
  | _ => throw .malformed

/-- The name of the tag of a scalar. -/
def scalarName? (tag : Option String) (text : List Char) (plain : Bool) : Option String :=
  match tag with
  | none => some (if plain then plainName text else "str")
  | some "!" => some (if plain then plainName text else "str")
  | some tag => standardName? tag

end PageGraft.Yaml
