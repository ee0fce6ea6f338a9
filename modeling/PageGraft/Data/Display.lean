import PageGraft.Data.Value
import PageGraft.Text.Quoted
import PageGraft.Text.Shortest

/-!
# Plain data in messages

How a value and the kind of a value are named in messages, and which values count as true.
-/

namespace PageGraft.Data.Value

open PageGraft.Text

/-- Whether a value counts as true: empty texts and collections and zero do not. -/
def isTrue : Value → Bool
  | null => false
  | boolean value => value
  | integer value => value ≠ 0
  | number value => value != 0
  | text value => value ≠ ""
  | bytes value => !value.isEmpty
  | list items => !items.isEmpty
  | set items => !items.isEmpty
  | mapping entries => !entries.isEmpty
  | tuple items => !items.isEmpty
  | moment _ | knot _ _ | again _ => true

def kindName : Value → String
  | null => "NoneType"
  | boolean _ => "bool"
  | integer _ => "int"
  | number _ => "float"
  | text _ => "str"
  | bytes _ => "bytes"
  | moment value => value.kindName
  | list _ => "list"
  | tuple _ => "tuple"
  | set _ => "set"
  | mapping _ => "dict"
  | knot _ content => content.kindName
  | again _ => "list"

/-- A number is written with a point or an exponent; the point moves within sixteen digits in front
of it and four zeros behind it. -/
def displayNumber (number : Float) : String :=
  let sign := if number.toBits.toNat / Nat.pow 2 63 = 1 then "-" else ""
  match shortestDecimal? number with
  | none => if number.isNaN then "nan" else sign ++ "inf"
  | some decimal =>
    let digits := decimal.digits
    let point : Int := digits.length + decimal.exponent
    let body :=
      if point ≤ -4 || 16 < point then
        let exponent := point - 1
        let magnitude := (toString exponent.natAbs).toList
        let fraction := if digits.length = 1 then [] else '.' :: digits.drop 1
        digits.take 1 ++ fraction ++ ['e', if exponent < 0 then '-' else '+'] ++
          List.replicate (2 - magnitude.length) '0' ++ magnitude
      else if point ≤ 0 then
        "0.".toList ++ List.replicate (-point).toNat '0' ++ digits
      else
        let whole := digits.take point.toNat ++
          List.replicate (point.toNat - digits.length) '0'
        let fraction := digits.drop point.toNat
        whole ++ '.' :: (if fraction.isEmpty then ['0'] else fraction)
    sign ++ String.ofList body

/-- Octets in quotes: those of ASCII characters that show as these characters, all others in
hexadecimal digits. -/
def displayBytes (octets : List Nat) : String :=
  let characters := octets.map Char.ofNat
  let quote := if characters.contains '\'' && !characters.contains '"' then '"' else '\''
  let shown (octet : Nat) : List Char :=
    if octet < 0x7F then quotedCharacter quote (Char.ofNat octet)
    else '\\' :: 'x' :: hexDigits 2 octet
  "b" ++ String.ofList (quote :: octets.flatMap shown ++ [quote])

/-- What stands for a collection inside itself. -/
def displayAgain : Value → String
  | mapping _ => "\x7b...\x7d"
  | tuple _ => "(...)"
  | _ => "[...]"

mutual

/-- A value in a message, with texts in quotes, inside the given collections. -/
def quotedWithin (around : List (Nat × String)) : Value → String
  | null => "None"
  | boolean value => if value then "True" else "False"
  | integer value => toString value
  | number value => displayNumber value
  | text value => Text.quoted value
  | bytes value => displayBytes value
  | moment value => value.display
  | list items => "[" ++ ", ".intercalate (quotedAll around items) ++ "]"
  | tuple [item] => "(" ++ quotedWithin around item ++ ",)"
  | tuple items => "(" ++ ", ".intercalate (quotedAll around items) ++ ")"
  | set [] => "set()"
  | set items => "\x7b" ++ ", ".intercalate (quotedAll around items) ++ "\x7d"
  | mapping entries => "\x7b" ++ ", ".intercalate (quotedEntries around entries) ++ "\x7d"
  | knot label content =>
    match around.lookup label with
    | some shown => shown
    | none => quotedWithin ((label, displayAgain content) :: around) content
  | again label => (around.lookup label).getD "[...]"

def quotedAll (around : List (Nat × String)) : List Value → List String
  | [] => []
  | value :: rest => quotedWithin around value :: quotedAll around rest

def quotedEntries (around : List (Nat × String)) : List (Value × Value) → List String
  | [] => []
  | (key, value) :: rest =>
    (quotedWithin around key ++ ": " ++ quotedWithin around value) :: quotedEntries around rest

end

/-- A value in a message, with texts in quotes. -/
def quoted (value : Value) : String :=
  quotedWithin [] value

/-- A value in a message; a text or a moment stands for itself. -/
def display : Value → String
  | text value => value
  | moment value => value.text
  | value => quoted value

end PageGraft.Data.Value
