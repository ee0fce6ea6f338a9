import PageGraft.Text.HiddenTable

/-!
# Quoted texts

A text in quotes for a message. Single quotes are used unless the text holds single quotes and no
double ones; characters that would not show are written as escapes.
-/

namespace PageGraft.Text

/-- A number in hexadecimal digits, at least so many. -/
def hexDigits (width value : Nat) : List Char :=
  let digits := Nat.toDigits 16 value
  List.replicate (width - digits.length) '0' ++ digits

/-- A character that shows neither ink nor a plain space. -/
def isHidden (character : Char) : Bool :=
  let code := character.toNat
  hiddenBounds.any fun (first, stop) => first ≤ code && code < stop

/-- A character by its number. -/
def numbered (character : Char) : List Char :=
  let code := character.toNat
  if code < 0x100 then '\\' :: 'x' :: hexDigits 2 code
  else if code < 0x10000 then '\\' :: 'u' :: hexDigits 4 code
  else '\\' :: 'U' :: hexDigits 8 code

/-- How a character is written between quotes. -/
def quotedCharacter (quote character : Char) : List Char :=
  if character == quote || character == '\\' then ['\\', character]
  else if character == '\n' then ['\\', 'n']
  else if character == '\r' then ['\\', 'r']
  else if character == '\t' then ['\\', 't']
  else if isHidden character then numbered character
  else [character]

/-- A text in quotes. -/
def quoted (text : String) : String :=
  let characters := text.toList
  let quote := if characters.contains '\'' && !characters.contains '"' then '"' else '\''
  String.ofList (quote :: characters.flatMap (quotedCharacter quote) ++ [quote])

/-- A text in quotes with numbers for all characters beyond ASCII. -/
def plainQuoted (quotedText : List Char) : List Char :=
  quotedText.flatMap fun character =>
    if character.toNat < 128 then [character] else numbered character

end PageGraft.Text
