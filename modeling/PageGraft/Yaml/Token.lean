import PageGraft.Text.Utf8
import PageGraft.Yaml.Scalar

/-!
# Tokens

Cuts a document into tokens. Where a line begins further to the right than the block collections that
are open, a new one opens; where it begins further to the left, collections close.
-/

namespace PageGraft.Yaml

open PageGraft.Text

/-! ## Bookkeeping -/

def put (token : Token) : Lexer Unit :=
  modify fun cursor => { cursor with tokens := token :: cursor.tokens }

/-- Puts a token in front of those that came after the first `count`. -/
def putAt (count : Nat) (token : Token) : Lexer Unit :=
  modify fun cursor =>
    { cursor with tokens := cursor.tokens.insertIdx (cursor.tokens.length - count) token }

def allowKey (allowed : Bool) : Lexer Unit :=
  modify fun cursor => { cursor with keyAllowed := allowed }

/-- Opens a block collection at a column if it is further to the right than the innermost one. -/
def indentTo (column : Nat) : Lexer Bool := do
  let cursor ← get
  if cursor.indents.head?.all (· < column) then
    set { cursor with indents := column :: cursor.indents }
    return true
  else return false

/-- Closes the block collections that are further to the right than a column, or all of them. Inside a
flow collection columns do not count. -/
def unindent (column : Option Nat) : Lexer Unit :=
  modify fun cursor =>
    if 0 < cursor.level then cursor
    else
      let closed := cursor.indents.takeWhile fun indent => column.all (· < indent)
      { cursor with
        indents := cursor.indents.drop closed.length
        tokens := List.replicate closed.length .blockEnd ++ cursor.tokens }

/-- Forgets the place where a key of the current collection may have begun. -/
def dropKey : Lexer Unit := do
  let cursor ← get
  guard (!cursor.keys.any fun place => place.level = cursor.level && place.required)
  set { cursor with keys := cursor.keys.filter (·.level ≠ cursor.level) }

/-- Notes that a key may begin here. -/
def noteKey : Lexer Unit := do
  let cursor ← get
  if cursor.keyAllowed then
    dropKey
    modify fun moved =>
      { moved with
        keys := ⟨cursor.level, cursor.tokens.length,
          cursor.level = 0 && cursor.indents.head? == some cursor.column, cursor.index,
          cursor.line, cursor.column⟩ :: moved.keys }

/-- How long a key without a question mark can be. -/
def keyLimit : Nat := 1024

/-- Forgets the places of keys that would reach over the end of a line or be too long. -/
def dropStaleKeys : Lexer Unit := do
  let cursor ← get
  let isStale (place : KeyPlace) : Bool :=
    place.line ≠ cursor.line || keyLimit < cursor.index - place.index
  guard (!cursor.keys.any fun place => isStale place && place.required)
  set { cursor with keys := cursor.keys.filter (!isStale ·) }

/-! ## Space between tokens -/

/-- Passes spaces, comments and ends of lines, at most `fuel` times. -/
def skipBlanks : Nat → Lexer Unit
  | 0 => return ()
  | fuel + 1 => do
    let _ ← takeClass (· == ' ')
    if (← peek) == some '#' then
      let _ ← takeClass (!isBreak ·)
    let newline ← takeBreak
    if !newline.isEmpty then
      if (← get).level = 0 then allowKey true
      skipBlanks fuel

/-! ## Directives -/

/-- The number of a version, or of a part of it. -/
def versionPart : Lexer Nat := do
  let digits ← takeClass Char.isDigit
  guard (!digits.isEmpty)
  return ofDigits digits

/-- A character of a tag; a percent sign begins an octet in hexadecimal digits. -/
def isTagCharacter (character : Char) : Bool :=
  character.isAlphanum || "-;/?:@&=+$,_.!~*'()[]%".toList.contains character

/-- The octets of percent signs with two hexadecimal digits each. -/
def tagOctets : Nat → Lexer (List UInt8)
  | 0 => return []
  | fuel + 1 => do
    if (← peek) == some '%' then
      advance 1
      let digits := (← get).rest.take 2
      guard (digits.length = 2)
      let some octet := ofBase? 16 digits | failure
      advance 2
      return octet.toUInt8 :: (← tagOctets fuel)
    else return []

/-- The pieces of the text of a tag: characters, and characters in octets. -/
def tagPieces : Nat → Lexer (List Char)
  | 0 => return []
  | fuel + 1 => do
    let plain ← takeClass fun c => c ≠ '%' && isTagCharacter c
    if (← peek) == some '%' then
      match decode (← tagOctets fuel) with
      | .ok text => return plain ++ text ++ (← tagPieces fuel)
      | .error _ => failure
    else return plain

/-- The text of a tag. -/
def tagText : Lexer String := do
  guard ((← peek).any isTagCharacter)
  return String.ofList (← tagPieces ((← get).rest.length + 1))

/-- The handle of a tag: an exclamation mark before a space, or a word between two of them. -/
def tagHandle : Lexer String := do
  guard ((← peek) == some '!')
  advance 1
  if (← peek) == some ' ' then return "!"
  else
    let name ← takeClass isWordCharacter
    guard ((← peek) == some '!')
    advance 1
    return s!"!{String.ofList name}!"

def directive : Lexer Unit := do
  unindent none
  dropKey
  allowKey false
  advance 1
  let name ← takeClass isWordCharacter
  guard (!name.isEmpty && endsToken (← peek))
  let _ ← takeClass (· == ' ')
  match String.ofList name with
  | "YAML" =>
    let major ← versionPart
    guard ((← peek) == some '.')
    advance 1
    let _ ← versionPart
    guard (endsToken (← peek))
    put (.directive (.version major))
  | "TAG" =>
    let handle ← tagHandle
    guard ((← peek) == some ' ')
    let _ ← takeClass (· == ' ')
    let replacement ← tagText
    guard (endsToken (← peek))
    put (.directive (.tag handle replacement))
  | _ =>
    let _ ← takeClass (!isBreak ·)
    put (.directive .unknown)
  ignoredLine

/-! ## Indicators -/

/-- A token of some characters after which no key may begin. -/
def separator (token : Token) : Lexer Unit := do
  unindent none
  dropKey
  allowKey false
  advance 3
  put token

def flowStart (token : Token) : Lexer Unit := do
  noteKey
  modify fun cursor => { cursor with level := cursor.level + 1 }
  allowKey true
  advance 1
  put token

def flowEnd (token : Token) : Lexer Unit := do
  dropKey
  modify fun cursor => { cursor with level := cursor.level - 1 }
  allowKey false
  advance 1
  put token

/-- A dash in front of an item, a question mark in front of a key, or a colon in front of a value
without a key: in a block it opens a collection where one may begin. -/
def blockIndicator (opening token : Token) : Lexer Unit := do
  let cursor ← get
  if cursor.level = 0 then
    guard cursor.keyAllowed
    if ← indentTo cursor.column then put opening
  dropKey
  advance 1
  put token

def flowEntry : Lexer Unit := do
  allowKey true
  dropKey
  advance 1
  put .flowEntry

def blockEntry : Lexer Unit := do
  blockIndicator .blockSequenceStart .blockEntry
  allowKey true

def explicitKey : Lexer Unit := do
  let level := (← get).level
  blockIndicator .blockMappingStart .key
  allowKey (level = 0)

/-- A colon: what began at the noted place becomes the key of the value that follows. -/
def valueIndicator : Lexer Unit := do
  let cursor ← get
  match cursor.keys.find? (·.level = cursor.level) with
  | some place =>
    set { cursor with keys := cursor.keys.filter (·.level ≠ cursor.level) }
    putAt place.tokens .key
    if cursor.level = 0 then
      if ← indentTo place.column then putAt place.tokens .blockMappingStart
    allowKey false
    advance 1
    put .value
  | none =>
    blockIndicator .blockMappingStart .value
    allowKey (cursor.level = 0)

/-! ## Names and tags -/

/-- A name after an ampersand or an asterisk. -/
def reference (make : String → Token) : Lexer Unit := do
  noteKey
  allowKey false
  advance 1
  let name ← takeClass isWordCharacter
  let next ← peek
  guard (!name.isEmpty)
  guard (endsIndicator next || next.any ("?:,]\x7d%@\x60".toList.contains ·))
  put (make (String.ofList name))

def tag : Lexer Unit := do
  noteKey
  allowKey false
  let next ← peekAt 1
  if next == some '<' then
    advance 2
    let suffix ← tagText
    guard ((← peek) == some '>')
    advance 1
    put (.tag none suffix)
  else if endsIndicator next then
    advance 1
    put (.tag none "!")
  else
    let ahead := ((← get).rest.drop 1).takeWhile fun c => c ≠ ' ' && !isBreak c
    let handle ← (if ahead.contains '!' then tagHandle else do advance 1; return "!")
    put (.tag (some handle) (← tagText))
  guard (endsToken (← peek))

/-! ## Scalars -/

def blockText (folded : Bool) : Lexer Unit := do
  allowKey true
  dropKey
  let text ← blockScalar folded
  put (.scalar text false)

def quotedText (quote : Char) : Lexer Unit := do
  noteKey
  allowKey false
  let text ← quotedScalar quote
  put (.scalar text false)

/-- Whether a plain scalar can begin with a character, given the one after it. -/
def startsPlain (inFlow : Bool) (character : Char) (next : Option Char) : Bool :=
  !(endsIndicator (some character)) &&
    !("-?:,[]\x7b\x7d#&*!|>'\"%@\x60".toList.contains character) ||
  (!endsIndicator next &&
    (character == '-' || (!inFlow && (character == '?' || character == ':'))))

def plainText : Lexer Unit := do
  noteKey
  allowKey false
  let text ← plainScalar
  put (.scalar text true)

/-! ## The document -/

/-- Reads the token that begins with a character. -/
def tokenAt (character : Char) : Lexer Unit := do
  let cursor ← get
  let next ← peekAt 1
  let inFlow := 0 < cursor.level
  if character == '%' && cursor.column = 0 then directive
  else if cursor.column = 0 && startsSeparator cursor.rest then
    separator (if character == '-' then .documentStart else .documentEnd)
  else
    match character with
    | '[' => flowStart .flowSequenceStart
    | '\x7b' => flowStart .flowMappingStart
    | ']' => flowEnd .flowSequenceEnd
    | '\x7d' => flowEnd .flowMappingEnd
    | ',' => flowEntry
    | '*' => reference .aliased
    | '&' => reference .anchor
    | '!' => tag
    | '\'' => quotedText '\''
    | '"' => quotedText '"'
    | _ =>
      if character == '-' && endsIndicator next then blockEntry
      else if character == '?' && (inFlow || endsIndicator next) then explicitKey
      else if character == ':' && (inFlow || endsIndicator next) then valueIndicator
      else if (character == '|' || character == '>') && !inFlow then blockText (character == '>')
      else if startsPlain inFlow character next then plainText
      else failure

/-- Reads tokens to the end of the text, at most `fuel` of them. -/
def allTokens : Nat → Lexer Unit
  | 0 => failure
  | fuel + 1 => do
    skipBlanks ((← get).rest.length + 1)
    dropStaleKeys
    let cursor ← get
    unindent (some cursor.column)
    match cursor.rest.head? with
    | none =>
      unindent none
      dropKey
    | some character =>
      tokenAt character
      allTokens fuel

/-- The tokens of a text. Where something in it does not exist, they end with what is wrong. A text is
malformed if it holds characters that cannot be printed. -/
def Token.ofText (text : List Char) : Except Fault (List Token) :=
  if !text.all isPrintable then throw .malformed
  else
    let rest := if text.head?.any isByteOrderMark then text.tail else text
    match (allTokens (rest.length + 1)).run.run { rest } with
    | (.ok (), cursor) => return cursor.tokens.reverse
    | (.error .malformed, _) => throw .malformed
    | (.error fault, cursor) => return cursor.tokens.reverse ++ [.broken fault]

end PageGraft.Yaml
