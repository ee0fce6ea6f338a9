import PageGraft.Yaml.Fault

/-!
# Going through a document

The cursor knows the text still to be read, its line and column, and the columns of the block
collections that are open. Tokens are collected as they are found; a token that makes an earlier one
a key is put in front of it afterwards.
-/

namespace PageGraft.Yaml

/-- What a directive at the top of a document says. -/
inductive Directive where
  | version (major : Nat)
  | tag (handle replacement : String)
  | unknown
deriving Repr, DecidableEq

inductive Token where
  | directive (content : Directive)
  | documentStart
  | documentEnd
  | blockSequenceStart
  | blockMappingStart
  | blockEnd
  | flowSequenceStart
  | flowSequenceEnd
  | flowMappingStart
  | flowMappingEnd
  | blockEntry
  | flowEntry
  | key
  | value
  | aliased (name : String)
  | anchor (name : String)
  | tag (handle : Option String) (suffix : String)
  | scalar (text : List Char) (plain : Bool)
  /-- Where the text cannot be read any further. -/
  | broken (fault : Fault)
deriving Repr, DecidableEq

/-- A place where a key without a question mark may have begun. `required` means that nothing but a
key can stand there. -/
structure KeyPlace where
  level : Nat
  tokens : Nat
  required : Bool
  index : Nat
  line : Nat
  column : Nat

/-- Where a document is read. `indents` are the columns of the open block collections, innermost
first; `level` counts the open flow collections; `tokens` are newest first. -/
structure Cursor where
  rest : List Char
  index : Nat := 0
  line : Nat := 0
  column : Nat := 0
  indents : List Nat := []
  level : Nat := 0
  keyAllowed : Bool := true
  keys : List KeyPlace := []
  tokens : List Token := []

/-- A reading of a document, which may find a fault in it. -/
abbrev Lexer := ExceptT Fault (StateM Cursor)

/-! ## Characters -/

/-- A character that ends a line. -/
def isBreak (character : Char) : Bool :=
  character == '\n' || character.toNat == 0x85 || character.toNat == 0x2028 ||
    character.toNat == 0x2029

/-- A character that a document may hold. -/
def isPrintable (character : Char) : Bool :=
  let code := character.toNat
  code == 0x09 || code == 0x0A || code == 0x0D || (0x20 ≤ code && code ≤ 0x7E) || code == 0x85 ||
    (0xA0 ≤ code && code ≤ 0xFFFD) || 0x10000 ≤ code

def isByteOrderMark (character : Char) : Bool :=
  character.toNat == 0xFEFF

/-- A character of the name of an anchor, a tag handle or a directive. -/
def isWordCharacter (character : Char) : Bool :=
  character.isAlphanum || character == '-' || character == '_'

/-- A space, a tab, the end of a line or the end of the text. -/
def endsIndicator (next : Option Char) : Bool :=
  match next with
  | none => true
  | some character => character == ' ' || character == '\t' || isBreak character

/-- A space, the end of a line or the end of the text. -/
def endsToken (next : Option Char) : Bool :=
  match next with
  | none => true
  | some character => character == ' ' || isBreak character

/-! ## Moving -/

def Cursor.step (cursor : Cursor) : Cursor :=
  match cursor.rest with
  | [] => cursor
  | character :: rest =>
    let moved := { cursor with rest, index := cursor.index + 1 }
    if isBreak character then { moved with line := cursor.line + 1, column := 0 }
    else if isByteOrderMark character then moved
    else { moved with column := cursor.column + 1 }

def Cursor.advance : Nat → Cursor → Cursor
  | 0, cursor => cursor
  | count + 1, cursor => advance count cursor.step

def peek : Lexer (Option Char) :=
  return (← get).rest.head?

/-- The character some places ahead. -/
def peekAt (distance : Nat) : Lexer (Option Char) :=
  return ((← get).rest.drop distance).head?

def advance (count : Nat) : Lexer Unit :=
  modify (Cursor.advance count)

/-- Takes the characters of a class. -/
def takeClass (accepts : Char → Bool) : Lexer (List Char) := do
  let taken := (← get).rest.takeWhile accepts
  advance taken.length
  return taken

/-- Takes the end of a line, if one comes next. Most ends of lines count as a newline. -/
def takeBreak : Lexer (List Char) := do
  match ← peek with
  | none => return []
  | some character =>
    if isBreak character then
      advance 1
      return [if character == '\n' || character.toNat == 0x85 then '\n' else character]
    else return []

/-- Whether the text begins with the sign between two documents. -/
def startsSeparator (text : List Char) : Bool :=
  ("---".toList.isPrefixOf text || "...".toList.isPrefixOf text) &&
    endsIndicator (text.drop 3).head?

def atSeparator : Lexer Bool :=
  return startsSeparator (← get).rest

end PageGraft.Yaml
