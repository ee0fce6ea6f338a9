import PageGraft.Text.Numeral
import PageGraft.Yaml.Cursor

/-!
# Texts of scalars

Reads the text of a scalar in each of its five styles: plain, in single or double quotes, literal and
folded. A single end of a line inside a scalar counts as a space, except in the literal style.
-/

namespace PageGraft.Yaml

open PageGraft.Text

/-- The text that stands for the ends of lines inside a scalar: the first of them is a space if it is
alone, and nothing if more follow. -/
def foldBreaks (first breaks : List Char) : List Char :=
  if first ≠ ['\n'] then first ++ breaks
  else if breaks.isEmpty then [' ']
  else breaks

/-! ## Quoted scalars -/

/-- The characters that an escape of one letter stands for. -/
def escapes : List (Char × Nat) :=
  [('0', 0x00), ('a', 0x07), ('b', 0x08), ('t', 0x09), ('\t', 0x09), ('n', 0x0A), ('v', 0x0B),
    ('f', 0x0C), ('r', 0x0D), ('e', 0x1B), (' ', 0x20), ('"', 0x22), ('\\', 0x5C), ('/', 0x2F),
    ('N', 0x85), ('_', 0xA0), ('L', 0x2028), ('P', 0x2029)]

/-- How many hexadecimal digits follow the letter of an escape. -/
def escapeWidth : Char → Option Nat
  | 'x' => some 2
  | 'u' => some 4
  | 'U' => some 8
  | _ => none

def hexValue? (character : Char) : Option Nat :=
  if character.isDigit then some (character.toNat - '0'.toNat)
  else if 'a' ≤ character && character ≤ 'f' then some (character.toNat - 'a'.toNat + 10)
  else if 'A' ≤ character && character ≤ 'F' then some (character.toNat - 'A'.toNat + 10)
  else none

/-- The ends of lines that follow one another, with the blanks in front of them left out. -/
def quotedBreaks : Nat → Lexer (List Char)
  | 0 => return []
  | fuel + 1 => do
    guard (!(← atSeparator))
    let _ ← takeClass fun c => c == ' ' || c == '\t'
    let newline ← takeBreak
    if newline.isEmpty then return []
    else return newline ++ (← quotedBreaks fuel)

/-- White space in a quoted scalar. -/
def quotedBlanks (fuel : Nat) : Lexer (List Char) := do
  let blanks ← takeClass fun c => c == ' ' || c == '\t'
  guard ((← peek).isSome)
  let newline ← takeBreak
  if newline.isEmpty then return blanks
  else return foldBreaks newline (← quotedBreaks fuel)

/-- An escape in double quotes, after its backslash. -/
def escaped (fuel : Nat) : Lexer (List Char) := do
  let some letter ← peek | failure
  match escapes.lookup letter, escapeWidth letter with
  | some code, _ =>
    advance 1
    return [Char.ofNat code]
  | none, some width =>
    advance 1
    let digits := (← get).rest.take width
    guard (digits.length = width)
    let some code := ofBase? 16 digits | failure
    if 0x7FFFFFFF < code then throw .codePointTooLarge
    if 0x10FFFF < code then throw .noCodePoint
    advance width
    return [Char.ofNat code]
  | none, none =>
    let newline ← takeBreak
    guard (!newline.isEmpty)
    quotedBreaks fuel

/-- The inside of a quoted scalar, up to its closing quote. -/
def quotedInside (quote : Char) : Nat → Lexer (List Char)
  | 0 => failure
  | fuel + 1 => do
    let text ← takeClass fun c => !("'\"\\ \t".toList.contains c) && !isBreak c
    let some next ← peek | failure
    if next == '\'' && quote == '\'' && (← peekAt 1) == some '\'' then
      advance 2
      return text ++ '\'' :: (← quotedInside quote fuel)
    else if next == quote then return text
    else if next == '\'' || next == '"' || (next == '\\' && quote == '\'') then
      advance 1
      return text ++ next :: (← quotedInside quote fuel)
    else if next == '\\' then
      advance 1
      let piece ← escaped fuel
      return text ++ piece ++ (← quotedInside quote fuel)
    else
      let piece ← quotedBlanks fuel
      return text ++ piece ++ (← quotedInside quote fuel)

/-- A scalar in quotes. -/
def quotedScalar (quote : Char) : Lexer (List Char) := do
  advance 1
  let text ← quotedInside quote ((← get).rest.length + 1)
  advance 1
  return text

/-! ## Plain scalars -/

/-- The length of a piece of a plain scalar without white space. -/
def plainLength (inFlow : Bool) : List Char → Nat
  | [] => 0
  | character :: rest =>
    let ends :=
      endsIndicator (some character) ||
        (character == ':' &&
          (endsIndicator rest.head? ||
            (inFlow && rest.head?.any (",[]\x7b\x7d".toList.contains ·)))) ||
        (inFlow && ",?[]\x7b\x7d".toList.contains character)
    if ends then 0 else plainLength inFlow rest + 1

/-- Ends of lines with spaces between them; nothing if they lead to a separator. -/
def plainBreaks : Nat → Lexer (Option (List Char))
  | 0 => return some []
  | fuel + 1 => do
    let _ ← takeClass (· == ' ')
    let newline ← takeBreak
    if newline.isEmpty then return some []
    else if ← atSeparator then return none
    else return (← plainBreaks fuel).map (newline ++ ·)

/-- White space inside a plain scalar. After the end of a line a key may begin. -/
def plainBlanks (fuel : Nat) : Lexer (List Char) := do
  let blanks ← takeClass (· == ' ')
  let newline ← takeBreak
  if newline.isEmpty then return blanks
  else
    modify fun cursor => { cursor with keyAllowed := true }
    if ← atSeparator then return []
    else return ((← plainBreaks fuel).map (foldBreaks newline)).getD []

/-- The rest of a plain scalar after some white space. It ends at a comment, and in a block also where
a line begins too far to the left. -/
def plainFrom : Nat → List Char → Lexer (List Char)
  | 0, _ => return []
  | fuel + 1, blanks => do
    let cursor ← get
    let length := plainLength (0 < cursor.level) cursor.rest
    if cursor.rest.head? == some '#' || length = 0 then return []
    else
      modify fun cursor => { cursor with keyAllowed := false }
      let text := cursor.rest.take length
      advance length
      let next ← plainBlanks fuel
      let moved ← get
      let indent := (cursor.indents.head?.map (· + 1)).getD 0
      if next.isEmpty || moved.rest.head? == some '#' ||
          (cursor.level = 0 && moved.column < indent) then
        return blanks ++ text
      else return blanks ++ text ++ (← plainFrom fuel next)

def plainScalar : Lexer (List Char) := do
  plainFrom ((← get).rest.length + 1) []

/-! ## Block scalars -/

/-- What happens to the ends of lines at the end of a block scalar. -/
inductive Chomping where
  | clip
  | strip
  | keep
deriving DecidableEq

def chompingSign : Lexer Chomping := do
  match ← peek with
  | some '+' => advance 1; return .keep
  | some '-' => advance 1; return .strip
  | _ => return .clip

/-- A digit that says how far a block scalar is indented. -/
def indentSign : Lexer (Option Nat) := do
  match ← peek with
  | some digit =>
    if digit.isDigit then
      guard (digit ≠ '0')
      advance 1
      return some (digit.toNat - '0'.toNat)
    else return none
  | none => return none

/-- The signs at the top of a block scalar, in either order. -/
def blockSigns : Lexer (Chomping × Option Nat) := do
  let first ← chompingSign
  let indent ← indentSign
  let chomping ← (if first = .clip && indent.isSome then chompingSign else return first)
  guard (endsToken (← peek))
  return (chomping, indent)

/-- The rest of a line on which nothing but a comment may stand. -/
def ignoredLine : Lexer Unit := do
  let _ ← takeClass (· == ' ')
  if (← peek) == some '#' then
    let _ ← takeClass (!isBreak ·)
  guard ((← peek).all isBreak)
  let _ ← takeBreak

/-- The empty lines in front of a block scalar, and how far the widest of the spaces there reach. -/
def blockIndent : Nat → Nat → Lexer (List Char × Nat)
  | 0, widest => return ([], widest)
  | fuel + 1, widest => do
    let _ ← takeClass (· == ' ')
    let widest := max widest (← get).column
    let newline ← takeBreak
    if newline.isEmpty then return ([], widest)
    else
      let (breaks, widest) ← blockIndent fuel widest
      return (newline ++ breaks, widest)

/-- Spaces up to a column. -/
def takeIndent (indent : Nat) : Lexer Unit := do
  let cursor ← get
  let spaces := (cursor.rest.take (indent - cursor.column)).takeWhile (· == ' ')
  advance spaces.length

/-- The empty lines between two lines of a block scalar. -/
def blockBreaks (indent : Nat) : Nat → Lexer (List Char)
  | 0 => return []
  | fuel + 1 => do
    takeIndent indent
    let newline ← takeBreak
    if newline.isEmpty then return []
    else return newline ++ (← blockBreaks indent fuel)

/-- The lines of a block scalar, given the empty lines in front. Answers the text, the end of its last
line, and the empty lines after it. -/
def blockLines (folded : Bool) (indent : Nat) :
    Nat → List Char → Lexer (List Char × List Char × List Char)
  | 0, breaks => return ([], [], breaks)
  | fuel + 1, breaks => do
    let cursor ← get
    if cursor.column ≠ indent || cursor.rest.isEmpty then return ([], [], breaks)
    else
      let isText (next : Option Char) : Bool := !next.any fun c => c == ' ' || c == '\t'
      let begun := isText cursor.rest.head?
      let line ← takeClass (!isBreak ·)
      let newline ← takeBreak
      let after ← blockBreaks indent fuel
      let cursor ← get
      if cursor.column = indent && !cursor.rest.isEmpty then
        let joint :=
          if folded && newline == ['\n'] && begun && isText cursor.rest.head? then
            if after.isEmpty then [' '] else []
          else newline
        let (text, last) ← blockLines folded indent fuel after
        return (breaks ++ line ++ joint ++ text, last)
      else return (breaks ++ line, newline, after)

/-- A literal or folded scalar. -/
def blockScalar (folded : Bool) : Lexer (List Char) := do
  advance 1
  let (chomping, increment) ← blockSigns
  ignoredLine
  let cursor ← get
  let fuel := cursor.rest.length + 1
  let least := max 1 ((cursor.indents.head?.map (· + 1)).getD 0)
  let (breaks, indent) ← (match increment with
    | some increment => do
      let indent := least + increment - 1
      return (← blockBreaks indent fuel, indent)
    | none => do
      let (breaks, widest) ← blockIndent fuel 0
      return (breaks, max least widest))
  let (text, last, after) ← blockLines folded indent fuel breaks
  match chomping with
  | .strip => return text
  | .clip => return text ++ last
  | .keep => return text ++ last ++ after

end PageGraft.Yaml
