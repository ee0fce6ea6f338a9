import PageGraft.Syntax.Token
import PageGraft.Text.Character

/-!
# Reading tokens

Where a token is expected, the longest of the tokens that are valid there is read. Each reader takes
the text from a place on and answers how many characters its token has there, none if it has none.
-/

namespace PageGraft.Syntax

open PageGraft.Text

/-! ## Characters -/

/-- White space between tokens, byte order marks and joiners of no width included. -/
def isGap (character : Char) : Bool :=
  let code := character.toNat
  (isSpace character && !(0x1C ≤ code && code ≤ 0x1F) && code ≠ 0x85) ||
    code == 0xFEFF || code == 0x2060 || code == 0x200B

/-- How many characters of white space a text begins with. -/
def gapLength : List Char → Nat
  | [] => 0
  | character :: rest => if isGap character then gapLength rest + 1 else 0

/-- ASCII marks that no name holds. -/
def nameBreaks : List Char :=
  [':', ';', '\x60', '"', '\'', '@', '#', '.', ',', '|', '^', '&', '<', '=', '>', '+', '-', '*', '/',
    '\\', '%', '?', '!', '~', '(', ')', '[', ']', '\x7b', '\x7d']

/-- A character of a name. Digits cannot begin one. -/
def isNameCharacter (isFirst : Bool) (character : Char) : Bool :=
  0x1F < character.toNat && !isGap character && !nameBreaks.contains character &&
    !(isFirst && character.isDigit)

def isHexDigit (character : Char) : Bool :=
  character.isDigit || ('a' ≤ character && character ≤ 'f') ||
    ('A' ≤ character && character ≤ 'F')

/-- A character that ends a line of a script or comment. -/
def isScriptLineBreak (character : Char) : Bool :=
  character == '\n' || character.toNat == 0x2028 || character.toNat == 0x2029

/-! ## Names -/

/-- A character written by its code: `\u` with four digits, or any number of them in braces. -/
def unicodeEscapeLength : List Char → Nat
  | '\\' :: 'u' :: '\x7b' :: rest =>
    let digits := rest.takeWhile isHexDigit
    match digits, rest.drop digits.length with
    | _ :: _, '\x7d' :: _ => digits.length + 4
    | _, _ => 0
  | '\\' :: 'u' :: rest =>
    if (rest.take 4).length = 4 && (rest.take 4).all isHexDigit then 6 else 0
  | _ => 0

/-- The rest of a name; `skipped` characters belong to an escape already read. -/
def nameLengthFrom (isFirst : Bool) (skipped : Nat) : List Char → Nat
  | [] => 0
  | character :: rest =>
    match skipped with
    | skipped + 1 => nameLengthFrom false skipped rest + 1
    | 0 =>
      if character = '\\' then
        match unicodeEscapeLength (character :: rest) with
        | 0 => 0
        | length + 1 => nameLengthFrom false length rest + 1
      else if isNameCharacter isFirst character then nameLengthFrom false 0 rest + 1
      else 0

def nameLength : List Char → Nat :=
  nameLengthFrom true 0

/-- A name after a number sign. -/
def privateNameLength : List Char → Nat
  | '#' :: rest =>
    match nameLength rest with
    | 0 => 0
    | length + 1 => length + 2
  | _ => 0

/-- The rest of a name of an element or attribute; `dashed` tells whether a hyphen came before. -/
def markupNameLengthFrom (dashed : Bool) : List Char → Option Nat
  | [] => if dashed then some 0 else none
  | character :: rest =>
    if character.isAlphanum || character == '_' || character == '$' then
      (markupNameLengthFrom dashed rest).map (· + 1)
    else if character == '-' then (markupNameLengthFrom true rest).map (· + 1)
    else if dashed then some 0
    else none

/-- A name of an element or attribute with at least one hyphen. -/
def markupNameLength : List Char → Nat
  | [] => 0
  | character :: rest =>
    if character.isAlpha || character == '_' || character == '$' then
      ((markupNameLengthFrom false rest).map (· + 1)).getD 0
    else 0

/-! ## Numbers -/

/-- Digits with single underscores in between, from a digit or underscore on. -/
def moreDigitsLength (isDigit : Char → Bool) : List Char → Nat
  | [] => 0
  | character :: rest =>
    if isDigit character || character == '_' && rest.head?.any isDigit then
      moreDigitsLength isDigit rest + 1
    else 0

/-- Digits with single underscores in between. -/
def digitsLength (isDigit : Char → Bool) (text : List Char) : Nat :=
  if text.head?.any isDigit then moreDigitsLength isDigit text else 0

/-- The letter after a whole number without limits. -/
def bigMarkLength : List Char → Nat
  | 'n' :: _ => 1
  | _ => 0

/-- A sign, or nothing. -/
def signLength : List Char → Nat
  | '+' :: _ | '-' :: _ => 1
  | _ => 0

/-- A power of ten, or nothing. -/
def exponentLength : List Char → Nat
  | 'e' :: rest | 'E' :: rest =>
    let sign := signLength rest
    match digitsLength Char.isDigit (rest.drop sign) with
    | 0 => 0
    | length + 1 => sign + length + 2
  | _ => 0

/-- A number with prefix for its base. -/
def radixNumberLength : List Char → Nat
  | '0' :: mark :: rest =>
    let isDigit : Char → Bool :=
      if mark == 'x' || mark == 'X' then isHexDigit
      else if mark == 'b' || mark == 'B' then fun digit => digit == '0' || digit == '1'
      else if mark == 'o' || mark == 'O' then fun digit => '0' ≤ digit && digit ≤ '7'
      else fun _ => false
    match digitsLength isDigit rest with
    | 0 => 0
    | length + 1 => length + 3 + bigMarkLength (rest.drop (length + 1))
  | _ => 0

/-- The whole part of a decimal number; a zero in front of it is allowed. -/
def wholeLength : List Char → Nat
  | '0' :: rest =>
    if rest.head?.any fun digit => digit.isDigit && digit ≠ '0' then
      digitsLength Char.isDigit rest + 1
    else 1
  | text => digitsLength Char.isDigit text

/-- A number with a point or a power of ten. -/
def decimalLength (text : List Char) : Nat :=
  let whole := wholeLength text
  match text.drop whole with
  | '.' :: rest =>
    let fraction := digitsLength Char.isDigit rest
    if 0 < whole || 0 < fraction then
      whole + 1 + fraction + exponentLength (rest.drop fraction)
    else 0
  | rest =>
    match exponentLength rest with
    | 0 => 0
    | length + 1 => if 0 < whole then whole + length + 1 else 0

/-- Digits alone. -/
def integerLength (text : List Char) : Nat :=
  match digitsLength Char.isDigit text with
  | 0 => 0
  | length + 1 => length + 1 + bigMarkLength (text.drop (length + 1))

def numberLength (text : List Char) : Nat :=
  max (radixNumberLength text) (max (decimalLength text) (integerLength text))

/-! ## Comments -/

/-- The rest of a comment that can have several lines, its end included. -/
def blockCommentLength : List Char → Option Nat
  | '*' :: '/' :: _ => some 2
  | _ :: rest => (blockCommentLength rest).map (· + 1)
  | [] => none

def commentLength : List Char → Nat
  | '/' :: '/' :: rest =>
    (rest.takeWhile fun character => character ≠ '\r' && !isScriptLineBreak character).length + 2
  | '/' :: '*' :: rest => ((blockCommentLength rest).map (· + 2)).getD 0
  | _ => 0

/-! ## Texts and patterns -/

/-- An escape in a text or template. -/
def escapeLength : List Char → Nat
  | '\\' :: 'x' :: first :: second :: _ => if isHexDigit first && isHexDigit second then 4 else 0
  | '\\' :: 'x' :: _ => 0
  | '\\' :: 'u' :: rest => unicodeEscapeLength ('\\' :: 'u' :: rest)
  | '\\' :: character :: rest =>
    if '0' ≤ character && character ≤ '7' then
      ((character :: rest).take 3 |>.takeWhile fun digit => '0' ≤ digit && digit ≤ '7').length + 1
    else if (character == '\r' || character == '?') && rest.head?.any isScriptLineBreak then 3
    else 2
  | _ => 0

/-- The text of a quoted string up to an escape, its end or the end of the line. -/
def quotedLength (quote : Char) (text : List Char) : Nat :=
  (text.takeWhile fun character =>
    character ≠ quote && character ≠ '\\' && character ≠ '\r' && character ≠ '\n').length

/-- The text of a quoted attribute up to a reference or its end. A quotation mark right after an
ampersand does not end it. -/
def attributeLength (quote : Char) : List Char → Nat
  | [] => 0
  | '&' :: next :: rest =>
    if next == '#' || next.isAlpha then 0 else attributeLength quote rest + 2
  | character :: rest =>
    if character = quote || character = '&' then 0 else attributeLength quote rest + 1

/-- The rest of a class of characters in a pattern, its end included. -/
def classLength : List Char → Option Nat
  | [] => none
  | ']' :: _ => some 1
  | '\n' :: _ => none
  | '\\' :: next :: rest => if next = '\n' then none else (classLength rest).map (· + 2)
  | '\\' :: [] => none
  | _ :: rest => (classLength rest).map (· + 1)

/-- The rest of a pattern; `skipped` characters belong to a part already read. -/
def patternLengthFrom (skipped : Nat) : List Char → Nat
  | [] => 0
  | character :: rest =>
    match skipped with
    | skipped + 1 => patternLengthFrom skipped rest + 1
    | 0 =>
      if character = '/' || character = '\n' then 0
      else if character = '\\' then
        if rest.head?.any (· ≠ '\n') then patternLengthFrom 1 rest + 1 else 0
      else if character = '[' then
        match classLength rest with
        | some length => patternLengthFrom length rest + 1
        | none => 0
      else patternLengthFrom 0 rest + 1

def patternLength : List Char → Nat :=
  patternLengthFrom 0

/-- A character of a page written by its name or code. -/
def referenceLength : List Char → Nat
  | '&' :: '#' :: mark :: rest =>
    if mark == 'x' || mark == 'X' then ended (rest.takeWhile isHexDigit) 6 3 rest
    else ended ((mark :: rest).takeWhile Char.isDigit) 5 2 (mark :: rest)
  | '&' :: rest => ended (rest.takeWhile Char.isAlpha) 30 1 rest
  | _ => 0
where
  /-- The length if there are neither too few nor too many characters and a semicolon follows. -/
  ended (characters : List Char) (limit before : Nat) (rest : List Char) : Nat :=
    let count := characters.length
    if 0 < count && count ≤ limit && (rest.drop count).head? == some ';' then before + count + 1
    else 0

/-- The first line of a script that a shell can run. -/
def hashBangLength : List Char → Nat
  | '#' :: '!' :: rest => (rest.takeWhile (· ≠ '\n')).length + 2
  | _ => 0

/-! ## The longest token -/

/-- A token with the white space in front of it. -/
structure Lexed where
  token : Nat
  gap : Nat := 0
  length : Nat
deriving Repr

/-- Words that consist of letters. They are read as names first. -/
def keywords : List (List Char × Nat) :=
  tokens.zipIdx.filterMap fun (token, index) =>
    match token with
    | .word text => if text.toList.all Char.isAlpha then some (text.toList, index) else none
    | .lexeme _ => none

/-- Words that consist of marks. -/
def marks : List (List Char × Nat) :=
  tokens.zipIdx.filterMap fun (token, index) =>
    match token with
    | .word text => if text.toList.all Char.isAlpha then none else some (text.toList, index)
    | .lexeme _ => none

def keywordSet : TokenSet :=
  keywords.foldl (fun set (_, index) => set ||| .single index) 0

def lexemeIndex (kind : Lexeme) : Nat :=
  (Token.lexeme kind).index

def identifierIndex : Nat := lexemeIndex .identifier

/-- The keyword that a name spells. -/
def keyword? (name : List Char) : Option Nat :=
  (keywords.find? (·.1 == name)).map (·.2)

/-- Lexemes that continue the token in front of them, so that white space belongs to them. -/
def adjacentLexemes : List (Nat × (List Char → Nat)) :=
  [(lexemeIndex .doubleQuotedText, quotedLength '"'),
    (lexemeIndex .singleQuotedText, quotedLength '\''),
    (lexemeIndex .doubleQuotedAttribute, attributeLength '"'),
    (lexemeIndex .singleQuotedAttribute, attributeLength '\''),
    (lexemeIndex .regexClose, fun text => if text.head? == some '/' then 1 else 0)]

/-- Lexemes that follow the token in front of them closely but give way to longer ones. -/
def closeLexemes : List (Nat × (List Char → Nat)) :=
  [(lexemeIndex .escapeSequence, escapeLength),
    (lexemeIndex .regexFlags, fun text =>
      (text.takeWhile fun letter => 'a' ≤ letter && letter ≤ 'z').length)]

/-- Lexemes that white space can stand in front of. -/
def looseLexemes : List (Nat × (List Char → Nat)) :=
  [(lexemeIndex .privateName, privateNameLength),
    (lexemeIndex .number, numberLength),
    (lexemeIndex .hashBangLine, hashBangLength),
    (lexemeIndex .markupName, markupNameLength),
    (lexemeIndex .characterReference, referenceLength),
    (lexemeIndex .comment, commentLength)]

/-- A token that could be read, with where it ends and which of two that end together is preferred. -/
structure Candidate where
  lexed : Lexed
  stop : Nat
  preference : Nat

/-- The candidate that goes further, or else is preferred; the first of equals. -/
def Candidate.better (first : Option Candidate) (second : Candidate) : Option Candidate :=
  match first with
  | none => some second
  | some first =>
    if first.stop < second.stop || first.stop = second.stop && first.preference < second.preference
    then some second
    else some first

/-- The candidates of some lexemes after so much white space. -/
def lexemeCandidates (lexemes : List (Nat × (List Char → Nat))) (valid : TokenSet)
    (gap preference : Nat) (text : List Char) : List Candidate :=
  lexemes.filterMap fun (token, length) =>
    if valid.testBit token then
      match length text with
      | 0 => none
      | count + 1 => some ⟨⟨token, gap, count + 1⟩, gap + count + 1, preference⟩
    else none

/-- All tokens among the valid ones that a text could begin with. -/
def candidates (valid : TokenSet) (text : List Char) : List Candidate :=
  let gap := gapLength text
  let rest := text.drop gap
  let name :=
    if valid.testBit identifierIndex || valid &&& keywordSet != 0 then
      match nameLength rest with
      | 0 => []
      | count + 1 => [⟨⟨identifierIndex, gap, count + 1⟩, gap + count + 1, 0⟩]
    else []
  let marked := marks.filterMap fun (mark, token) =>
    if valid.testBit token && mark.isPrefixOf rest then
      some ⟨⟨token, gap, mark.length⟩, gap + mark.length, 2⟩
    else none
  lexemeCandidates closeLexemes valid 0 1 text ++ name ++
    lexemeCandidates looseLexemes valid gap 0 rest ++ marked

/-- Reads a token. A pattern takes all that it can, unless only white space leads to a comment. -/
def lex? (valid : TokenSet) (text : List Char) : Option Lexed :=
  match (lexemeCandidates adjacentLexemes valid 0 0 text).head? with
  | some candidate => some candidate.lexed
  | none =>
    let gap := gapLength text
    let pattern :=
      if valid.testBit (lexemeIndex .regexPattern) then patternLength text else 0
    if 0 < pattern && !(0 < gap && 0 < commentLength (text.drop gap)) then
      some ⟨lexemeIndex .regexPattern, 0, pattern⟩
    else
      match (candidates valid text).foldl Candidate.better none with
      | some candidate => some candidate.lexed
      | none =>
        if (text.drop gap).isEmpty && valid.testBit 0 then some ⟨0, gap, 0⟩ else none

end PageGraft.Syntax
