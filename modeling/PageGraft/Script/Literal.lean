import PageGraft.Text.Trim

/-!
# Literals and comments of a script

How far string literals, regular expression literals and comments reach, read from the character
after their first. A reader answers the number of characters it has read, or nothing when the
literal does not end. Template literals hold brackets and are read together with them.
-/

namespace PageGraft.Script

open PageGraft.Text

/-- A quote of a string literal; a template literal has its own reader. -/
def isQuote (character : Char) : Bool :=
  character == '\'' || character == '"'

/-- Reads a string literal after its opening quote. A backslash takes the next character with it,
and a newline that is not escaped breaks the literal. -/
def stringLength (quote : Char) : List Char → Option Nat
  | [] => none
  | ['\\'] => none
  | '\\' :: _ :: rest => (stringLength quote rest).map (· + 2)
  | character :: rest =>
    if character = quote then some 1
    else if character = '\n' then none
    else (stringLength quote rest).map (· + 1)

/-- Reads a regular expression literal after its opening slash, flags included. A slash inside a
character class does not end it. -/
def regexLength (inClass : Bool) : List Char → Option Nat
  | [] => none
  | ['\\'] => none
  | '\\' :: _ :: rest => (regexLength inClass rest).map (· + 2)
  | character :: rest =>
    if character = '\n' then none
    else if inClass then (regexLength (character ≠ ']') rest).map (· + 1)
    else if character = '/' then some (1 + (rest.takeWhile isNamePart).length)
    else (regexLength (character = '[') rest).map (· + 1)

/-- The number of characters before the next newline, or before the end. -/
def lineLength (text : List Char) : Nat :=
  (text.takeWhile (· ≠ '\n')).length

/-- Reads a block comment after the two characters that open it. -/
def blockCommentLength : List Char → Option Nat
  | '*' :: '/' :: _ => some 2
  | _ :: rest => (blockCommentLength rest).map (· + 1)
  | [] => none

/-- Characters after which a slash opens a regular expression and does not divide. -/
def regexPreceders : List Char :=
  "(,=:[!&|?\x7b\x7d;+-*%<>~^".toList

/-- Words after which a slash opens a regular expression. -/
def regexKeywords : List (List Char) :=
  ["return", "typeof", "case", "in", "of", "void", "yield", "await", "delete", "instanceof",
    "new"].map String.toList

/-- How many characters before a slash are searched for a keyword. -/
def keywordReach : Nat := 16

/-- Whether the text before, nearest character first, ends with a keyword that stands alone, white
space after it aside. -/
def endsWithKeyword (before : List Char) : Bool :=
  let blanks := (before.takeWhile isSpace).length
  let reached := (before.take keywordReach).drop blanks
  regexKeywords.any fun keyword =>
    keyword.reverse.isPrefixOf reached &&
      !(before.drop (blanks + keyword.length)).head?.any isNamePart

/-- Whether a slash opens a regular expression, given the last character that is neither white
space nor part of a comment, and the text before the slash, nearest character first. -/
def regexAllowed (previous : Option Char) (before : List Char) : Bool :=
  match previous with
  | none => true
  | some character => regexPreceders.contains character || endsWithKeyword before

end PageGraft.Script
