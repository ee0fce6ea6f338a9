import PageGraft.Script.Bracket
import PageGraft.Script.ImportStatement

/-!
# Declarations in a page

Finds a function declaration in the text of a page, which is not parsed: the header is recognised by
its words, and the body ends where its brace closes. Where brackets do not match, looser rules for
the end are tried in turn.
-/

namespace PageGraft.Page

open PageGraft.Text PageGraft.Script

/-- The texts after some of the white space that a text begins with, at least one character of it,
the most first. -/
def afterSpaces : List Char → List (List Char)
  | [] => []
  | character :: rest => if isSpace character then afterSpaces rest ++ [rest] else []

/-- Reads white space, a name, and white space up to a mark, and answers the text from the mark
on. -/
def beforeMark (name : List Char) (mark : Char) (text : List Char) : Option (List Char) :=
  (afterSpaces text).findSome? fun tail => do
    let rest ← dropPiece name tail
    match rest.dropWhile isSpace with
    | character :: rest => if character = mark then some (character :: rest) else none
    | [] => none

/-- Reads the header of a function up to the parenthesis that opens its parameters. -/
def atParameters (name text : List Char) : Option (List Char) :=
  let plain (text : List Char) : Option (List Char) := do
    beforeMark name '(' (← dropPiece "function".toList text)
  let withAsync := do plain (← dropSpaces? (← dropPiece "async".toList text))
  withAsync <|> plain text

/-- Finds the header of a function, the parenthesis that opens its parameters included. -/
def functionHeader (name : List Char) : Finder := fun previous text =>
  if startsWord previous then
    (atParameters name text).map fun rest => text.length - rest.length + 1
  else none

/-- The distance from the parenthesis that opens the parameters to the brace that opens the body. -/
def bodyDistance (text : List Char) : Option Nat := do
  let distance ← groupLength text
  let rest := text.drop (distance + 1)
  let spaces := (rest.takeWhile isSpace).length
  if (rest.drop spaces).head? = some '\x7b' then some (distance + 1 + spaces) else none

/-- The start of the first declaration with a given name and the index of its body's brace, after
the next `skip` characters, which belong to a header without a body. -/
def headerFrom (name : List Char) : Nat → Option Char → List Char → Option (Nat × Nat)
  | _, _, [] => none
  | skip + 1, _, character :: rest =>
    (headerFrom name skip (some character) rest).map fun (start, brace) => (start + 1, brace + 1)
  | 0, previous, character :: rest =>
    let shifted (skip : Nat) :=
      (headerFrom name skip (some character) rest).map fun (start, brace) =>
        (start + 1, brace + 1)
    match functionHeader name previous (character :: rest) with
    | none => shifted 0
    | some length =>
      match bodyDistance ((character :: rest).drop (length - 1)) with
      | some distance => some (0, length - 1 + distance)
      | none => shifted (length - 1)

/-- The start of the first declaration with a given name and the index of its body's brace. -/
def findHeader (text name : List Char) : Option (Nat × Nat) :=
  headerFrom name 0 none text

/-- The index at which the line of an index begins. -/
def lineStart (text : List Char) (index : Nat) : Nat :=
  index - ((text.take index).reverse.takeWhile (· ≠ '\n')).length

/-- The spaces and tabs at the beginning of the line of an index. -/
def indentAt (text : List Char) (index : Nat) : List Char :=
  leadingBlanks (text.drop (lineStart text index))

/-- The rules by which the end of a function's body is found. -/
inductive BodyEnd where
  /-- The brace that closes the body's opening brace. -/
  | balanced
  /-- The first closing brace that white space separates from a newline before it. -/
  | closingLine
  /-- The first closing brace. -/
  | firstBrace
  /-- The first closing brace after a `return`. -/
  | afterReturn
deriving Repr, DecidableEq

def BodyEnd.word : BodyEnd → String
  | .balanced => "balanced"
  | .closingLine => "closing-line"
  | .firstBrace => "first-brace"
  | .afterReturn => "return"

/-- The length of a text up to and with a brace on a line of its own. -/
def closingLineLength : List Char → Option Nat
  | [] => none
  | character :: rest =>
    let spaces := (rest.takeWhile isSpace).length
    if character = '\n' && (rest.drop spaces).head? = some '}' then some (spaces + 2)
    else (closingLineLength rest).map (· + 1)

/-- The length of a body from its opening brace to its end, by one of the rules. -/
def BodyEnd.bodyLength (rule : BodyEnd) (text : List Char) : Option Nat :=
  match rule with
  | .balanced => (groupLength text).map (· + 1)
  | .closingLine => (closingLineLength (text.drop 1)).map (· + 1)
  | .firstBrace => (distanceTo ['}'] (text.drop 1)).map (· + 2)
  | .afterReturn => do
    let toReturn ← distanceTo "return".toList (text.drop 1)
    let toBrace ← distanceTo ['}'] (text.drop (toReturn + 7))
    pure (toReturn + toBrace + 8)

/-- The rules in the order in which they are tried. -/
def BodyEnd.order (balancedMatching : Bool) : List BodyEnd :=
  (if balancedMatching then [.balanced] else []) ++ [.closingLine, .firstBrace, .afterReturn]

/-- Where a function declaration stands in a page. -/
structure FunctionSpan where
  start : Nat
  stop : Nat
  indent : List Char
  bodyEnd : BodyEnd
deriving Repr, DecidableEq

/-- The first declaration of a function. The first rule that finds an end of the body wins. -/
def findFunction (balancedMatching : Bool) (text name : List Char) : Option FunctionSpan := do
  let (start, brace) ← findHeader text name
  (BodyEnd.order balancedMatching).findSome? fun rule =>
    (rule.bodyLength (text.drop brace)).map fun length =>
      { start, stop := brace + length, indent := indentAt text start, bodyEnd := rule }

end PageGraft.Page
