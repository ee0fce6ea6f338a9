import PageGraft.Log.Record

/-!
# Layouts with dollar signs

A dollar sign and a name, in braces or not, make a place. Two dollar signs stand for one.
-/

namespace PageGraft.Log.Layout

/-- A piece of a layout: a place for a field, or text. -/
inductive DollarPiece where
  | text (character : Char)
  | place (name : String)
deriving Repr, DecidableEq

def beginsDollarName (character : Char) : Bool :=
  character.isAlpha || character = '_'

def continuesDollarName (character : Char) : Bool :=
  beginsDollarName character || character.isDigit

/-- A name at the beginning of a text, and the rest. -/
def dollarName? (text : List Char) : Option (String × List Char) :=
  match text with
  | first :: _ =>
    if beginsDollarName first then
      some (String.ofList (text.takeWhile continuesDollarName), text.dropWhile continuesDollarName)
    else none
  | [] => none

/-- The pieces of a layout, unless a dollar sign stands alone. The fuel is the length of the text. -/
def dollarPieces? : Nat → List Char → Option (List DollarPiece)
  | _, [] => some []
  | 0, _ => none
  | fuel + 1, '$' :: '$' :: rest => do return .text '$' :: (← dollarPieces? fuel rest)
  | fuel + 1, '$' :: '{' :: rest => do
    match ← dollarName? rest with
    | (name, '}' :: behind) => return .place name :: (← dollarPieces? fuel behind)
    | _ => none
  | fuel + 1, '$' :: rest => do
    let (name, behind) ← dollarName? rest
    return .place name :: (← dollarPieces? fuel behind)
  | fuel + 1, character :: rest => do return .text character :: (← dollarPieces? fuel rest)

/-- What is written for a piece, with the fields by their names. -/
def DollarPiece.write? (field? : String → Option Content) : DollarPiece → Option (List Char)
  | .text character => some [character]
  | .place name => (field? name).map fun content => content.display.toList

end PageGraft.Log.Layout
