import PageGraft.Syntax.Node

/-!
# Places

A place in a source together with the text from there on, so that reading goes on from it.
-/

namespace PageGraft.Syntax

/-- The position after a character. -/
def Position.next (position : Position) (character : Char) : Position where
  octet := position.octet + character.utf8Size
  row := if character = '\n' then position.row + 1 else position.row
  column := if character = '\n' then 0 else position.column + character.utf8Size

structure Place where
  position : Position := {}
  rest : List Char

namespace Place

def octet (place : Place) : Nat :=
  place.position.octet

/-- The place so many characters further on. -/
def advanceFrom (position : Position) : List Char → Nat → Place
  | character :: rest, count + 1 => advanceFrom (position.next character) rest count
  | rest, _ => ⟨position, rest⟩

@[inherit_doc advanceFrom]
def advance (place : Place) (count : Nat) : Place :=
  advanceFrom place.position place.rest count

/-- The later one of two places. -/
def latest (first second : Place) : Place :=
  if first.octet < second.octet then second else first

end Place

end PageGraft.Syntax
