import PageGraft.Script.Number
import PageGraft.Syntax.Source

/-!
# Literals in a component

The literal that initialises a state variable of the page, and the names on which an effect depends.
-/

namespace PageGraft.Component

open PageGraft.Syntax PageGraft.Script

/-- The inside of a string literal as it is written between double quotes: an escaped single quote
needs no escape there, and a bare double quote needs one. -/
def requote : List Char → List Char
  | [] => []
  | '\\' :: next :: rest =>
    if next = '\'' then '\'' :: requote rest else '\\' :: next :: requote rest
  | '"' :: rest => '\\' :: '"' :: requote rest
  | character :: rest => character :: requote rest

/-- A string literal in double quotes. -/
def doubleQuoted (literal : List Char) : List Char :=
  if literal.length < 2 || literal.head? == some '"' then literal
  else '"' :: requote (literal.tail.dropLast) ++ ['"']

/-- The initial value of a state variable on one line. Scalars keep their text, arrays and objects
become empty, and all else becomes null. -/
def initialValue (source : Source) (node : Node) : List Char :=
  match node.kind with
  | .trueLiteral | .falseLiteral | .number => source.nodeText node
  | .string => doubleQuoted (source.nodeText node)
  | .array => "[]".toList
  | .object => "\x7b\x7d".toList
  | _ => "null".toList

/-- The name that an element of a dependency array stands for. Literals that count as false stand for
none. -/
def dependency? (source : Source) (element : Node) : Option (List Char) :=
  let text := source.nodeText element
  match element.kind with
  | .identifier | .trueLiteral => some text
  | .string => if text.length > 2 then some text.tail.dropLast else none
  | .number => if isZero text then none else some text
  | _ => none

/-- The names in a dependency array; anything but an array has none. -/
def dependencies (source : Source) (node : Node) : List (List Char) :=
  if node.kind = .array then
    (node.children.filter (·.named)).filterMap (dependency? source)
  else []

end PageGraft.Component
