import PageGraft.Syntax.Node
import PageGraft.Text.Trim
import PageGraft.Text.Utf8

/-!
# Sources

A source as text and as octets. Nodes count octets, so their texts are cut from the octets.
-/

namespace PageGraft.Syntax

open PageGraft.Text

structure Source where
  text : List Char
  octets : List UInt8 := encode text

namespace Source

def ofText (text : List Char) : Source := { text }

/-- The octets from one index up to another. -/
def slice (source : Source) (start stop : Nat) : List UInt8 :=
  (source.octets.take stop).drop start

/-- The text of a node; a node that cuts a character in two has none. -/
def nodeText? (source : Source) (node : Node) : Except DecodeError (List Char) :=
  decode (source.slice node.start.octet node.stop.octet)

/-- The text of a node, empty for a node that cuts a character in two. -/
def nodeText (source : Source) (node : Node) : List Char :=
  (source.nodeText? node).toOption.getD []

/-- The octet of a space or a tab. -/
def isBlankOctet (octet : UInt8) : Bool :=
  octet == 0x20 || octet == 0x09

/-- The spaces and tabs that a line of the source begins with; nothing after the last line. -/
def lineIndent (source : Source) (row : Nat) : List Char :=
  match (source.octets.splitOn 0x0A)[row]? with
  | some line => (decode (line.takeWhile isBlankOctet)).toOption.getD []
  | none => []

end Source

end PageGraft.Syntax
