import PageGraft.Log.Layout.Brace
import PageGraft.Log.Layout.Dollar
import PageGraft.Log.Layout.Percent

/-!
# Layouts

How a record is written on a line: a text with places for the fields of the record, in one of three
styles. Fields that the record does not have can be given defaults.
-/

namespace PageGraft.Log

open PageGraft.Data

/-- How places are marked in the text of a layout. -/
inductive LayoutStyle where
  | percent
  | brace
  | dollar
deriving Repr, DecidableEq

namespace LayoutStyle

/-- The style of a mark. -/
def ofMark? (mark : String) : Option LayoutStyle :=
  match mark with
  | "%" => some percent
  | "\x7b" => some brace
  | "$" => some dollar
  | _ => none

/-- The layout of the bare message. -/
def bareText : LayoutStyle → String
  | percent => "%(message)s"
  | brace => "\x7bmessage\x7d"
  | dollar => "$\x7bmessage\x7d"

/-- Whether a text has places, and all that it has are written well. -/
def accepts (style : LayoutStyle) (text : List Char) : Bool :=
  match style with
  | percent => Layout.hasPercentPlace text
  | brace => (Layout.bracePieces? text.length text).any Layout.areBracePieces
  | dollar => (Layout.dollarPieces? text.length text).any fun pieces => pieces.any fun
    | .place _ => true
    | .text _ => false

/-- What is written for a text, with the fields by their names; nothing if a field is missing or cannot
be written in its place. -/
def write? (style : LayoutStyle) (field? : String → Option Content) (text : List Char) :
    Option (List Char) :=
  match style with
  | percent => do
    let pieces ← Layout.percentPieces? text.length text
    return (← pieces.mapM fun piece => piece.write? field?).flatten
  | brace => Layout.writeBraces? field? 1 text
  | dollar => do
    let pieces ← Layout.dollarPieces? text.length text
    return (← pieces.mapM fun piece => piece.write? field?).flatten

end LayoutStyle

/-- A layout. The time is written in a form, or else in the usual one. -/
structure Layout where
  style : LayoutStyle := .percent
  text : String := style.bareText
  timeForm : Option String := none
  defaults : List (Value × Value) := []
deriving Repr

namespace Layout

/-- The bare message. -/
def bare : Layout := {}

/-- The field of a name: that of the record, or else the default. -/
def field? (layout : Layout) (time : Moment) (record : Record) (name : String) : Option Content :=
  (record.field? time layout.timeForm name).orElse fun _ =>
    if Record.unknownFields.contains name then none
    else (Value.get? layout.defaults name).map .value

/-- The line of a record at a time. -/
def line? (layout : Layout) (time : Moment) (record : Record) : Option String :=
  (layout.style.write? (layout.field? time record) layout.text.toList).map String.ofList

end Layout

end PageGraft.Log
