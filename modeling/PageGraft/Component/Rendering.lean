import PageGraft.Script.Cleaning
import PageGraft.Syntax.Source

/-!
# Rendering

Turns the functions and effects of a component into plain script: their text is moved to the left
margin, functions that are values become declarations, and the result is cleaned.
-/

namespace PageGraft.Component

open PageGraft.Text PageGraft.Script PageGraft.Settings PageGraft.Syntax

/-! ## Text at the left margin -/

/-- A line without the indentation of the construct it belongs to; a blank line becomes empty. -/
def dedent (indent line : List Char) : List Char :=
  if isBlankLine line then []
  else if indent.isPrefixOf line then line.drop indent.length
  else line

/-- A line with spaces in the place of the tabs that it begins with. -/
def expandTabs (width : Nat) (line : List Char) : List Char :=
  let tabs := line.takeWhile (· == '\t')
  List.replicate (tabs.length * width) ' ' ++ line.drop tabs.length

/-- The text of a node as if its first line stood at the left margin. -/
def serialize (settings : TransformSettings) (source : Source) (node : Node) : List Char :=
  match lines (source.nodeText node) with
  | [] => []
  | first :: rest =>
    let indent := source.lineIndent node.start.row
    unlines ((first :: rest.map (dedent indent)).map (expandTabs settings.indentWidth))

/-! ## Functions -/

/-- The name of a parameter; one that is taken apart by a pattern has a name for all such. -/
def parameterName (source : Source) (parameter : Node) : List Char :=
  if parameter.kind = .identifier then source.nodeText parameter
  else
    match parameter.child? "pattern" with
    | some pattern => if pattern.kind = .identifier then source.nodeText pattern else unnamed
    | none => unnamed
where
  unnamed := "param".toList

/-- The names of the parameters of a function, with or without parentheses around them. -/
def parameterNames (source : Source) (function : Node) : List (List Char) :=
  match function.child? "parameter" with
  | some parameter => [parameterName source parameter]
  | none =>
    match function.child? "parameters" with
    | some parameters => parameters.elements.map (parameterName source)
    | none => []

/-- The body of a function as a block; an expression becomes the value that the block returns. -/
def functionBody (settings : TransformSettings) (source : Source) (function : Node) :
    List Char :=
  match function.child? "body" with
  | none => "\x7b\x7d".toList
  | some body =>
    let text := serialize settings source body
    if body.kind = .statementBlock then text
    else "\x7b return ".toList ++ text ++ "; \x7d".toList

/-- Whether a function is asynchronous. -/
def isAsync (function : Node) : Bool :=
  function.children.any (·.type == "async")

/-- A function that is a value, as a declaration with a name. -/
def renderFunction (settings : TransformSettings) (source : Source) (name : List Char)
    (function : Node) (async : Bool) : List Char :=
  let keyword := if async then "async function " else "function "
  let parameters := [',', ' '].intercalate (parameterNames source function)
  clean settings (keyword.toList ++ name ++ '(' :: parameters ++ ')' :: ' ' ::
    functionBody settings source function)

/-- A declaration as it is. -/
def renderDeclaration (settings : TransformSettings) (source : Source) (declaration : Node) :
    List Char :=
  clean settings (serialize settings source declaration)

/-! ## Effects -/

/-- What an effect runs: the body of its function, or whatever else it is given. -/
def renderEffect (settings : TransformSettings) (source : Source) (callback : Node) :
    List Char :=
  let code := if callback.kind.isFunctionValue then (callback.child? "body").getD callback else callback
  clean settings (serialize settings source code)

end PageGraft.Component
