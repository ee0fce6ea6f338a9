import PageGraft.Component.InitialValue
import PageGraft.Component.Rendering
import PageGraft.Event
import PageGraft.Log.Entry
import PageGraft.Record
import PageGraft.Syntax.Program

/-!
# Extraction

Finds what the page needs in the tree of a component: the functions asked for, the state variables
and the effects. The tree is visited once, in document order, and each node adds to the findings by
itself.
-/

namespace PageGraft.Component

open PageGraft.Settings PageGraft.Syntax

/-! ## Calls and declarators -/

/-- The arguments of a call. -/
def arguments (call : Node) : List Node :=
  ((call.child? "arguments").map Node.elements).getD []

/-- The name of what is called, if it is a plain name. -/
def callee? (source : Source) (call : Node) : Option String :=
  match call.child? "function" with
  | some callee =>
    if callee.kind = .identifier then some (String.ofList (source.nodeText callee)) else none
  | none => none

/-- The name that a declarator binds, if it binds a single one. -/
def binding? (source : Source) (declarator : Node) : Option String :=
  match declarator.child? "name" with
  | some name =>
    if name.kind = .identifier then some (String.ofList (source.nodeText name)) else none
  | none => none

/-- The nearest declarator around a node, given the nodes around it from the inside out. -/
def declarator? (ancestors : List Node) : Option Node :=
  ancestors.find? (·.kind == .variableDeclarator)

/-! ## Findings -/

/-- What has been found so far, the confirmations of it, and the log. -/
structure Findings where
  extraction : Extraction := {}
  events : List Event := []
  log : List Log.Entry := []
deriving Repr, DecidableEq

namespace Findings

def debug (findings : Findings) (message : String) : Findings :=
  { findings with log := findings.log ++ [⟨.debug, .extractor, message⟩] }

def emit (findings : Findings) (kind : EventKind) (name : String) : Findings :=
  { findings with events := findings.events ++ [⟨kind, name⟩] }

def warn (findings : Findings) (warning : String) : Findings :=
  { findings with
    extraction :=
      { findings.extraction with warnings := findings.extraction.warnings ++ [warning] } }

/-- Adds a function, in the place of an earlier one of the same name. -/
def addFunction (findings : Findings) (event : EventKind) (record : FunctionRecord) : Findings :=
  let repeated := findings.extraction.functions.any (·.name == record.name)
  let findings :=
    if repeated then findings.debug s!"Replacing earlier definition of {record.name}"
    else findings
  { findings with
    extraction :=
      { findings.extraction with
        functions := storeFunction findings.extraction.functions record } }.emit event record.name

def addState (findings : Findings) (record : StateRecord) : Findings :=
  { findings with
    extraction :=
      { findings.extraction with state := findings.extraction.state ++ [record] } }.emit
    .stateExtracted record.reader

def addEffect (findings : Findings) (hook : String) (record : EffectRecord) : Findings :=
  { findings with
    extraction :=
      { findings.extraction with effects := findings.extraction.effects ++ [record] } }.emit
    .effectExtracted hook

end Findings

/-! ## Nodes -/

/-- What an extraction works with. -/
structure Scope where
  extractor : ExtractorSettings
  transform : TransformSettings
  source : Source

namespace Scope

/-- Whether a function of this name is asked for. -/
def isTarget (scope : Scope) (name : String) : Bool :=
  scope.extractor.targetFunctions.contains name

/-- The record of a function node under a name. -/
def functionRecord (scope : Scope) (name : String) (function : Node) (kind : FunctionKind) :
    FunctionRecord where
  name
  text := String.ofList <|
    match kind with
    | .plain => renderDeclaration scope.transform scope.source function
    | .arrow =>
      renderFunction scope.transform scope.source name.toList function (isAsync function)
    | .hook => renderFunction scope.transform scope.source name.toList function true
  kind
  parameters := (parameterNames scope.source function).map String.ofList

/-- A declared function is found if it is asked for. -/
def visitDeclaration (scope : Scope) (findings : Findings) (declaration : Node) : Findings :=
  match declaration.child? "name" with
  | none => findings
  | some node =>
    let name := String.ofList (scope.source.nodeText node)
    if scope.isTarget name then
      findings.addFunction .functionExtracted (scope.functionRecord name declaration .plain)
    else findings

/-- The record of a state variable, if a declarator takes the state hook apart into a reader and a
writer and gives it exactly one initial value. -/
def stateRecord? (scope : Scope) (declarator call : Node) : Option StateRecord := do
  let pattern ← declarator.child? "name"
  guard (pattern.kind = .arrayPattern)
  let [value] := arguments call | none
  let [reader, writer] := pattern.elements | none
  guard (reader.kind = .identifier && writer.kind = .identifier)
  let readerName := String.ofList (scope.source.nodeText reader)
  let writerName := String.ofList (scope.source.nodeText writer)
  let literal := String.ofList (initialValue scope.source value)
  return ⟨readerName, writerName, literal, stateDeclarations readerName writerName literal⟩

/-- A variable is found if it holds a function asked for, or is a state variable. -/
def visitDeclarator (scope : Scope) (findings : Findings) (declarator : Node) : Findings :=
  match declarator.child? "value" with
  | none => findings
  | some value =>
    if value.kind.isFunctionValue then
      match binding? scope.source declarator with
      | some name =>
        if scope.isTarget name then
          findings.addFunction .arrowFunctionExtracted (scope.functionRecord name value .arrow)
        else findings
      | none => findings
    else if value.kind = .callExpression &&
        callee? scope.source value == some scope.extractor.stateHook then
      match scope.stateRecord? declarator value with
      | some record => findings.addState record
      | none => findings
    else findings

/-- An effect is found with what it runs and, if there is a second argument, what it depends on. -/
def visitEffect (scope : Scope) (findings : Findings) (call : Node) : Findings :=
  match arguments call with
  | [] => findings
  | callback :: rest =>
    findings.addEffect scope.extractor.effectHook
      { text := String.ofList (renderEffect scope.transform scope.source callback)
        dependencies :=
          ((rest.head?.map (dependencies scope.source)).getD []).map String.ofList }

/-- A callback is found if the declarator around it binds a name that is asked for. Without a function
there is only a warning. -/
def visitCallback (scope : Scope) (findings : Findings) (call : Node) (ancestors : List Node) :
    Findings :=
  match (declarator? ancestors).bind (binding? scope.source) with
  | none => findings
  | some name =>
    if scope.isTarget name then
      match (arguments call).head?.filter (·.kind.isFunctionValue) with
      | some callback =>
        findings.addFunction .callbackExtracted (scope.functionRecord name callback .hook)
      | none =>
        findings.warn
          (s!"{scope.extractor.callbackHook} for {name} at line {call.start.row + 1} " ++
            "has no function argument")
    else findings

/-- A call of a hook that is called both ways counts as a callback. -/
def visitCall (scope : Scope) (findings : Findings) (call : Node) (ancestors : List Node) :
    Findings :=
  match callee? scope.source call with
  | none => findings
  | some name =>
    if name = scope.extractor.callbackHook then scope.visitCallback findings call ancestors
    else if name = scope.extractor.effectHook then scope.visitEffect findings call
    else findings

/-- What one node adds to the findings. -/
def visit (scope : Scope) (findings : Findings) : Node × List Node → Findings
  | (node, ancestors) =>
    match node.kind with
    | .functionDeclaration => scope.visitDeclaration findings node
    | .variableDeclarator => scope.visitDeclarator findings node
    | .callExpression => scope.visitCall findings node ancestors
    | _ => findings

/-- Visits every node of a tree once. -/
def collect (scope : Scope) (root : Node) : Findings :=
  (root.preorder []).foldl scope.visit {}

end Scope

/-- Everything that the page needs of the tree of a source. -/
def extractTree (extractor : ExtractorSettings) (transform : TransformSettings) (source : Source)
    (root : Node) : Findings :=
  let findings := Scope.collect ⟨extractor, transform, source⟩ root
  let found := findings.extraction
  findings.debug
    (s!"Extracted {found.functions.length} functions, {found.state.length} state variables, " ++
      s!"{found.effects.length} effects")

/-- Everything that the page needs of a source, whose tree a parser makes. -/
def extractWith (parser : Parser) (extractor : ExtractorSettings) (transform : TransformSettings)
    (source : Source) : Except ParseError Findings :=
  (parser source).map (extractTree extractor transform source)

/-- Everything that the page needs of a source. -/
def extract (extractor : ExtractorSettings) (transform : TransformSettings) (source : Source) :
    Except ParseError Findings :=
  extractWith parse extractor transform source

end PageGraft.Component
