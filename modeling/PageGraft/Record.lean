/-!
# Records

What is found in a component and rendered for the page: functions, state variables and effects, and
the counts that a patch of the page reports.
-/

namespace PageGraft

/-- How a function stood in the component. -/
inductive FunctionKind where
  | plain
  | arrow
  | hook
deriving Repr, DecidableEq

def FunctionKind.word : FunctionKind → String
  | .plain => "plain_function"
  | .arrow => "arrow_converted_function"
  | .hook => "hook_derived_async_function"

/-- A function rendered as a declaration. -/
structure FunctionRecord where
  name : String
  text : String
  kind : FunctionKind := .plain
  parameters : List String := []
deriving Repr, DecidableEq

/-- A state variable, its setter and the literal of its initial value. -/
structure StateRecord where
  reader : String
  writer : String
  initialValue : String
  text : String := ""
deriving Repr, DecidableEq

/-- A state variable and its setter as plain declarations. -/
def stateDeclarations (reader writer initialValue : String) : String :=
  s!"let {reader} = {initialValue};\nfunction {writer}(newValue) " ++
    "\x7b " ++ s!"{reader} = newValue; " ++ "\x7d"

/-- The body of an effect and the names it depends on. -/
structure EffectRecord where
  text : String
  dependencies : List String := []
deriving Repr, DecidableEq

/-- The only kind of logic that a component registers. -/
def EffectRecord.kind (_record : EffectRecord) : String := "effect"

/-- All that is found in one component, in document order. No two functions have one name. -/
structure Extraction where
  functions : List FunctionRecord := []
  state : List StateRecord := []
  effects : List EffectRecord := []
  warnings : List String := []
deriving Repr, DecidableEq

/-- Stores a function under its name. A function stored before under the same name is replaced where
it stands. -/
def storeFunction (functions : List FunctionRecord) (record : FunctionRecord) :
    List FunctionRecord :=
  match functions with
  | [] => [record]
  | first :: rest =>
    if first.name = record.name then record :: rest else first :: storeFunction rest record

/-- What a patch of the page has done. -/
structure PatchOutcome where
  updated : Nat := 0
  skipped : Nat := 0
  warnings : List String := []
deriving Repr, DecidableEq

end PageGraft
