/-!
# Settings

What a run can be told: which names it looks for in a component, which substitutions turn its code
into plain script, where the page is changed, and the two files. Sets of names are kept as lists in
rising order without repetition.
-/

namespace PageGraft.Settings

/-- The names that are looked for in a component. -/
structure ExtractorSettings where
  targetFunctions : List String :=
    ["fetchEmployeeData", "getEmploymentStatus", "isManager", "loadData", "organizeEmployeeData"]
  stateHook : String := "useState"
  effectHook : String := "useEffect"
  callbackHook : String := "useCallback"
deriving Repr, DecidableEq

/-- The substitutions applied to generated code. Calls named in `preservedCalls` look like state
setters and are not. -/
structure TransformSettings where
  envLookup : String := "process.env.NODE_ENV"
  envReplacement : String := "(window.NODE_ENV || \"production\")"
  fetchCallee : String := "axios.get"
  fallbackIdentifier : String := "fallbackData"
  fallbackAccessor : String := "getFallbackData()"
  preservedCalls : List String := ["setImmediate", "setInterval", "setTimeout"]
  indentWidth : Nat := 4
deriving Repr, DecidableEq

/-- The anchors in the page, and how the end of a function is found. -/
structure PatcherSettings where
  insertionMarker : String := "</script>"
  insertionIndent : Nat := 8
  stateRegionComment : String := "Global state"
  regionTerminators : List String := ["//", "function", "async", "document"]
  balancedMatching : Bool := true
deriving Repr, DecidableEq

/-- All settings of a run. Paths are in their normal form. -/
structure SyncSettings where
  sourcePath : String := "src/app/page.js"
  targetPath : String := "index.html"
  extractor : ExtractorSettings := {}
  transform : TransformSettings := {}
  patcher : PatcherSettings := {}
deriving Repr, DecidableEq

end PageGraft.Settings
