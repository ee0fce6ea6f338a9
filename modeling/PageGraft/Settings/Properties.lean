import PageGraft.Data.Display
import PageGraft.Settings.Basic
import PageGraft.Settings.Field

/-!
# Settings from properties

Reads whole settings from a mapping of properties. A setting that is not given keeps its default, a
key that names no setting is a problem, and all problems are reported: first those of the settings in
their order, then the unknown keys in the order of the mapping.
-/

namespace PageGraft.Settings

open PageGraft.Data

/-- Applies what one reading makes to what another makes, and collects the problems of both. -/
def also {α β : Type} (argument : Reading α) (function : Reading (α → β)) : Reading β :=
  match function, argument with
  | .ok function, .ok argument => .ok (function argument)
  | .ok _, .error problems => .error problems
  | .error problems, .ok _ => .error problems
  | .error problems, .error others => .error (problems ++ others)

/-- Reads the setting of a name, or takes its default if it is not given. -/
def readField {α : Type} (entries : List (Value × Value)) (name : String) (default : α)
    (read : Value → Reading α) : Reading α :=
  match Value.get? entries name with
  | none => .ok default
  | some value => (read value).mapError (·.map (·.under (.key name)))

/-- The step to a key. An integer of a machine word counts as an index. -/
def stepOfKey : Value → Step
  | .text name => .key name
  | .integer position =>
    if isWord position then .index position else .key (toString position)
  | .boolean value => .index (if value then 1 else 0)
  | key => .key key.quoted

/-- Every key that names no setting is a problem. -/
def checkKeys (names : List String) (entries : List (Value × Value)) : Reading Unit :=
  let problems := entries.filterMap fun (key, _) =>
    match key with
    | .text name => if names.contains name then none else some ⟨[.key name], .unknownKey⟩
    | _ => some ⟨[stepOfKey key], .keyNotText⟩
  if problems.isEmpty then .ok () else .error problems

/-- Reads settings from a mapping, given how its entries are read. -/
def readModel {α : Type} (model : String) (names : List String)
    (read : List (Value × Value) → Reading α) (properties : Value) : Reading α :=
  match properties.opened with
  | .mapping entries =>
    (read entries).map (fun settings _ => settings) |> also (checkKeys names entries)
  | _ => .fail (.notModel model)

def readExtractor : Value → Reading ExtractorSettings :=
  let default : ExtractorSettings := {}
  readModel "ExtractorConfig" ["target_functions", "state_hook", "effect_hook", "callback_hook"]
    fun entries =>
      Except.ok ExtractorSettings.mk
        |> also (readField entries "target_functions" default.targetFunctions readIdentifiers)
        |> also (readField entries "state_hook" default.stateHook readIdentifier)
        |> also (readField entries "effect_hook" default.effectHook readIdentifier)
        |> also (readField entries "callback_hook" default.callbackHook readIdentifier)

def readTransform : Value → Reading TransformSettings :=
  let default : TransformSettings := {}
  readModel "TransformConfig"
    ["env_lookup", "env_replacement", "fetch_callee", "fallback_identifier", "fallback_accessor",
      "preserved_calls", "indent_width"]
    fun entries =>
      Except.ok TransformSettings.mk
        |> also (readField entries "env_lookup" default.envLookup readText)
        |> also (readField entries "env_replacement" default.envReplacement readText)
        |> also (readField entries "fetch_callee" default.fetchCallee readText)
        |> also (readField entries "fallback_identifier" default.fallbackIdentifier readText)
        |> also (readField entries "fallback_accessor" default.fallbackAccessor readText)
        |> also (readField entries "preserved_calls" default.preservedCalls readNames)
        |> also (readField entries "indent_width" default.indentWidth (readWidth 16))

def readPatcher : Value → Reading PatcherSettings :=
  let default : PatcherSettings := {}
  readModel "PatcherConfig"
    ["insertion_marker", "insertion_indent", "state_region_comment", "region_terminators",
      "balanced_matching"]
    fun entries =>
      Except.ok PatcherSettings.mk
        |> also (readField entries "insertion_marker" default.insertionMarker readNonemptyText)
        |> also (readField entries "insertion_indent" default.insertionIndent readCount)
        |> also (readField entries "state_region_comment" default.stateRegionComment
          readNonemptyText)
        |> also (readField entries "region_terminators" default.regionTerminators readTexts)
        |> also (readField entries "balanced_matching" default.balancedMatching readBoolean)

def readSync : Value → Reading SyncSettings :=
  let default : SyncSettings := {}
  readModel "SyncConfig" ["source_path", "target_path", "extractor", "transform", "patcher"]
    fun entries =>
      Except.ok SyncSettings.mk
        |> also (readField entries "source_path" default.sourcePath readPath)
        |> also (readField entries "target_path" default.targetPath readPath)
        |> also (readField entries "extractor" default.extractor readExtractor)
        |> also (readField entries "transform" default.transform readTransform)
        |> also (readField entries "patcher" default.patcher readPatcher)

/-- Why settings are not usable. The reason why a text is no YAML is not kept. -/
inductive Error where
  | invalid (model : String) (problems : List Problem)
  | unparsable (path : String)
  | unreadable (path reason : String)
  | notMapping (path : String)
deriving Repr, DecidableEq

def Error.message : Error → String
  | .invalid model problems =>
    let count := problems.length
    let errors := if count = 1 then "error" else "errors"
    s!"Invalid {model} configuration: {count} validation {errors} for {model}"
  | .unparsable path => s!"Failed to parse YAML config {path}"
  | .unreadable path reason => s!"Failed to read config file {path}: {reason}"
  | .notMapping path => s!"Invalid configuration format in {path}"

/-- The problems in the single settings. -/
def Error.problems : Error → List Problem
  | .invalid _ problems => problems
  | _ => []

/-- Names the settings that could not be read. -/
def Reading.orInvalid {α : Type} (model : String) (reading : Reading α) : Except Error α :=
  reading.mapError (.invalid model)

def extractorOfProperties (properties : Value) : Except Error ExtractorSettings :=
  (readExtractor properties).orInvalid "ExtractorConfig"

def transformOfProperties (properties : Value) : Except Error TransformSettings :=
  (readTransform properties).orInvalid "TransformConfig"

def patcherOfProperties (properties : Value) : Except Error PatcherSettings :=
  (readPatcher properties).orInvalid "PatcherConfig"

def syncOfProperties (properties : Value) : Except Error SyncSettings :=
  (readSync properties).orInvalid "SyncConfig"

end PageGraft.Settings
