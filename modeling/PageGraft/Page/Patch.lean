import PageGraft.Event
import PageGraft.Log.Entry
import PageGraft.Page.StateVariable
import PageGraft.Record
import PageGraft.Script.Cleaning

/-!
# Patching a page

Applies what was found in a component to the text of a page, one record after the other: functions
are replaced where they are declared or inserted before the marker, state variables get a new
initial value or a line in the state region. A record that has no place is skipped with a warning;
nothing fails.
-/

namespace PageGraft.Page

open PageGraft.Text PageGraft.Script PageGraft.Settings

/-- A page in the course of a patch, and what was done to it so far. -/
structure Patch where
  text : List Char
  outcome : PatchOutcome := {}
  events : List Event := []
  log : List Log.Entry := []
deriving Repr, DecidableEq

namespace Patch

def debug (patch : Patch) (message : String) : Patch :=
  { patch with log := patch.log ++ [⟨.debug, .patcher, message⟩] }

/-- Records that there was no place for a record. -/
def skip (patch : Patch) (warning : String) : Patch :=
  { patch.debug s!"Skipped: {warning}" with
    outcome :=
      { patch.outcome with
        skipped := patch.outcome.skipped + 1
        warnings := patch.outcome.warnings ++ [warning] } }

/-- Puts a piece in the place of the characters from one index to another, and records the
update. -/
def splice (patch : Patch) (start stop : Nat) (piece : List Char) (event : Event) : Patch :=
  { patch with
    text := patch.text.take start ++ piece ++ patch.text.drop stop
    outcome := { patch.outcome with updated := patch.outcome.updated + 1 }
    events := patch.events ++ [event] }

/-- The text of a function as it goes into the page. -/
def functionCode (record : FunctionRecord) : List Char :=
  trim (removeUndefined record.text.toList)

/-- The index at which a new function goes in: before the line of the last marker if only white
space stands in front of the marker, else right before the marker. -/
def insertionIndex (text marker : List Char) : Option Nat :=
  (lastDistanceTo marker text).map fun index =>
    let start := lineStart text index
    if isBlankLine ((text.take index).drop start) then start else index

/-- Brings a function into the page. A declaration in the page keeps the indentation of its header;
the lines after it get the same. -/
def updateFunction (settings : PatcherSettings) (patch : Patch) (record : FunctionRecord) :
    Patch :=
  let code := functionCode record
  match findFunction settings.balancedMatching patch.text record.name.toList with
  | some span =>
    let patch := patch.debug s!"Matched {record.name} with the {span.bodyEnd.word} strategy"
    patch.splice span.start span.stop ((indentLines span.indent code).drop span.indent.length)
      ⟨.functionUpdated, record.name⟩
  | none =>
    match insertionIndex patch.text settings.insertionMarker.toList with
    | some index =>
      let indent := List.replicate settings.insertionIndent ' '
      patch.splice index index ('\n' :: indentLines indent code ++ ['\n', '\n'])
        ⟨.functionInserted, record.name⟩
    | none => patch.skip s!"Could not find insertion point for function: {record.name}"

/-- Brings a state variable into the page. Only the initial value of a declaration in the page
changes. -/
def updateState (settings : PatcherSettings) (patch : Patch) (record : StateRecord) : Patch :=
  match findInitialValue patch.text record.reader.toList with
  | some (start, stop) =>
    patch.splice start stop record.initialValue.toList ⟨.stateUpdated, record.reader⟩
  | none =>
    match findStateRegion settings patch.text with
    | some (start, stop) =>
      let line := s!"let {record.reader} = {record.initialValue}; // {record.writer}"
      patch.splice stop stop ('\n' :: indentAt patch.text start ++ line.toList)
        ⟨.stateInserted, record.reader⟩
    | none => patch.skip s!"Could not update state variable: {record.reader}"

/-- Effects are reported and change nothing. -/
def noteEffects (patch : Patch) (effects : List EffectRecord) : Patch :=
  if effects.isEmpty then patch
  else
    patch.debug
      s!"{effects.length} effect blocks extracted; effects are reported, not patched"

end Patch

/-- Applies functions, then state variables, to a page. -/
def patch (settings : PatcherSettings) (text : List Char) (extraction : Extraction) : Patch :=
  let patched := extraction.functions.foldl (Patch.updateFunction settings) { text }
  let patched := extraction.state.foldl (Patch.updateState settings) patched
  patched.noteEffects extraction.effects

end PageGraft.Page
