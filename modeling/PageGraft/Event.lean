/-!
# Events

Confirmations of what was found in a component and of what was changed in a page, in the order in
which it happened.
-/

namespace PageGraft

inductive EventKind where
  | functionExtracted
  | arrowFunctionExtracted
  | callbackExtracted
  | stateExtracted
  | effectExtracted
  | functionUpdated
  | functionInserted
  | stateUpdated
  | stateInserted
deriving Repr, DecidableEq

namespace EventKind

def all : List EventKind :=
  [functionExtracted, arrowFunctionExtracted, callbackExtracted, stateExtracted, effectExtracted,
    functionUpdated, functionInserted, stateUpdated, stateInserted]

/-- The word that stands for a kind of event. -/
def word : EventKind → String
  | functionExtracted => "function_extracted"
  | arrowFunctionExtracted => "arrow_function_extracted"
  | callbackExtracted => "callback_extracted"
  | stateExtracted => "state_extracted"
  | effectExtracted => "effect_extracted"
  | functionUpdated => "function_updated"
  | functionInserted => "function_inserted"
  | stateUpdated => "state_updated"
  | stateInserted => "state_inserted"

def ofWord? (word : String) : Option EventKind :=
  all.find? (·.word = word)

@[simp]
theorem ofWord?_word (kind : EventKind) : ofWord? kind.word = some kind := by
  cases kind <;> rfl

end EventKind

structure Event where
  kind : EventKind
  name : String
deriving Repr, DecidableEq

/-- One line that confirms the event. -/
def Event.message (event : Event) : String :=
  match event.kind with
  | .functionExtracted => s!"Extracted function: {event.name}"
  | .arrowFunctionExtracted => s!"Extracted arrow function: {event.name}"
  | .callbackExtracted => s!"Extracted callback: {event.name}"
  | .stateExtracted => s!"Extracted state: {event.name}"
  | .effectExtracted => s!"Extracted {event.name} logic"
  | .functionUpdated => s!"Updated function: {event.name}"
  | .functionInserted => s!"Inserted new function: {event.name}"
  | .stateUpdated => s!"Updated state variable: {event.name}"
  | .stateInserted => s!"Inserted state variable: {event.name}"

/-- Events collected since the last time they were shown, oldest first. -/
structure EventLog where
  events : List Event := []
deriving Repr, DecidableEq

namespace EventLog

def emit (log : EventLog) (event : Event) : EventLog :=
  { log with events := log.events ++ [event] }

/-- The texts that confirm the collected events, and the log without them. -/
def drain (log : EventLog) : List String × EventLog :=
  (log.events.map fun event => "✓ " ++ event.message, {})

@[simp]
theorem events_emit (log : EventLog) (event : Event) :
    (log.emit event).events = log.events ++ [event] := rfl

@[simp]
theorem events_drain (log : EventLog) : log.drain.2.events = [] := rfl

end EventLog

end PageGraft
