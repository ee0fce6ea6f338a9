/-!
# Environments

The variables that a run of the program sees.
-/

namespace PageGraft

/-- Variables with their values; the first value of a name counts. -/
structure Environment where
  values : List (String × String) := []
deriving Repr, DecidableEq

namespace Environment

def get? (environment : Environment) (name : String) : Option String :=
  environment.values.lookup name

/-- The value of a variable, empty if it is not set. -/
def get (environment : Environment) (name : String) : String :=
  (environment.get? name).getD ""

/-- Adds variables; those that are set keep their value. -/
def withDefaults (environment : Environment) (defaults : List (String × String)) : Environment :=
  { values := environment.values ++ defaults }

@[simp]
theorem get?_withDefaults (environment : Environment) (defaults : List (String × String))
    (name : String) (value : String) (hset : environment.get? name = some value) :
    (environment.withDefaults defaults).get? name = some value := by
  simp only [get?, withDefaults] at *
  rw [List.lookup_append, hset]
  rfl

/-- Names a file with settings. -/
def settingsVariable : String := "PAGE_SYNC_CONFIG"

/-- The level of the log. -/
def logLevelVariable : String := "PAGE_SYNC_LOG_LEVEL"

/-- Names a file that sets up the log. -/
def logSettingsVariable : String := "PAGE_SYNC_LOG_CONFIG"

end Environment

end PageGraft
