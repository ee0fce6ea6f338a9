/-!
# Levels

The weights of log entries and their names.
-/

namespace PageGraft.Log

/-- The weight of an entry; heavier entries are more urgent. -/
abbrev Level := Int

namespace Level

def notSet : Level := 0
def debug : Level := 10
def info : Level := 20
def warning : Level := 30
def error : Level := 40
def critical : Level := 50

/-- The word for a level, or its number if it has none. -/
def name (level : Level) : String :=
  if level = critical then "CRITICAL"
  else if level = error then "ERROR"
  else if level = warning then "WARNING"
  else if level = info then "INFO"
  else if level = debug then "DEBUG"
  else if level = notSet then "NOTSET"
  else "Level " ++ toString level

/-- The level of a name; two levels have two names. -/
def ofName? (name : String) : Option Level :=
  [("CRITICAL", critical), ("FATAL", critical), ("ERROR", error), ("WARNING", warning),
    ("WARN", warning), ("INFO", info), ("DEBUG", debug), ("NOTSET", notSet)].lookup name

/-- The capital of a letter that can occur in the name of a level. Two letters beyond ASCII have
such a capital. -/
def capital (character : Char) : Char :=
  if character = 'ı' then 'I'
  else if character = 'ſ' then 'S'
  else character.toUpper

def capitals (word : String) : String :=
  String.ofList (word.toList.map capital)

/-- The level of a name in letters of any case. -/
def ofWord? (word : String) : Option Level :=
  ofName? (capitals word)

end Level

/-- The level that lets entries through: those that are at least as heavy. A truth value can stand for
a level, and is then shown by its own name. -/
structure Threshold where
  level : Level := Level.notSet
  isTruth : Bool := false
deriving Repr, DecidableEq

namespace Threshold

def ofTruth (value : Bool) : Threshold :=
  if value then ⟨1, true⟩ else ⟨0, false⟩

def isSet (threshold : Threshold) : Bool :=
  threshold.level ≠ Level.notSet

/-- Whether an entry of a level is let through. -/
def admits (threshold : Threshold) (level : Level) : Bool :=
  threshold.level ≤ level

def name (threshold : Threshold) : String :=
  if threshold.isTruth then "Level True" else threshold.level.name

end Threshold

end PageGraft.Log
