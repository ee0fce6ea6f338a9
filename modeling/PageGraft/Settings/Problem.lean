/-!
# Problems with settings

What can be wrong with a value given for a setting, where it stands, and how it is worded.
-/

namespace PageGraft.Settings

/-- One step on the way to a value: a key or an index. -/
inductive Step where
  | key (name : String)
  | index (position : Int)
deriving Repr, DecidableEq

/-- What is wrong with a value; a fault of another kind is told by its short name and in words. -/
inductive Fault where
  | notModel (model : String)
  | unknownKey
  | keyNotText
  | notText
  | textTooShort
  | notInteger
  | fractional
  | notFinite
  | integerTooLong
  | integerText
  | notGreater (bound : Int)
  | notAtLeast (bound : Int)
  | notAtMost (bound : Int)
  | notBoolean
  | booleanText
  | notPath
  | notSet
  | notTuple
  | notIdentifier (name : String)
  | told (word message : String)
deriving Repr, DecidableEq

namespace Fault

/-- The short name of the fault. -/
def word : Fault → String
  | notModel _ => "model_type"
  | unknownKey => "extra_forbidden"
  | keyNotText => "invalid_key"
  | notText => "string_type"
  | textTooShort => "string_too_short"
  | notInteger => "int_type"
  | fractional => "int_from_float"
  | notFinite => "finite_number"
  | integerTooLong => "int_parsing_size"
  | integerText => "int_parsing"
  | notGreater _ => "greater_than"
  | notAtLeast _ => "greater_than_equal"
  | notAtMost _ => "less_than_equal"
  | notBoolean => "bool_type"
  | booleanText => "bool_parsing"
  | notPath => "path_type"
  | notSet => "frozen_set_type"
  | notTuple => "tuple_type"
  | notIdentifier _ => "value_error"
  | told word _ => word

def message : Fault → String
  | notModel model => s!"Input should be a valid dictionary or instance of {model}"
  | unknownKey => "Extra inputs are not permitted"
  | keyNotText => "Keys should be strings"
  | notText => "Input should be a valid string"
  | textTooShort => "String should have at least 1 character"
  | notInteger => "Input should be a valid integer"
  | fractional => "Input should be a valid integer, got a number with a fractional part"
  | notFinite => "Input should be a finite number"
  | integerTooLong => "Unable to parse input string as an integer, exceeded maximum size"
  | integerText => "Input should be a valid integer, unable to parse string as an integer"
  | notGreater bound => s!"Input should be greater than {bound}"
  | notAtLeast bound => s!"Input should be greater than or equal to {bound}"
  | notAtMost bound => s!"Input should be less than or equal to {bound}"
  | notBoolean => "Input should be a valid boolean"
  | booleanText => "Input should be a valid boolean, unable to interpret input"
  | notPath => "Input is not a valid path for <class 'pathlib.Path'>"
  | notSet => "Input should be a valid frozenset"
  | notTuple => "Input should be a valid tuple"
  | notIdentifier name => s!"Value error, '{name}' is not a valid JavaScript identifier"
  | told _ message => message

end Fault

/-- A fault and the place of the value that has it. -/
structure Problem where
  location : List Step
  fault : Fault
deriving Repr, DecidableEq

/-- Puts a problem under a step. -/
def Problem.under (step : Step) (problem : Problem) : Problem :=
  { problem with location := step :: problem.location }

end PageGraft.Settings
