import PageGraft.Data.Moment

/-!
# Plain data

The values that a settings file or a property object can hold. Mappings keep the order in which they
were written. A collection may contain itself: its label then stands in place of the collection
within it.
-/

namespace PageGraft.Data

/-- Plain data. A `tuple` is a list of a fixed length, such as an entry of a list that is read as a
mapping; `set` is a mapping without values, and `bytes` are given by their numbers. `knot` is a collection that contains itself, and
`again` stands for the collection of a label around it. -/
inductive Value where
  | null
  | boolean (value : Bool)
  | integer (value : Int)
  | number (value : Float)
  | text (value : String)
  | bytes (value : List Nat)
  | moment (value : Moment)
  | list (items : List Value)
  | tuple (items : List Value)
  | set (items : List Value)
  | mapping (entries : List (Value × Value))
  | knot (label : Nat) (content : Value)
  | again (label : Nat)
deriving Inhabited, Repr

namespace Value

/-! ## Keys -/

/-- Keys are compared by what they are, numbers by their value; a key that is not a scalar equals no
key. -/
def sameKey : Value → Value → Bool
  | null, null => true
  | boolean left, boolean right => left == right
  | integer left, integer right => left == right
  | number left, number right => left == right || (left.isNaN && right.isNaN)
  | boolean left, integer right => (if left then 1 else 0) == right
  | integer left, boolean right => left == (if right then 1 else 0)
  | number left, integer right => sameNumber left right
  | integer left, number right => sameNumber right left
  | number left, boolean right => left == (if right then 1 else 0)
  | boolean left, number right => (if left then 1 else 0) == right
  | text left, text right => left == right
  | bytes left, bytes right => left == right
  | moment left, moment right => left == right
  | _, _ => false
where
  /-- Whether a number has the value of an integer. -/
  sameNumber (number : Float) (integer : Int) : Bool :=
    number == Float.ofInt integer && integer.natAbs ≤ Nat.pow 2 53

/-- The value of a text key. -/
def get? (entries : List (Value × Value)) (key : String) : Option Value :=
  (entries.find? fun (entryKey, _) => sameKey entryKey (.text key)).map (·.2)

/-- Sets the value of a key: in its place if the key is there, else at the end. -/
def put (entries : List (Value × Value)) (key value : Value) : List (Value × Value) :=
  match entries with
  | [] => [(key, value)]
  | (firstKey, firstValue) :: rest =>
    if sameKey firstKey key then (firstKey, value) :: rest
    else (firstKey, firstValue) :: put rest key value

/-! ## Collections that contain themselves -/

mutual

/-- Puts a value in the place of a label. -/
def substitute (label : Nat) (whole : Value) : Value → Value
  | again other => if other = label then whole else again other
  | list items => list (substituteAll label whole items)
  | tuple items => tuple (substituteAll label whole items)
  | set items => set (substituteAll label whole items)
  | mapping entries => mapping (substituteEntries label whole entries)
  | knot other content => knot other (substitute label whole content)
  | value => value

def substituteAll (label : Nat) (whole : Value) : List Value → List Value
  | [] => []
  | value :: rest => substitute label whole value :: substituteAll label whole rest

def substituteEntries (label : Nat) (whole : Value) :
    List (Value × Value) → List (Value × Value)
  | [] => []
  | (key, value) :: rest =>
    (substitute label whole key, substitute label whole value) ::
      substituteEntries label whole rest

end

/-- A collection with its items in sight, also if it contains itself. -/
def opened : Value → Value
  | knot label content => substitute label (knot label content) content
  | value => value

end Value

end PageGraft.Data
