import PageGraft.Syntax.Construct
import PageGraft.Syntax.Token

/-!
# Rules

A rule says what a construct consists of. Beside sequence, choice and repetition it says how tightly
the parts are bound, which roles they play, and which of two readings weighs more where a text can be
read in two ways.
-/

namespace PageGraft.Syntax

/-- How tightly parts are bound: by a number, or by a class that the grammar compares with others. -/
inductive Rank where
  | level (number : Int)
  | strength (strength : Strength)
deriving DecidableEq, Ord, Repr

/-- To which side operators that bind equally tightly are grouped. -/
inductive Side where
  | left
  | right
deriving DecidableEq, Ord, Repr

/-- What a construct consists of. -/
inductive Rule where
  | nothing
  | token (token : Token)
  | construct (construct : Construct)
  | both (first second : Rule)
  | either (first second : Rule)
  | repeated (body : Rule)
  | bound (rank : Rank) (side : Option Side) (body : Rule)
  | weighted (weight : Int) (body : Rule)
  | renamed (newName : Alias) (body : Rule)
  | role (role : Role) (body : Rule)
deriving DecidableEq, Repr

namespace Rule

instance : Coe String Rule where
  coe text := .token (.word text)

instance : Coe Lexeme Rule where
  coe kind := .token (.lexeme kind)

instance : Coe Construct Rule where
  coe := .construct

/-- One rule after the other. -/
def seq : List Rule → Rule
  | [] => nothing
  | [rule] => rule
  | rule :: rest => both rule (seq rest)

/-- One of several rules. -/
def choice : List Rule → Rule
  | [] => nothing
  | [rule] => rule
  | rule :: rest => either rule (choice rest)

def optional (rule : Rule) : Rule :=
  either rule nothing

/-- A rule any number of times. -/
def many (rule : Rule) : Rule :=
  optional (repeated rule)

/-- A rule once or more, with a separator in between. -/
def separated (separator rule : Rule) : Rule :=
  seq [rule, many (seq [separator, rule])]

def commaList (rule : Rule) : Rule :=
  separated "," rule

def openBrace : Rule := "\x7b"

def closeBrace : Rule := "\x7d"

def bind (strength : Strength) (rule : Rule) : Rule :=
  bound (.strength strength) none rule

def bindLeft (strength : Strength) (rule : Rule) : Rule :=
  bound (.strength strength) (some .left) rule

def bindRight (strength : Strength) (rule : Rule) : Rule :=
  bound (.strength strength) (some .right) rule

def level (number : Int) (rule : Rule) : Rule :=
  bound (.level number) none rule

def levelLeft (number : Int) (rule : Rule) : Rule :=
  bound (.level number) (some .left) rule

def levelRight (number : Int) (rule : Rule) : Rule :=
  bound (.level number) (some .right) rule

end Rule

/-- A construct with its rule, and the type of its nodes unless it has none of its own. -/
structure Definition where
  construct : Construct
  type : Option String
  rule : Rule

/-- Defines a construct that has nodes. -/
def shown (construct : Construct) (type : String) (rule : Rule) : Definition :=
  ⟨construct, some type, rule⟩

/-- Defines a construct whose parts are children of what surrounds it. -/
def hidden (construct : Construct) (rule : Rule) : Definition :=
  ⟨construct, none, rule⟩

end PageGraft.Syntax
