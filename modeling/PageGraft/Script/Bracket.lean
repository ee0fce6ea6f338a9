import PageGraft.Script.Literal

/-!
# Matching brackets

The bracket that closes a given one, with the brackets inside literals and comments left out of
account. The reading is lexical and does not check the script. Template literals hold bracketed
substitutions, so their reader and the bracket reader call each other; every call goes to a shorter
text.
-/

namespace PageGraft.Script

open PageGraft.Text

/-- The closing bracket of an opening one. -/
def closerOf : Char → Option Char
  | '(' => some ')'
  | '[' => some ']'
  | '\x7b' => some '}'
  | _ => none

def isOpener (character : Char) : Bool :=
  (closerOf character).isSome

def isCloser (character : Char) : Bool :=
  character == ')' || character == ']' || character == '}'

/-- What a text begins with, for readers that pass over literals and comments whole. A piece counts
the characters after its first. -/
inductive Opening where
  | piece (further : Nat)
  | unterminated
  | code
deriving Repr, DecidableEq

def Opening.ofLength : Option Nat → Opening
  | some further => .piece further
  | none => .unterminated

mutual

/-- Reads a template literal after its opening backtick. -/
def templateLength : List Char → Option Nat
  | [] => none
  | ['\\'] => none
  | '\\' :: _ :: rest => (templateLength rest).map (· + 2)
  | '\x60' :: _ => some 1
  | '$' :: '\x7b' :: rest =>
    match closingDistance [] none [] ('\x7b' :: rest) with
    | none => none
    | some distance => (templateLength (rest.drop distance)).map (· + (distance + 2))
  | _ :: rest => (templateLength rest).map (· + 1)
termination_by text => (text.length, 0)
decreasing_by all_goals simp only [List.length_drop, List.length_cons]; omega

/-- The string, template literal or comment that a text begins with. -/
def opening : List Char → Opening
  | '\'' :: rest => .ofLength (stringLength '\'' rest)
  | '"' :: rest => .ofLength (stringLength '"' rest)
  | '\x60' :: rest => .ofLength (templateLength rest)
  | '/' :: '/' :: rest => .piece (1 + lineLength rest)
  | '/' :: '*' :: rest => .ofLength ((blockCommentLength rest).map (· + 1))
  | _ => .code
termination_by text => (text.length, 0)
decreasing_by all_goals simp only [List.length_cons]; omega

/-- The number of characters before the bracket that closes the outermost one still open. `expected`
holds the closers of the open brackets, innermost first; `previous` is the last character that is
neither white space nor part of a comment; `before` is the text read so far, nearest character
first. -/
def closingDistance (expected : List Char) (previous : Option Char) (before : List Char) :
    List Char → Option Nat
  | [] => none
  | character :: rest =>
    match opening (character :: rest) with
    | .unterminated => none
    | .piece further =>
      let previous :=
        if isQuote character || character == '\x60' then some character else previous
      (closingDistance expected previous ((rest.take further).reverse ++ character :: before)
        (rest.drop further)).map (· + (further + 1))
    | .code =>
      let regex :=
        if character = '/' && regexAllowed previous before then regexLength false rest else none
      match regex with
      | some further =>
        (closingDistance expected (some '/') ((rest.take further).reverse ++ character :: before)
          (rest.drop further)).map (· + (further + 1))
      | none =>
        let previous := if isSpace character then previous else some character
        match closerOf character with
        | some closer =>
          (closingDistance (closer :: expected) previous (character :: before) rest).map (· + 1)
        | none =>
          if isCloser character then
            match expected with
            | [] => none
            | closer :: outer =>
              if closer ≠ character then none
              else if outer.isEmpty then some 0
              else (closingDistance outer previous (character :: before) rest).map (· + 1)
          else (closingDistance expected previous (character :: before) rest).map (· + 1)
termination_by text => (text.length, 1)
decreasing_by all_goals simp only [List.length_drop, List.length_cons]; omega

end

/-- The number of characters from the opening bracket that a text begins with to its closing one. -/
def groupLength (text : List Char) : Option Nat :=
  match text with
  | character :: _ => if isOpener character then closingDistance [] none [] text else none
  | [] => none

/-- The index of the bracket that closes the one at an index. There is none if no bracket opens
there, if brackets are unbalanced or mismatched, or if a literal does not end. -/
def findMatching (text : List Char) (openIndex : Nat) : Option Nat :=
  (groupLength (text.drop openIndex)).map (· + openIndex)

end PageGraft.Script
