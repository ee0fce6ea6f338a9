import PageGraft.Syntax.Layout
import PageGraft.Syntax.Reading

/-!
# The next token

What the next token of a version is depends on what is valid in its state. Where nothing valid can be
read, anything that is a token at all is looked for.
-/

namespace PageGraft.Syntax

/-- The tokens that are looked for in text that cannot be read: all but those that only make sense right
after another one. -/
def tokensAnywhere : TokenSet :=
  let dependent := TokenSet.ofTokens ([.regexPattern, .regexClose, .regexFlags, .doubleQuotedText,
    .singleQuotedText, .doubleQuotedAttribute, .singleQuotedAttribute, .markupName, .escapeSequence,
    .hashBangLine].map .lexeme)
  (1 <<< tokens.length) - 1 - dependent

/-- How many characters there are up to the next token of any kind. -/
def strayLength : List Char → Nat
  | [] => 0
  | _ :: rest => if (lex? tokensAnywhere rest).isSome then 1 else strayLength rest + 1

/-- The tree of a token. A name that spells a keyword is that keyword where the keyword is accepted. -/
def Lexed.toSubtree (lexed : Lexed) (place : Place) (accepts : Nat → Bool) : Subtree :=
  let start := place.advance lexed.gap
  let stop := start.advance lexed.length
  let tree := Subtree.leaf (.token lexed.token) place start stop
  if lexed.token = identifierIndex then
    match keyword? (start.rest.take lexed.length) with
    | some keyword =>
      if accepts keyword then { tree with label := .token keyword, isKeyword := true }
      else { tree with isKeyword := true }
    | none => tree
  else tree

/-- The next token of any kind, or the text up to it. -/
def lexAnywhere (place : Place) (accepts : Nat → Bool) : Subtree :=
  match lex? tokensAnywhere place.rest with
  | some lexed => lexed.toSubtree place accepts
  | none =>
    let start := place.advance (gapLength place.rest)
    .leaf .fault place start (start.advance (strayLength start.rest))

/-- A token that the layout stands for. One without text that would not move the reading on is none. -/
def layoutToken (version : Nat) (valid : TokenSet) (place : Place) : ReadingM (Option Lexed) := do
  match layout? valid place.rest with
  | none => return none
  | some lexed =>
    if 0 < lexed.gap + lexed.length then return some lexed
    else if Grammar.extras.testBit lexed.token then return none
    else if ← hasAdvanced version then return some lexed
    else return none

/-- The next token of a version. -/
def lookahead (version : Nat) : ReadingM Subtree := do
  let reading ← get
  let frame := reading.frameOf version
  match frame.stage with
  | .state index =>
    let valid := ((reading.automaton[index]?).map (·.valid)).getD 0
    let found ← layoutToken version valid frame.place
    let accepts (token : Nat) : Bool := !(reading.actions frame.stage token).isEmpty
    match found <|> lex? valid frame.place.rest with
    | some lexed => return lexed.toSubtree frame.place accepts
    | none => return lexAnywhere frame.place accepts
  | _ => return lexAnywhere frame.place tokensAnywhere.testBit

end PageGraft.Syntax
