import PageGraft.Syntax.Lexical

/-!
# Layout

Tokens that depend on the layout of the source or on what is valid beside them: the semicolon that a
line break stands for, the question mark of a conditional expression, the text of templates and
elements, and the comments of pages.
-/

namespace PageGraft.Syntax

open PageGraft.Text

/-- White space that can separate statements. Spaces that forbid a line break do not count. -/
def isLayoutSpace (character : Char) : Bool :=
  let code := character.toNat
  isSpace character && !(0x1C ≤ code && code ≤ 0x1F) &&
    !(code == 0xA0 || code == 0x2007 || code == 0x202F)

def dropSpace (text : List Char) : List Char :=
  text.dropWhile isLayoutSpace

/-- A letter that a word could go on with. -/
def isLetter (character : Char) : Bool :=
  isAlphanumeric character && !character.isDigit

/-! ## Text -/

/-- The text of a template up to its end, an escape or a substitution; none if the source ends. -/
def templateTextLength : List Char → Option Nat
  | [] => none
  | '\x60' :: _ | '\\' :: _ | '$' :: '\x7b' :: _ => some 0
  | _ :: rest => (templateTextLength rest).map (· + 1)

/-- The text between elements, and whether it is more than a line break with the white space after it.
-/
def markupTextLength (afterBreak : Bool) : List Char → Nat × Bool
  | [] => (0, false)
  | character :: rest =>
    if ['<', '>', '\x7b', '\x7d', '&'].contains character then (0, false)
    else
      let afterBreak := character == '\n' || afterBreak && isLayoutSpace character
      let (length, isText) := markupTextLength afterBreak rest
      (length + 1, !afterBreak || isText)

/-! ## Semicolons -/

/-- Where the search for the next statement is. -/
inductive Passage where
  | space
  | line
  | block

/-- Passes white space and comments. Answers whether that leads to something else than a slash, whether
a comment was passed, and the rest. -/
def passRemarks (seen : Bool) : Passage → List Char → Bool × Bool × List Char
  | _, [] => (true, seen, [])
  | .space, '/' :: '/' :: rest => passRemarks true .line rest
  | .space, '/' :: '*' :: rest => passRemarks true .block rest
  | .space, '/' :: rest => (false, seen, rest)
  | .space, character :: rest =>
    if isLayoutSpace character then passRemarks seen .space rest
    else (true, seen, character :: rest)
  | .line, character :: rest =>
    passRemarks seen (if isScriptLineBreak character then .space else .line) rest
  | .block, '*' :: '/' :: rest => passRemarks seen .space rest
  | .block, _ :: rest => passRemarks seen .block rest

/-- Whether a text begins with one of the operators that are words, so that a line before it goes on. -/
def beginsWordOperator : List Char → Bool
  | 'i' :: 'n' :: rest =>
    if rest.head?.all (!isLetter ·) then true
    else "stanceof".toList.isPrefixOf rest && (rest.drop 8).head?.all (!isLetter ·)
  | _ => false

/-- The outcome of the search for a semicolon: whether the layout stands for one, whether a comment was
passed, and the text where the search stopped. -/
structure LineEnd where
  isSemicolon : Bool
  passedComment : Bool := false
  rest : List Char

/-- Whether a statement can end in front of a text that begins a line. What could go on the statement
does not end it; `isOperand` tells that an operator could come next, `isSignature` that the statement is
a function without body. -/
def newLineEnd (isOperand isSignature : Bool) (text : List Char) : LineEnd :=
  let (isFree, seen, rest) := passRemarks false .space text
  if !isFree then ⟨false, seen, rest⟩
  else
    match rest with
    | [] => ⟨true, seen, rest⟩
    | '+' :: after => ⟨after.head? == some '+', seen, after⟩
    | '-' :: after => ⟨after.head? == some '-', seen, after⟩
    | '!' :: after => ⟨after.head? != some '=', seen, after⟩
    | character :: _ =>
      if "\x60,.;*%><=?^|&/:".toList.contains character then ⟨false, seen, rest⟩
      else if character = '\x7b' then ⟨!isSignature, seen, rest⟩
      else if character = '(' || character = '[' then ⟨!isOperand, seen, rest⟩
      else ⟨!beginsWordOperator rest, seen, rest⟩

/-- Whether a statement can end in front of a text. -/
def lineEnd (isOperand isSignature : Bool) : List Char → LineEnd
  | [] => ⟨true, false, []⟩
  | '\n' :: rest => newLineEnd isOperand isSignature rest
  | '\x7d' :: rest =>
    let after := dropSpace rest
    ⟨after.head? != some ':' || isOperand, false, after⟩
  | character :: rest =>
    if isLayoutSpace character then lineEnd isOperand isSignature rest
    else ⟨false, false, character :: rest⟩

/-! ## Question marks -/

/-- The rest of a text from the question mark of a conditional expression on. Optional members and
parameters have question marks of their own. -/
def conditionalMark? (text : List Char) : Option (List Char) :=
  match dropSpace text with
  | '?' :: '?' :: _ | '?' :: '.' :: _ => none
  | '?' :: rest =>
    match dropSpace rest with
    | ':' :: _ | ')' :: _ | ',' :: _ => none
    | '.' :: after => if after.head?.any Char.isDigit then some ('?' :: rest) else none
    | _ => some ('?' :: rest)
  | _ => none

/-! ## Tokens -/

/-- The comment of a page: it ends with the line. -/
def markupCommentLength (text : List Char) : Nat :=
  if "<!--".toList.isPrefixOf text || "-->".toList.isPrefixOf text then
    (text.takeWhile fun character => !isScriptLineBreak character).length
  else 0

/-- What of the tokens that depend on layout is valid. -/
structure Expected where
  semicolon : Bool
  signatureSemicolon : Bool
  templateText : Bool
  conditionalMark : Bool
  markupText : Bool
  markupComment : Bool
  operand : Bool

/-- The tokens that depend on layout among the valid ones. -/
def Expected.ofSet (valid : TokenSet) : Expected :=
  let has (kind : Lexeme) := valid.testBit (lexemeIndex kind)
  let operand := valid.testBit (Token.word "||").index
  { semicolon := has .automaticSemicolon
    signatureSemicolon := has .signatureSemicolon
    templateText := has .templateText
    conditionalMark := has .conditionalMark
    markupText := has .markupText
    markupComment :=
      has .markupComment && !operand && !has .escapeSequence && !has .regexPattern
    operand }

/-- Reads a token that depends on layout. -/
def layout? (valid : TokenSet) (text : List Char) : Option Lexed :=
  let expected := Expected.ofSet valid
  if expected.templateText then
    if expected.semicolon then none
    else
      match templateTextLength text with
      | some (length + 1) => some ⟨lexemeIndex .templateText, 0, length + 1⟩
      | _ => none
  else
    let (passed, isText) :=
      if expected.markupText then markupTextLength false text else (0, false)
    if isText then some ⟨lexemeIndex .markupText, 0, passed⟩
    else
      let rest := text.drop passed
      let mark (tail : List Char) : Option Lexed :=
        (conditionalMark? tail).map fun marked =>
          ⟨lexemeIndex .conditionalMark, text.length - marked.length, 1⟩
      if expected.semicolon || expected.signatureSemicolon then
        let found := lineEnd expected.operand expected.signatureSemicolon rest
        if found.isSemicolon then some ⟨lexemeIndex .automaticSemicolon, passed, 0⟩
        else if !found.passedComment && expected.conditionalMark && found.rest.head? == some '?' then
          mark found.rest
        else none
      else if expected.conditionalMark then mark rest
      else if expected.markupComment then
        let after := dropSpace rest
        match markupCommentLength after with
        | 0 => none
        | length + 1 =>
          some ⟨lexemeIndex .markupComment, text.length - after.length, length + 1⟩
      else none

end PageGraft.Syntax
