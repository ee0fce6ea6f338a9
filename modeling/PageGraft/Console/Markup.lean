import PageGraft.Console.Style

/-!
# Markup

A text can hold tags in square brackets. A tag such as `[bold]` begins a style, and `[/bold]` or
`[/]` ends it. A tag such as `[@click=open("file")]` names an action with its arguments. A backslash
takes the meaning from a tag. Here only the text between the tags counts, and that the tags are
right.
-/

namespace PageGraft.Console

open PageGraft.Text

/-- Why a text is no markup. -/
inductive MarkupFault where
  /-- No open tag has the style that a tag ends. -/
  | unmatched (style : String)
  /-- No tag is open. -/
  | nothingToClose
  | badArguments (arguments : String)
  /-- A colour has a part without digits. -/
  | badNumber
deriving Repr, DecidableEq

/-- A tag that begins a style. -/
structure Tag where
  name : String
  parameters : Option (List Char)
deriving Repr, DecidableEq

/-- Pieces of a text with markup. -/
inductive Piece where
  | plain (text : List Char)
  | tag (text : List Char)
deriving Repr, DecidableEq

/-! ## Pieces -/

/-- The text of a tag and what follows it, after the opening bracket. -/
def tagText? : List Char → Option (List Char × List Char)
  | [] => none
  | first :: rest =>
    let isFirst := ('a' ≤ first && first ≤ 'z') || first = '#' || first = '/' || first = '@'
    let (text, after) := rest.span fun character => character ≠ '[' && character ≠ ']'
    match isFirst, after with
    | true, ']' :: after => some (first :: text, after)
    | _, _ => none

/-- Cuts a text with markup into pieces. Two backslashes before a tag are one in the text, and one
backslash more takes the meaning from the tag. -/
def pieces (text : List Char) : List Piece :=
  go text.length [] text
where
  go (fuel : Nat) (before : List Char) (text : List Char) : List Piece :=
    match fuel, text with
    | 0, _ => [.plain (before ++ text)]
    | _, [] => [.plain before]
    | fuel + 1, character :: rest =>
      let (slashes, after) := (character :: rest).span (· = '\\')
      match after with
      | '[' :: inner =>
        match tagText? inner with
        | some (tag, after) =>
          let shown := List.replicate (slashes.length / 2) '\\'
          if slashes.length % 2 = 1 then
            .plain before :: .plain shown :: .plain ('[' :: tag ++ [']']) :: go fuel [] after
          else .plain before :: .plain shown :: .tag tag :: go fuel [] after
        | none => go fuel (before ++ slashes ++ ['[']) inner
      | _ =>
        if slashes.isEmpty then go fuel (before ++ [character]) rest
        else go fuel (before ++ slashes) after

/-! ## Arguments of actions -/

/-- The rest of a text after a value: a number, a text in quotes, a word for a truth value or for
nothing, or a sequence of values in brackets. -/
def afterValue (fuel : Nat) (text : List Char) : Option (List Char) :=
  match fuel, text.dropWhile isSpace with
  | 0, _ | _, [] => none
  | fuel + 1, first :: rest =>
    if first = '(' then afterValues fuel ')' rest
    else if first = '[' then afterValues fuel ']' rest
    else if first = '-' || first = '+' then
      match rest.dropWhile isSpace with
      | digit :: _ => if digit.isDigit then afterValue fuel rest else none
      | [] => none
    else if first = '\'' || first = '"' then
      match rest.dropWhile (fun character => character ≠ first && character ≠ '\n') with
      | quote :: rest => if quote = first then some rest else none
      | [] => none
    else
      let (word, rest) := (first :: rest).span fun character =>
        isWordPart character || character = '.'
      if ["None", "True", "False"].contains (String.ofList word) then some rest
      else
        let (whole, fraction) := word.span Char.isDigit
        let isNumber := match fraction with
          | [] => !whole.isEmpty && (whole.length = 1 || whole.head? ≠ some '0')
          | '.' :: places =>
            places.all Char.isDigit && !(whole.isEmpty && places.isEmpty)
          | _ => false
        if isNumber then some rest else none
where
  afterValues (fuel : Nat) (close : Char) (text : List Char) : Option (List Char) :=
    match fuel, text.dropWhile isSpace with
    | 0, _ | _, [] => none
    | fuel + 1, first :: rest =>
      if first = close then some rest
      else do
        let after ← afterValue fuel (first :: rest)
        match after.dropWhile isSpace with
        | ',' :: rest => afterValues fuel close rest
        | last :: rest => if last = close then some rest else none
        | [] => none

/-- Whether a text is a value, or values with commas between them. -/
def isValue (text : List Char) : Bool :=
  match afterValue.afterValues (text.length + 2) ')' (text ++ [')']) with
  | some [] => text.any fun character => !isSpace character
  | _ => false

/-- Checks what an action is given: a name, perhaps with arguments in brackets, or a value. -/
def checkArguments (text : List Char) : Except MarkupFault Unit :=
  let text := trim text
  let (_, rest) := text.span fun character => isWordPart character || character = '.'
  let isAction := match rest with
    | [] => true
    | '(' :: _ => rest.getLast? = some ')' && !rest.contains '\n' && isValue rest
    | _ => isValue text
  if isAction then pure () else throw (.badArguments (String.ofList text))

/-! ## Text -/

/-- The normal text of the style of a tag. -/
def tagStyle (text : List Char) : Except MarkupFault String :=
  match Style.normalize text with
  | .ok style => pure style
  | .error _ => throw .badNumber

/-- The open tags after one that ends, with the tag that is ended. -/
def close (style : String) : List Tag → Except MarkupFault (Tag × List Tag)
  | [] => throw (.unmatched style)
  | tag :: rest =>
    if tag.name = style then pure (tag, rest)
    else do
      let (found, rest) ← close style rest
      return (found, tag :: rest)

/-- The open tags, the last one first, after another tag. -/
def follow (tags : List Tag) (text : List Char) : Except MarkupFault (List Tag) := do
  let (name, assigned) := text.span (· ≠ '=')
  match name with
  | '/' :: style =>
    let (ended, rest) ←
      if (trim style).isEmpty then
        match tags with
        | [] => throw .nothingToClose
        | last :: rest => pure (last, rest)
      else close (← tagStyle (trim style)) tags
    match ended.name.toList, ended.parameters with
    | '@' :: _, some (first :: more) => checkArguments (first :: more)
    | _, _ => pure ()
    return rest
  | name =>
    let tag : Tag := ⟨← tagStyle name, if assigned.isEmpty then none else some (assigned.drop 1)⟩
    return tag :: tags

/-- A text without backslashes before opening brackets. -/
def unescape : List Char → List Char
  | '\\' :: '[' :: rest => '[' :: unescape rest
  | character :: rest => character :: unescape rest
  | [] => []

/-- What is shown of a text with markup. Pictures stand for their names. -/
def plainText (text : List Char) : Except MarkupFault (List Char) :=
  if text.contains '[' then go [] (pieces text) else pure (showPictures text)
where
  go (tags : List Tag) : List Piece → Except MarkupFault (List Char)
    | [] => pure []
    | .plain text :: rest => do return showPictures (unescape text) ++ (← go tags rest)
    | .tag text :: rest => do go (← follow tags text) rest

end PageGraft.Console
