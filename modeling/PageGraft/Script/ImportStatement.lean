import PageGraft.Text.Substitute

/-!
# Import statements

Recognises an import statement as text: default, namespace and named imports, whose braces may span
lines, type imports, and imports for effect only. A semicolon and a newline right after the
statement belong to it. The readers answer the text after what they have read.
-/

namespace PageGraft.Script

open PageGraft.Text

/-- The text after a piece that it begins with. -/
def dropPiece (piece text : List Char) : Option (List Char) :=
  if piece.isPrefixOf text then some (text.drop piece.length) else none

/-- The text after the white space that it begins with; there has to be some. -/
def dropSpaces? : List Char → Option (List Char)
  | [] => none
  | character :: rest => if isSpace character then some (rest.dropWhile isSpace) else none

def isModuleQuote (character : Char) : Bool :=
  character == '\'' || character == '"'

/-- The text without a character at its front, if it is there. -/
def dropOptional (character : Char) : List Char → List Char
  | head :: rest => if head = character then rest else head :: rest
  | [] => []

/-- Reads the quoted module name and the end of the statement. The two quotes may differ. -/
def afterModule : List Char → Option (List Char)
  | [] => none
  | quote :: rest =>
    if isModuleQuote quote then
      match rest.dropWhile fun character => !isModuleQuote character && character ≠ '\n' with
      | closing :: rest =>
        if isModuleQuote closing then some (dropOptional '\n' (dropOptional ';' rest)) else none
      | [] => none
    else none

/-- Reads `from` and the module name. -/
def afterFrom (text : List Char) : Option (List Char) := do
  let rest ← dropPiece "from".toList (text.dropWhile isSpace)
  afterModule (rest.dropWhile isSpace)

/-- Reads a name and what `afterwards` reads after it. The keyword `from` may be joined to the name,
in front of a quote. -/
def afterName (afterwards : List Char → Option (List Char)) (text : List Char) :
    Option (List Char) :=
  let name := text.takeWhile isNamePart
  let rest := text.dropWhile isNamePart
  if name.isEmpty then none
  else
    afterwards rest <|>
      if "from".length < name.length && "from".toList.isSuffixOf name then
        afterModule (rest.dropWhile isSpace)
      else none

/-- Reads a brace list or a namespace binding, if there is one, and the rest of the statement. -/
def afterBindings : List Char → Option (List Char)
  | '\x7b' :: rest =>
    match rest.dropWhile (· ≠ '}') with
    | _ :: rest => afterFrom rest
    | [] => none
  | '*' :: rest => do
    let rest ← dropPiece "as".toList (rest.dropWhile isSpace)
    afterName afterFrom (← dropSpaces? rest)
  | text => afterFrom text

/-- Reads a default binding, if there is one, and the rest of the statement. -/
def afterDefault (text : List Char) : Option (List Char) :=
  afterName
      (fun rest => afterBindings
        ((dropOptional ',' (rest.dropWhile isSpace)).dropWhile isSpace)) text <|>
    afterBindings text

/-- Reads what stands between `import` and the end of the statement. -/
def afterClause (text : List Char) : Option (List Char) :=
  let withType := do
    let rest ← dropPiece "type".toList text
    afterDefault (← dropSpaces? rest)
  withType <|> afterDefault text

/-- The text after the import statement that it begins with. -/
def afterImport? (text : List Char) : Option (List Char) := do
  let rest ← dropPiece "import".toList text
  (dropSpaces? rest).bind afterClause <|> afterModule (rest.dropWhile isSpace)

/-- Finds import statements. -/
def importStatement : Finder := fun previous text =>
  if startsWord previous then
    (afterImport? text).map fun rest => text.length - rest.length
  else none

end PageGraft.Script
