import PageGraft.Yaml.Token

/-!
# The tree of a document

Puts the tokens of a document together. A tag is written out in full; a node without content is the
empty plain scalar. Every step either takes a token or goes on with a smaller part of the grammar, so
the number of steps is bounded by the number of tokens.
-/

namespace PageGraft.Yaml

/-- A node of a document, with its anchor and its tag if it has any. -/
inductive Node where
  | aliased (name : String)
  | scalar (anchor tag : Option String) (text : List Char) (plain : Bool)
  | sequence (anchor tag : Option String) (items : List Node)
  | mapping (anchor tag : Option String) (entries : List (Node × Node))
deriving Inhabited, Repr

namespace Node

/-- The node that stands where nothing is written. -/
def empty : Node := .scalar none none [] true

end Node

/-- Reads nodes from tokens, or finds the document malformed. -/
abbrev TokenReader := ExceptT Fault (StateM (List Token))

namespace TokenReader

def next : TokenReader (Option Token) :=
  return (← get).head?

def drop : TokenReader Unit :=
  modify List.tail

/-- Whether one of some tokens comes next. -/
def isNext (tokens : List Token) : TokenReader Bool :=
  return (← get).head?.any tokens.contains

def expect (token : Token) : TokenReader Unit := do
  guard (← isNext [token])
  drop

/-- Takes a token if it comes next. -/
def takes (token : Token) : TokenReader Bool := do
  if ← isNext [token] then
    drop
    return true
  else return false

end TokenReader

open TokenReader

/-- The handles that tags can have, with what they stand for. -/
abbrev Handles := List (String × String)

def standardTags : String := "tag:yaml.org,2002:"

def Handles.standard : Handles := [("!", "!"), ("!!", standardTags)]

/-- A tag written out in full. -/
def Handles.expand (handles : Handles) : Option String → String → Option String
  | none, suffix => some suffix
  | some handle, suffix => (handles.lookup handle).map (· ++ suffix)

/-! ## Nodes -/

def readAnchor : TokenReader (Option String) := do
  match ← next with
  | some (.anchor name) =>
    drop
    return some name
  | _ => return none

def readTag (handles : Handles) : TokenReader (Option String) := do
  match ← next with
  | some (.tag handle suffix) =>
    drop
    let some tag := handles.expand handle suffix | failure
    return some tag
  | _ => return none

/-- An anchor and a tag, in either order. -/
def readProperties (handles : Handles) : TokenReader (Option String × Option String) := do
  let anchor ← readAnchor
  let tag ← readTag handles
  if anchor.isSome then return (anchor, tag) else return (← readAnchor, tag)

/-- The collections of a document: block collections are only allowed where a block may stand, and a
sequence under a key may stand without indentation. -/
inductive Place where
  | block
  | value
  | flow
deriving DecidableEq

mutual

def readNode (handles : Handles) : Nat → Place → TokenReader Node
  | 0, _ => failure
  | fuel + 1, place => do
    match ← next with
    | some (.aliased name) =>
      drop
      return .aliased name
    | _ =>
      let (anchor, tag) ← readProperties handles
      match ← next with
      | some (.scalar text plain) =>
        drop
        return .scalar anchor tag text ((plain && tag.isNone) || tag == some "!")
      | some .flowSequenceStart =>
        drop
        return .sequence anchor tag (← readFlowItems handles fuel true)
      | some .flowMappingStart =>
        drop
        return .mapping anchor tag (← readFlowEntries handles fuel true)
      | some .blockEntry =>
        if place = .value then
          return .sequence anchor tag (← readBlockItems handles fuel false)
        else readMissing anchor tag
      | some .blockSequenceStart =>
        if place = .flow then readMissing anchor tag
        else
          drop
          return .sequence anchor tag (← readBlockItems handles fuel true)
      | some .blockMappingStart =>
        if place = .flow then readMissing anchor tag
        else
          drop
          return .mapping anchor tag (← readBlockEntries handles fuel)
      | _ => readMissing anchor tag
where
  /-- A node that has an anchor or a tag and no content. -/
  readMissing (anchor tag : Option String) : TokenReader Node := do
    guard (anchor.isSome || tag.isSome)
    return .scalar anchor tag [] (tag.isNone || tag == some "!")

/-- A node, unless one of some tokens comes next. -/
def readOptional (handles : Handles) : Nat → Place → List Token → TokenReader Node
  | 0, _, _ => failure
  | fuel + 1, place, ends => do
    if ← isNext ends then return .empty else readNode handles fuel place

/-- The items of a block sequence, with or without a token that closes it. -/
def readBlockItems (handles : Handles) : Nat → Bool → TokenReader (List Node)
  | 0, _ => failure
  | fuel + 1, indented => do
    if ← takes .blockEntry then
      let ends : List Token :=
        if indented then [.blockEntry, .blockEnd] else [.blockEntry, .key, .value, .blockEnd]
      let item ← readOptional handles fuel .block ends
      return item :: (← readBlockItems handles fuel indented)
    else
      if indented then expect .blockEnd
      return []

def readBlockEntries (handles : Handles) : Nat → TokenReader (List (Node × Node))
  | 0 => failure
  | fuel + 1 => do
    let ends : List Token := [.key, .value, .blockEnd]
    if ← takes .key then
      let key ← readOptional handles fuel .value ends
      let value ← (do
        if ← takes .value then readOptional handles fuel .value ends else return .empty)
      return (key, value) :: (← readBlockEntries handles fuel)
    else
      expect .blockEnd
      return []

/-- The items of a flow sequence; a key and its value count as a mapping of their own. -/
def readFlowItems (handles : Handles) : Nat → Bool → TokenReader (List Node)
  | 0, _ => failure
  | fuel + 1, first => do
    if ← takes .flowSequenceEnd then return []
    else
      if !first then expect .flowEntry
      if ← takes .key then
        let key ← readOptional handles fuel .flow [.value, .flowEntry, .flowSequenceEnd]
        let value ← (do
          if ← takes .value then
            readOptional handles fuel .flow [.flowEntry, .flowSequenceEnd]
          else return .empty)
        return .mapping none none [(key, value)] :: (← readFlowItems handles fuel false)
      else if ← takes .flowSequenceEnd then return []
      else
        let item ← readNode handles fuel .flow
        return item :: (← readFlowItems handles fuel false)

def readFlowEntries (handles : Handles) : Nat → Bool → TokenReader (List (Node × Node))
  | 0, _ => failure
  | fuel + 1, first => do
    if ← takes .flowMappingEnd then return []
    else
      if !first then expect .flowEntry
      if ← takes .key then
        let key ← readOptional handles fuel .flow [.value, .flowEntry, .flowMappingEnd]
        let value ← (do
          if ← takes .value then
            readOptional handles fuel .flow [.flowEntry, .flowMappingEnd]
          else return .empty)
        return (key, value) :: (← readFlowEntries handles fuel false)
      else if ← takes .flowMappingEnd then return []
      else
        let key ← readNode handles fuel .flow
        return (key, .empty) :: (← readFlowEntries handles fuel false)

end

/-! ## Documents -/

/-- The directives in front of a document, at most `fuel` of them. A version or a handle is given only
once, and only the first version of the language is known. -/
def readDirectives : Nat → Bool → Handles → TokenReader Handles
  | 0, _, handles => return handles
  | fuel + 1, versioned, handles => do
    match ← next with
    | some (.directive (.version major)) =>
      guard (!versioned && major = 1)
      drop
      readDirectives fuel true handles
    | some (.directive (.tag handle replacement)) =>
      guard (handles.lookup handle).isNone
      drop
      readDirectives fuel versioned ((handle, replacement) :: handles)
    | some (.directive .unknown) =>
      drop
      readDirectives fuel versioned handles
    | _ => return handles

def isDirective : Token → Bool
  | .directive _ => true
  | _ => false

/-- The ends of documents that come next. -/
def skipDocumentEnds : TokenReader Unit :=
  modify fun tokens => tokens.dropWhile (· == .documentEnd)

/-- The only document of some tokens, if there is one. -/
def readDocument : TokenReader (Option Node) := do
  let fuel := 4 * (← get).length + 4
  if (← next).any fun token => !isDirective token && token ≠ .documentStart then
    let node ← readNode .standard fuel .block
    skipDocumentEnds
    guard (← get).isEmpty
    return some node
  else if (← get).isEmpty then return none
  else
    let given ← readDirectives fuel false []
    expect .documentStart
    let empty := (← next).all fun token =>
      isDirective token || token == .documentStart || token == .documentEnd
    let node ← (do if empty then return .empty else readNode (given ++ .standard) fuel .block)
    skipDocumentEnds
    guard (← get).isEmpty
    return some node

/-- The tree of a text that is one document, or nothing for a text without a document. A text is
malformed also if it holds more than one. -/
def Node.ofText (text : List Char) : Except Fault (Option Node) := do
  match readDocument.run.run (← Token.ofText text) with
  | (.ok node, _) => return node
  | (.error _, .broken fault :: _) => throw fault
  | (.error fault, _) => throw fault

end PageGraft.Yaml
