import PageGraft.Syntax.Item

/-!
# Beginnings

Where a construct is about to be read, the constructs that it can begin with are about to be read too.
This module says which these are and what can follow them.
-/

namespace PageGraft.Syntax

namespace Grammar

/-- The symbols that the productions of every construct begin with. -/
def starts : Array (List Symbol) :=
  (productions.toList.map fun family =>
    (family.filterMap fun production => production.steps.head?.map (·.symbol)).eraseDups).toArray

def startsAt (index : Nat) : List Symbol :=
  starts[index]?.getD []

/-- The tokens among the symbols that the productions of every construct begin with. -/
def tokenStarts : Array TokenSet :=
  (starts.toList.map (·.foldl (fun set symbol =>
    match symbol with
    | .token index => set ||| .single index
    | .construct _ => set) 0)).toArray

def tokenStartsAt (index : Nat) : TokenSet :=
  tokenStarts[index]?.getD 0

/-- The constructs that the given ones and the ones found can begin with, in at most so many steps. -/
def reachFrom : Nat → List Nat → List Nat → List Nat
  | 0, _, found => found
  | _, [], found => found
  | fuel + 1, index :: rest, found =>
    if found.contains index then reachFrom fuel rest found
    else
      let next := (startsAt index).filterMap fun
        | .token _ => none
        | .construct inner => some inner
      reachFrom fuel (next ++ rest) (index :: found)

/-- The tokens that every construct can begin with. -/
def firsts : Array TokenSet :=
  ((List.range size).map fun index =>
    (reachFrom (size * size) [index] []).foldl (fun set inner => set ||| tokenStartsAt inner)
      0).toArray

/-- The tokens that a symbol can begin with. -/
def firstOf : Symbol → TokenSet
  | .token index => .single index
  | .construct index => firsts[index]?.getD 0

/-! ## What can follow -/

/-- A construct that another one can begin with: the tokens that can follow it there, and whether what
follows the other one can follow it too. -/
structure Beginning where
  construct : Nat
  follow : TokenSet
  inherits : Bool

/-- Adds a beginning to a list with one entry for each construct, and tells whether that is news. -/
def addBeginning (new : Beginning) : List Beginning → List Beginning × Bool
  | [] => ([new], true)
  | old :: rest =>
    if old.construct < new.construct then
      let (rest, news) := addBeginning new rest
      (old :: rest, news)
    else if new.construct < old.construct then (new :: old :: rest, true)
    else
      let merged : Beginning :=
        ⟨old.construct, old.follow ||| new.follow, old.inherits || new.inherits⟩
      (merged :: rest, merged.follow != old.follow || merged.inherits != old.inherits)

/-- The constructs that the productions of every construct begin with. -/
def beginnings : Array (List Beginning) :=
  (productions.toList.map (·.foldl (fun found production =>
    match production.steps with
    | ⟨_, .construct construct⟩ :: next :: _ =>
      (addBeginning ⟨construct, firstOf next.symbol, false⟩ found).1
    | [⟨_, .construct construct⟩] => (addBeginning ⟨construct, 0, true⟩ found).1
    | _ => found) [])).toArray

/-- Adds what the constructs to be visited begin with, in at most so many visits. -/
def spread : Nat → List Nat → List Beginning → List Beginning
  | 0, _, found => found
  | _, [], found => found
  | fuel + 1, index :: rest, found =>
    match found.find? (·.construct == index) with
    | none => spread fuel rest found
    | some origin =>
      let (found, visits) := (beginnings[index]?.getD []).foldl (fun (found, visits) inner =>
        let new : Beginning :=
          ⟨inner.construct,
            if inner.inherits then inner.follow ||| origin.follow else inner.follow,
            inner.inherits && origin.inherits⟩
        let (found, news) := addBeginning new found
        (found, if news && !visits.contains new.construct then new.construct :: visits else visits))
        (found, rest)
      spread fuel visits found

/-- Every construct with all constructs that it can begin with, itself included. -/
def closures : Array (List Beginning) :=
  ((List.range size).map fun index =>
    spread (size * size) [index] [⟨index, 0, true⟩]).toArray

def closureAt (index : Nat) : List Beginning :=
  closures[index]?.getD []

end Grammar

/-- Constructs that are about to be read, in order, with the tokens that can follow them. -/
abbrev Outlook := List (Nat × TokenSet)

/-- Adds a construct, or the tokens that can follow it. -/
def Outlook.insert (construct : Nat) (follow : TokenSet) : Outlook → Outlook
  | [] => [(construct, follow)]
  | (other, tokens) :: rest =>
    if construct < other then (construct, follow) :: (other, tokens) :: rest
    else if construct = other then (other, tokens ||| follow) :: rest
    else (other, tokens) :: Outlook.insert construct follow rest

/-- Adds to an outlook a construct and all that it can begin with. -/
def Outlook.insertAll (outlook : Outlook) (construct : Nat) (follow : TokenSet) : Outlook :=
  (Grammar.closureAt construct).foldr (fun beginning outlook =>
    outlook.insert beginning.construct
      (if beginning.inherits then beginning.follow ||| follow else beginning.follow))
    outlook

end PageGraft.Syntax
