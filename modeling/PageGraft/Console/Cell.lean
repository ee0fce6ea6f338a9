import PageGraft.Console.CellTable

/-!
# Cells

A terminal shows a text in cells of one size. Most characters take one cell. Some are shown together
with the characters around them: a mark stands on the character before it, a joiner makes one
picture of two, and a colour mark asks for the wide form of a picture. Such a cluster is never
broken.
-/

namespace PageGraft.Console

/-- Makes one picture of the characters on both sides of it. -/
def joiner : Char := '\u200d'

/-- Asks for the character before it in colour. -/
def colourMark : Char := '\ufe0f'

def within (bounds : List (Nat × Nat)) (code : Nat) : Bool :=
  bounds.any fun (first, stop) => first ≤ code && code < stop

/-- How many cells a character takes by itself. -/
def cellWidth (character : Char) : Nat :=
  let code := character.toNat
  if 32 ≤ code && code < 127 then 1
  else if within zeroBounds code then 0
  else if within wideBounds code then 2
  else 1

/-- How many more cells a character takes in colour. -/
def gain (character : Option Char) : Nat :=
  match character with
  | some character => if within widenedBounds character.toNat then 1 else 0
  | none => 0

/-- How many cells a text takes. A joiner hides the character after it. A colour mark widens the
last character with a cell of its own. -/
def cells (text : List Char) : Nat :=
  go none text
where
  go (last : Option Char) : List Char → Nat
    | [] => 0
    | [character] =>
      if character = joiner then 0
      else if character = colourMark then gain last
      else cellWidth character
    | character :: next :: rest =>
      if character = joiner then go last rest
      else if character = colourMark then gain last + go none (next :: rest)
      else if cellWidth character = 0 then go last (next :: rest)
      else cellWidth character + go (some character) (next :: rest)

@[simp]
theorem cells_nil : cells [] = 0 := rfl

def spaces (count : Nat) : List Char :=
  List.replicate count ' '

theorem cells_go_spaces (last : Option Char) (count : Nat) :
    cells.go last (spaces count) = count := by
  have hjoiner : ' ' ≠ joiner := by decide
  have hmark : ' ' ≠ colourMark := by decide
  have hspace : cellWidth ' ' = 1 := rfl
  induction count generalizing last with
  | zero => rfl
  | succ count ih =>
    cases count with
    | zero => rfl
    | succ count =>
      have hrest := ih (some ' ')
      rw [spaces, List.replicate_succ] at hrest
      rw [spaces, List.replicate_succ, List.replicate_succ, cells.go, if_neg hjoiner,
        if_neg hmark, if_neg (by rw [hspace]; decide), hspace, hrest]
      omega

@[simp]
theorem cells_spaces (count : Nat) : cells (spaces count) = count :=
  cells_go_spaces none count

/-- Fills a text with spaces up to a width. -/
def pad (width : Nat) (text : List Char) : List Char :=
  text ++ spaces (width - cells text)

/-! ## Clusters -/

/-- Characters that are shown together, and how many cells they take. -/
structure Cluster where
  characters : List Char
  width : Nat
deriving Repr, DecidableEq

namespace Cluster

/-- Adds characters to a cluster without making it wider. -/
def attach (cluster : Cluster) (more : List Char) : Cluster :=
  { cluster with characters := cluster.characters ++ more }

end Cluster

/-- The clusters of a text, in order. What has no cell belongs to the cluster before it; only at the
beginning of a text it is a cluster of its own. -/
def clusters (text : List Char) : List Cluster :=
  match text with
  | [] => []
  | character :: rest => go (start character) (lead character) rest
where
  start (character : Char) : Cluster :=
    if character = joiner || character = colourMark then ⟨[character], 0⟩
    else ⟨[character], cellWidth character⟩
  lead (character : Char) : Option Char :=
    if (start character).width = 0 then none else some character
  go (current : Cluster) (last : Option Char) : List Char → List Cluster
    | [] => [current]
    | [character] =>
      if character = joiner then [current.attach [character]]
      else if character = colourMark then
        [{ current.attach [character] with width := current.width + gain last }]
      else if cellWidth character = 0 then [current.attach [character]]
      else [current, ⟨[character], cellWidth character⟩]
    | character :: next :: rest =>
      if character = joiner then go (current.attach [character, next]) last rest
      else if character = colourMark then
        go { current.attach [character] with width := current.width + gain last }
          (if gain last = 0 then last else none) (next :: rest)
      else if cellWidth character = 0 then go (current.attach [character]) last (next :: rest)
      else current :: go ⟨[character], cellWidth character⟩ (some character) (next :: rest)

/-- The clusters at the beginning of a text that fit a width; a space stands for half of a cluster
that does not fit any more. -/
def crop (width : Nat) (text : List Char) : List Char :=
  go width (clusters text)
where
  go (room : Nat) : List Cluster → List Char
    | [] => spaces room
    | cluster :: rest =>
      if room = 0 then []
      else if cluster.width ≤ room then cluster.characters ++ go (room - cluster.width) rest
      else spaces room

/-- Crops a text only if it is too wide. -/
def fit (width : Nat) (text : List Char) : List Char :=
  if cells text ≤ width then text else crop width text

end PageGraft.Console
