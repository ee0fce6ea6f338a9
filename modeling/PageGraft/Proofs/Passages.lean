import PageGraft.Proofs.Cleaning

/-!
# What a substitution leaves as it is

A substitution that reads a text from left to right keeps characters and replaces passages. As a list of
`Passage`s it can be asked which part of the old text comes out as it is (`Stays`): the part that no
replaced passage reaches into (`stays_of_outside`, `Stays.outside`). A `Substitution` is a function on
texts together with its passages.

The replacements of a finder are one kind of substitution (`Finder.substitution`). They leave a part of
the text as it is exactly when the finder recognises nothing in it, if it recognises nothing that reaches
into the part from outside (`Finder.FindsPieces.passes_of_stays`, `Finder.FindsPieces.stays_of_passes`).
-/

namespace PageGraft.Text

/-! ## Passages -/

/-- A step of a substitution: a character is kept, or a passage, which can be empty, is replaced. -/
inductive Passage where
  | kept (character : Char)
  | replaced (old new : List Char)
deriving Repr, DecidableEq

namespace Passage

def old : Passage → List Char
  | .kept character => [character]
  | .replaced old _ => old

def new : Passage → List Char
  | .kept character => [character]
  | .replaced _ new => new

/-- The length of the passage that is replaced, if it is. -/
def replacedLength : Passage → Option Nat
  | .kept _ => none
  | .replaced old _ => some old.length

end Passage

def oldText (passages : List Passage) : List Char :=
  passages.flatMap Passage.old

def newText (passages : List Passage) : List Char :=
  passages.flatMap Passage.new

/-- A piece behind some front of the old text comes out as it is: all its characters are kept, and nothing
comes in between. -/
def Stays (passages : List Passage) (front piece : List Char) : Prop :=
  ∃ before after, passages = before ++ (piece.map .kept ++ after) ∧ oldText before = front

section

variable {passages before after : List Passage} {front piece rest : List Char}

@[simp]
theorem oldText_nil : oldText [] = [] := rfl

@[simp]
theorem oldText_cons (passage : Passage) (passages : List Passage) :
    oldText (passage :: passages) = passage.old ++ oldText passages := rfl

@[simp]
theorem oldText_append : oldText (before ++ after) = oldText before ++ oldText after :=
  List.flatMap_append

@[simp]
theorem oldText_kept (text : List Char) : oldText (text.map .kept) = text := by
  induction text with
  | nil => rfl
  | cons character text ih => rw [List.map_cons, oldText_cons, ih, Passage.old, List.singleton_append]

@[simp]
theorem newText_nil : newText [] = [] := rfl

@[simp]
theorem newText_cons (passage : Passage) (passages : List Passage) :
    newText (passage :: passages) = passage.new ++ newText passages := rfl

@[simp]
theorem newText_append : newText (before ++ after) = newText before ++ newText after :=
  List.flatMap_append

@[simp]
theorem newText_kept (text : List Char) : newText (text.map .kept) = text := by
  induction text with
  | nil => rfl
  | cons character text ih => rw [List.map_cons, newText_cons, ih, Passage.new, List.singleton_append]

/-- What stays is in the new text, between what the rest before and behind it becomes. -/
theorem Stays.newText_eq (hstays : Stays passages front piece) :
    ∃ before after, oldText before = front ∧
      newText passages = newText before ++ (piece ++ newText after) := by
  obtain ⟨before, after, rfl, hfront⟩ := hstays
  exact ⟨before, after, hfront, by simp⟩

/-- A piece at the front of the old text is kept if no replaced passage begins before its end. -/
theorem kept_of_behind (hold : oldText passages = piece ++ rest)
    (hbehind : ∀ before old new after, passages = before ++ .replaced old new :: after →
      piece.length ≤ (oldText before).length) :
    ∃ after, passages = piece.map .kept ++ after := by
  induction piece generalizing passages with
  | nil => exact ⟨passages, rfl⟩
  | cons character piece ih =>
    cases passages with
    | nil => simp at hold
    | cons passage passages =>
      cases passage with
      | replaced old new =>
        have hlength := hbehind [] old new passages rfl
        simp at hlength
      | kept first =>
        rw [oldText_cons, Passage.old, List.singleton_append, List.cons_append,
          List.cons.injEq] at hold
        obtain ⟨rfl, hold⟩ := hold
        have hlater : ∀ before old new after, passages = before ++ .replaced old new :: after →
            piece.length ≤ (oldText before).length := by
          intro before old new after hsplit
          have hlength := hbehind (.kept first :: before) old new after
            (by rw [hsplit, List.cons_append])
          simp only [oldText_cons, Passage.old, List.length_append, List.length_cons,
            List.length_nil] at hlength
          omega
        obtain ⟨after, rfl⟩ := ih hold hlater
        exact ⟨after, rfl⟩

/-- A piece of the old text stays if every replaced passage ends before it or begins behind it. -/
theorem stays_of_outside (hpiece : piece ≠ []) (hold : oldText passages = front ++ (piece ++ rest))
    (houtside : ∀ before old new after, passages = before ++ .replaced old new :: after →
      (oldText before).length + old.length ≤ front.length ∨
        front.length + piece.length ≤ (oldText before).length) :
    Stays passages front piece := by
  induction passages generalizing front with
  | nil => simp [hpiece] at hold
  | cons passage passages ih =>
    have hpos := List.length_pos_of_ne_nil hpiece
    have hlater : ∀ before old new after, passages = before ++ .replaced old new :: after →
        passage.old.length + (oldText before).length + old.length ≤ front.length ∨
          front.length + piece.length ≤ passage.old.length + (oldText before).length := by
      intro before old new after hsplit
      have hlengths := houtside (passage :: before) old new after (by rw [hsplit, List.cons_append])
      simpa using hlengths
    -- a passage that ends in the front is left out, and the others are looked at from behind it
    have hbehind : ∀ front', front = passage.old ++ front' →
        Stays (passage :: passages) front piece := by
      rintro front' rfl
      rw [oldText_cons, List.append_assoc] at hold
      obtain ⟨before, after, rfl, rfl⟩ := ih (List.append_cancel_left hold) (by
        intro before old new after hsplit
        have hlengths := hlater before old new after hsplit
        rw [List.length_append] at hlengths
        omega)
      exact ⟨passage :: before, after, rfl, rfl⟩
    by_cases hfront : passage.old.length ≤ front.length
    · apply hbehind (front.drop passage.old.length)
      have htake : passage.old = front.take passage.old.length := by
        have htake := congrArg (List.take passage.old.length) hold
        rwa [oldText_cons, List.take_left, List.take_append_of_le_length hfront] at htake
      calc front = front.take passage.old.length ++ front.drop passage.old.length :=
            (List.take_append_drop _ _).symm
        _ = passage.old ++ front.drop passage.old.length := by rw [← htake]
    · cases passage with
      | replaced old new =>
        have hfirst := houtside [] old new passages rfl
        simp only [oldText_nil, List.length_nil, Passage.old] at hfirst hfront
        omega
      | kept character =>
        obtain rfl : front = [] := by simpa [Passage.old] using hfront
        have hlate : ∀ before old new after,
            .kept character :: passages = before ++ .replaced old new :: after →
              piece.length ≤ (oldText before).length := by
          intro before old new after hsplit
          have hlengths := houtside before old new after hsplit
          cases before with
          | nil => simp at hsplit
          | cons first before =>
            obtain ⟨rfl, -⟩ := List.cons.inj hsplit
            simp only [oldText_cons, Passage.old, List.length_append, List.length_cons,
              List.length_nil] at hlengths ⊢
            omega
        rw [List.nil_append] at hold
        obtain ⟨after, hafter⟩ := kept_of_behind hold hlate
        exact ⟨[], after, hafter, rfl⟩

/-- No replaced passage reaches into a piece that stays. -/
theorem Stays.outside (hstays : Stays passages front piece) (hpiece : piece ≠ [])
    {old new : List Char} (hsplit : passages = before ++ .replaced old new :: after) :
    (oldText before).length + old.length ≤ front.length ∨
      front.length + piece.length ≤ (oldText before).length := by
  obtain ⟨earlier, later, hkept, rfl⟩ := hstays
  rw [hsplit] at hkept
  rcases List.append_eq_append_iff.mp hkept with ⟨middle, rfl, hmiddle⟩ | ⟨middle, rfl, hmiddle⟩
  · -- the passage is among those before the piece
    left
    cases middle with
    | nil =>
      obtain ⟨first, piece, rfl⟩ := List.exists_cons_of_ne_nil hpiece
      simp at hmiddle
    | cons passage middle =>
      obtain ⟨rfl, -⟩ := List.cons.inj hmiddle
      simp [Passage.old]
  · -- or behind its beginning, and as it is not kept, behind its end
    right
    rcases List.append_eq_append_iff.mp hmiddle with ⟨more, rfl, -⟩ | ⟨more, hpieces, hmore⟩
    · simp
    · cases more with
      | nil =>
        rw [List.append_nil] at hpieces
        simp [← hpieces]
      | cons passage more =>
        obtain ⟨rfl, -⟩ := List.cons.inj hmore
        have hmem : Passage.replaced old new ∈ piece.map Passage.kept := by
          rw [hpieces]
          simp
        simp at hmem

/-- A replaced passage that begins before a piece and reaches into it holds its first character. -/
theorem mem_of_reaches {first : Char} {old new : List Char}
    (hold : oldText passages = front ++ (first :: piece ++ rest))
    (hsplit : passages = before ++ .replaced old new :: after)
    (hbegins : (oldText before).length ≤ front.length)
    (hreaches : front.length < (oldText before).length + old.length) : first ∈ old := by
  have hfirst : (oldText passages)[front.length]? = some first := by
    rw [hold, List.getElem?_append_right (Nat.le_refl _), Nat.sub_self]
    rfl
  rw [hsplit, oldText_append, oldText_cons, Passage.old, List.getElem?_append_right hbegins,
    List.getElem?_append_left (by omega)] at hfirst
  exact List.mem_of_getElem? hfirst

end

/-! ## Substitutions -/

/-- A function on texts that tells what it keeps and what it replaces. -/
structure Substitution where
  apply : List Char → List Char
  passages : List Char → List Passage
  oldText_passages : ∀ text, oldText (passages text) = text
  newText_passages : ∀ text, newText (passages text) = apply text

/-- The substitution leaves a piece behind some front of a text as it is. -/
def Substitution.Leaves (substitution : Substitution) (text front piece : List Char) : Prop :=
  Stays (substitution.passages text) front piece

/-- A piece that is left as it is comes out between what the front and the rest become. -/
theorem Substitution.Leaves.apply_eq {substitution : Substitution} {text front piece : List Char}
    (hleaves : substitution.Leaves text front piece) :
    ∃ before after, oldText before = front ∧
      substitution.apply text = newText before ++ (piece ++ newText after) := by
  obtain ⟨before, after, hfront, hnew⟩ := Stays.newText_eq hleaves
  exact ⟨before, after, hfront, by rw [← substitution.newText_passages, hnew]⟩

section

variable (find : Finder) (replacement : List Char)

/-- The passages of a replacement, after the next `skip` characters, which belong to a passage already
replaced. -/
def Finder.passages : Nat → Option Char → List Char → List Passage
  | 0, previous, [] => if (find previous []).isSome then [.replaced [] replacement] else []
  | _ + 1, _, [] => []
  | skip + 1, _, character :: rest => passages skip (some character) rest
  | 0, previous, character :: rest =>
    match find previous (character :: rest) with
    | none => .kept character :: passages 0 (some character) rest
    | some 0 => .replaced [] replacement :: .kept character :: passages 0 (some character) rest
    | some (further + 1) =>
      .replaced ((character :: rest).take (further + 1)) replacement ::
        passages further (some character) rest

theorem Finder.oldText_passages (skip : Nat) (previous : Option Char) (text : List Char) :
    oldText (find.passages replacement skip previous text) = text.drop skip := by
  induction text generalizing skip previous with
  | nil =>
    cases skip with
    | zero =>
      rw [passages]
      split <;> rfl
    | succ skip => rfl
  | cons character rest ih =>
    cases skip with
    | succ skip => rw [passages, ih, List.drop_succ_cons]
    | zero =>
      rw [passages]
      cases find previous (character :: rest) with
      | none => simp [Passage.old, ih]
      | some length => cases length <;> simp [Passage.old, ih]

theorem Finder.newText_passages (skip : Nat) (previous : Option Char) (text : List Char) :
    newText (find.passages replacement skip previous text) =
      find.replaceFrom replacement skip previous text := by
  induction text generalizing skip previous with
  | nil =>
    cases skip with
    | zero =>
      rw [passages, Finder.replaceFrom]
      split <;> simp [Passage.new]
    | succ skip => rfl
  | cons character rest ih =>
    cases skip with
    | succ skip => rw [passages, ih, Finder.replaceFrom]
    | zero =>
      rw [passages, Finder.replaceFrom]
      cases find previous (character :: rest) with
      | none => simp [Passage.new, ih]
      | some length => cases length <;> simp [Passage.new, ih]

/-- The replacement of everything that a finder recognises. -/
def Finder.substitution : Substitution where
  apply := find.replaceAll replacement
  passages := find.passages replacement 0 none
  oldText_passages := find.oldText_passages replacement 0 none
  newText_passages := find.newText_passages replacement 0 none

end

/-- A finder whose pieces have at least one character and lie in the text. -/
structure Finder.FindsPieces (find : Finder) : Prop where
  pos : ∀ {previous text}, find previous text ≠ some 0
  le : ∀ {previous text length}, find previous text = some length → length ≤ text.length

section

variable {find : Finder} {replacement : List Char}

/-- Between two passages the finder has looked at the place: it has recognised nothing where a character
is kept, and the passage where one is replaced. -/
theorem Finder.FindsPieces.find_eq (hfinds : find.FindsPieces) {skip : Nat} {previous : Option Char}
    {text : List Char} {before after : List Passage} {passage : Passage}
    (hsplit : find.passages replacement skip previous text = before ++ passage :: after) :
    find ((text.take skip ++ oldText before).getLast?.or previous)
      (text.drop (skip + (oldText before).length)) = passage.replacedLength := by
  induction text generalizing skip previous before with
  | nil =>
    have hnone : find previous [] = none := by
      cases hfound : find previous [] with
      | none => rfl
      | some length =>
        have hle := hfinds.le hfound
        obtain rfl : length = 0 := by simpa using hle
        exact absurd hfound hfinds.pos
    cases skip <;> simp [passages, hnone] at hsplit
  | cons character rest ih =>
    cases skip with
    | succ skip =>
      rw [passages] at hsplit
      have hlater := ih hsplit
      rw [← getLast?_cons_or _ _ previous] at hlater
      rw [Nat.add_right_comm]
      exact hlater
    | zero =>
      rw [passages] at hsplit
      cases hfound : find previous (character :: rest) with
      | none =>
        simp only [hfound] at hsplit
        cases before with
        | nil =>
          obtain ⟨rfl, -⟩ := List.cons.inj hsplit
          exact hfound
        | cons first before =>
          obtain ⟨rfl, hmore⟩ := List.cons.inj hsplit
          have hlater := ih hmore
          rw [← getLast?_cons_or _ _ previous] at hlater
          rw [Nat.zero_add] at hlater ⊢
          rw [oldText_cons, Passage.old, List.singleton_append, List.length_cons,
            List.drop_succ_cons]
          exact hlater
      | some length =>
        cases length with
        | zero => exact absurd hfound hfinds.pos
        | succ further =>
          have hle := hfinds.le hfound
          have hlength : ((character :: rest).take (further + 1)).length = further + 1 := by
            rw [List.length_take, Nat.min_eq_left hle]
          simp only [hfound] at hsplit
          cases before with
          | nil =>
            obtain ⟨rfl, -⟩ := List.cons.inj hsplit
            rw [Passage.replacedLength, hlength]
            exact hfound
          | cons first before =>
            obtain ⟨rfl, hmore⟩ := List.cons.inj hsplit
            have hlater := ih hmore
            rw [← getLast?_cons_or _ _ previous] at hlater
            rw [oldText_cons, Passage.old, List.length_append, hlength, Nat.zero_add,
              Nat.add_right_comm]
            exact hlater

/-- What is found begins at a place of the text where nothing else is replaced. -/
theorem Finder.FindsPieces.passes_of_stays (hfinds : find.FindsPieces)
    {text front piece rest : List Char} (htext : text = front ++ (piece ++ rest))
    (hstays : Stays (find.passages replacement 0 none text) front piece) :
    find.Passes front.getLast? piece rest := by
  rintro left right hright rfl
  obtain ⟨before, after, hsplit, rfl⟩ := hstays
  obtain ⟨first, right, rfl⟩ := List.exists_cons_of_ne_nil hright
  have hhere : find.passages replacement 0 none text = (before ++ left.map .kept) ++
      .kept first :: (right.map .kept ++ after) := by
    rw [hsplit]
    simp
  have hfound := hfinds.find_eq hhere
  have hdrop : text.drop (oldText (before ++ left.map .kept)).length = first :: right ++ rest := by
    rw [htext, oldText_append, oldText_kept, ← List.append_assoc, ← List.append_assoc,
      List.append_assoc, List.drop_left]
  rw [Nat.zero_add, hdrop, List.take_zero, List.nil_append, oldText_append, oldText_kept,
    List.getLast?_append, Option.or_none] at hfound
  exact hfound

/-- Where a finder recognises nothing, everything stays, if nothing that it recognises begins before and
reaches into it. -/
theorem Finder.FindsPieces.stays_of_passes (hfinds : find.FindsPieces)
    {text front rest piece : List Char} {first : Char}
    (htext : text = front ++ (first :: piece ++ rest))
    (hfirst : ∀ {previous text length}, find previous text = some length → first ∉ text.take length)
    (hpasses : find.Passes front.getLast? (first :: piece) rest) :
    Stays (find.passages replacement 0 none text) front (first :: piece) := by
  have hold : oldText (find.passages replacement 0 none text) = front ++ (first :: piece ++ rest) := by
    rw [find.oldText_passages, List.drop_zero, htext]
  refine stays_of_outside (List.cons_ne_nil _ _) hold ?_
  intro before old new after hsplit
  have hbefore : oldText before = text.take (oldText before).length := by
    rw [hsplit, oldText_append] at hold
    rw [htext, ← hold, List.take_left]
  have hfound := hfinds.find_eq hsplit
  rw [List.take_zero, List.nil_append, Nat.zero_add] at hfound
  generalize hplace : (oldText before).length = place at hbefore hfound ⊢
  by_contra hreaches
  rw [not_or, not_le, not_le] at hreaches
  by_cases hinside : front.length ≤ place
  · -- the finder would have recognised something in the piece
    obtain ⟨offset, rfl⟩ := Nat.exists_eq_add_of_le hinside
    have hoffset : offset < (first :: piece).length := by omega
    have hdrop : text.drop (front.length + offset) = (first :: piece).drop offset ++ rest := by
      rw [htext, ← List.drop_drop, List.drop_left, List.drop_append_of_le_length (by omega)]
    have htake : oldText before = front ++ (first :: piece).take offset := by
      rw [hbefore, htext, List.take_length_add_append, List.take_append_of_le_length (by omega)]
    have hnone := hpasses ((first :: piece).take offset) ((first :: piece).drop offset)
      (by rw [Ne, List.drop_eq_nil_iff]; omega) (List.take_append_drop _ _).symm
    rw [hdrop, htake, List.getLast?_append, Option.or_none, hnone] at hfound
    simp [Passage.replacedLength] at hfound
  · -- or something that reaches over the first character of the piece
    have hmem : first ∈ old := mem_of_reaches hold hsplit (by omega) (by omega)
    have hpassage : (text.drop place).take old.length = old := by
      rw [hsplit, oldText_append, oldText_cons, Passage.old, ← htext] at hold
      rw [← hold, ← hplace, List.drop_left, List.take_left]
    rw [← hpassage] at hmem
    exact hfirst hfound hmem

end

end PageGraft.Text
