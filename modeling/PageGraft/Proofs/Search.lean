import PageGraft.Proofs.Reading

/-!
# Searching a text from left to right

A search tries a finder at every place, with the character before it, and stops at the first success.
`Finder.Passes` says that a finder succeeds nowhere in a front part of a text; a search then goes on
behind that part (`firstFound_append`), and what a search finds is always of this form
(`firstFound_eq_some`).

Finders whose pieces end at a known mark do not look behind it (`Finder.Marked`). A splice makes such
a finder recognise something new in front of it only across its seam (`Finder.Marked.passes_append`).
-/

namespace PageGraft.Text

/-- A finder recognises no piece that begins in `front`, when `rest` comes behind it. -/
def Finder.Passes (find : Finder) (previous : Option Char) (front rest : List Char) : Prop :=
  ∀ left right, right ≠ [] → front = left ++ right →
    find (left.getLast?.or previous) (right ++ rest) = none

variable {find : Finder} {previous : Option Char} {front rest : List Char}

/-- The character in front of what follows. -/
theorem getLast?_cons_or (character : Char) (left : List Char) (previous : Option Char) :
    (character :: left).getLast?.or previous = left.getLast?.or (some character) := by
  rw [List.getLast?_cons]
  cases left.getLast? <;> rfl

@[simp]
theorem Finder.passes_nil : find.Passes previous [] rest := by
  intro left right hright hsplit
  exact absurd (List.append_eq_nil_iff.mp hsplit.symm).2 hright

theorem Finder.passes_cons {character : Char} :
    find.Passes previous (character :: front) rest ↔
      find previous (character :: (front ++ rest)) = none ∧
        find.Passes (some character) front rest := by
  constructor
  · intro h
    refine ⟨h [] (character :: front) (by simp) rfl, ?_⟩
    rintro left right hright rfl
    rw [← getLast?_cons_or character left previous]
    exact h (character :: left) right hright rfl
  · rintro ⟨hhere, h⟩ left right hright hsplit
    cases left with
    | nil =>
      rw [List.nil_append] at hsplit
      subst hsplit
      exact hhere
    | cons first left =>
      rw [List.cons_append, List.cons.injEq] at hsplit
      obtain ⟨rfl, hsplit⟩ := hsplit
      rw [getLast?_cons_or]
      exact h left right hright hsplit

/-- Whether a finder passes a front part can be tried at every place. -/
instance Finder.decidablePasses (find : Finder) :
    ∀ previous front rest, Decidable (find.Passes previous front rest)
  | _, [], _ => isTrue passes_nil
  | previous, character :: front, rest =>
    have := decidablePasses find (some character) front rest
    decidable_of_iff (find previous (character :: (front ++ rest)) = none ∧
      find.Passes (some character) front rest) passes_cons.symm

/-- A front part can be passed in two steps. -/
theorem Finder.passes_append {middle : List Char} :
    find.Passes previous (front ++ middle) rest ↔
      find.Passes previous front (middle ++ rest) ∧
        find.Passes (front.getLast?.or previous) middle rest := by
  induction front generalizing previous with
  | nil => simp
  | cons character front ih =>
    rw [List.cons_append, Finder.passes_cons, Finder.passes_cons, ih, getLast?_cons_or,
      List.append_assoc, and_assoc]

/-! ## Pieces that end with a mark -/

/-- A finder of words that a mark ends: a piece begins where a word can begin, is spelled in a
certain way from a letter on, and has the mark behind it and not inside. -/
structure Finder.Marked (find : Finder) (mark : Char) (Spelled : List Char → Prop) : Prop where
  isSome_iff : ∀ {previous text}, (find previous text).isSome ↔
    startsWord previous ∧ ∃ head rest, Spelled head ∧ text = head ++ mark :: rest
  not_mem : ∀ {head}, Spelled head → mark ∉ head
  isAlpha : ∀ {head}, Spelled head → ∃ first ∈ head.head?, first.isAlpha

variable {mark : Char} {Spelled : List Char → Prop}

/-- No word begins with a character that is no letter. -/
theorem Finder.Marked.eq_none_of_head (hmarked : find.Marked mark Spelled) {text : List Char}
    (hhead : ∀ character ∈ text.head?, character.isAlpha = false) : find previous text = none := by
  rw [← Option.not_isSome_iff_eq_none, hmarked.isSome_iff]
  rintro ⟨-, head, rest, hspelled, rfl⟩
  obtain ⟨first, hfirst, hletter⟩ := hmarked.isAlpha hspelled
  rw [hhead first (by simp [Option.mem_def.mp hfirst])] at hletter
  exact Bool.false_ne_true hletter

/-- No word goes on behind a character at which the finder stops: its mark, or one that no word
holds. -/
def Finder.StopsAt (mark : Char) (Spelled : List Char → Prop) (stop : Char) : Prop :=
  stop = mark ∨ ∀ head, Spelled head → stop ∉ head

/-- What stands behind the mark or another stop does not matter. -/
theorem Finder.Marked.append_eq_none (hmarked : find.Marked mark Spelled) {stop : Char}
    (hstops : StopsAt mark Spelled stop) {text after after' : List Char} (hstop : stop ∈ text)
    (hnone : find previous (text ++ after) = none) : find previous (text ++ after') = none := by
  rw [← Option.not_isSome_iff_eq_none, hmarked.isSome_iff] at hnone ⊢
  rintro ⟨hword, head, rest', hspelled, htext⟩
  by_cases hmark : mark ∈ text
  · obtain ⟨begun, back, rfl, hbegun⟩ := List.eq_append_cons_of_mem hmark
    rw [List.append_assoc, List.cons_append] at htext
    obtain ⟨rfl, -⟩ := Page.cut_unique hbegun (hmarked.not_mem hspelled) htext
    refine hnone ⟨hword, begun, back ++ after, hspelled, ?_⟩
    simp
  · -- the word would hold the whole text and the stop in it
    rcases List.append_eq_append_iff.mp htext with ⟨middle, rfl, -⟩ | ⟨middle, rfl, hmiddle⟩
    · rcases hstops with rfl | hstops
      · exact hmark hstop
      · exact hstops _ hspelled (List.mem_append_left _ hstop)
    · cases middle with
      | nil =>
        rcases hstops with rfl | hstops
        · exact hmark hstop
        · exact hstops _ hspelled (by simpa using hstop)
      | cons first middle =>
        rw [List.cons_append, List.cons.injEq] at hmiddle
        exact hmark (by simp [hmiddle.1])

/-- A front part whose last characters are a stop and then no letters is passed whatever stands
behind. -/
theorem Finder.Marked.passes_of_stop (hmarked : find.Marked mark Spelled) {stop : Char}
    (hstops : StopsAt mark Spelled stop) {begun tail after after' : List Char}
    (hletter : (stop :: tail).all fun character => !character.isAlpha)
    (hpasses : find.Passes previous (begun ++ stop :: tail) after) :
    find.Passes previous (begun ++ stop :: tail) after' := by
  intro left right hright hsplit
  by_cases hstop : stop ∈ right
  · exact hmarked.append_eq_none hstops hstop (hpasses left right hright hsplit)
  · -- the place is behind the stop
    refine hmarked.eq_none_of_head ?_
    intro character hcharacter
    have hmem : character ∈ right := by
      obtain ⟨first, rest, rfl⟩ := List.exists_cons_of_ne_nil hright
      obtain rfl : first = character := by simpa using hcharacter
      exact List.mem_cons_self
    have htail : character ∈ stop :: tail := by
      rcases List.append_eq_append_iff.mp hsplit with ⟨middle, -, htail⟩ | ⟨middle, -, rfl⟩
      · rw [htail]
        exact List.mem_append_right _ hmem
      · exact absurd (by simp) hstop
    simpa using List.all_eq_true.mp hletter character htail

/-- No word goes on from a front part over a stop that comes before the first mark. -/
theorem Finder.Marked.passes_append_stop (hmarked : find.Marked mark Spelled) {stop : Char}
    (hstops : ∀ head, Spelled head → stop ∉ head) (hmarkStop : stop ≠ mark)
    {begun after : List Char} (hpasses : find.Passes previous front rest) (hbegun : mark ∉ begun) :
    find.Passes previous front (begun ++ stop :: after) := by
  intro left right hright hsplit
  by_cases hmark : mark ∈ right
  · exact hmarked.append_eq_none (.inl rfl) hmark (hpasses left right hright hsplit)
  · rw [← Option.not_isSome_iff_eq_none, hmarked.isSome_iff]
    rintro ⟨-, head, behind, hspelled, htext⟩
    have hnone : mark ∉ (right ++ begun) ++ [stop] := by simp [hmark, hbegun, hmarkStop.symm]
    have htext : ((right ++ begun) ++ [stop]) ++ after = head ++ mark :: behind := by
      rw [← htext]
      simp
    rcases List.append_eq_append_iff.mp htext with ⟨middle, rfl, -⟩ | ⟨middle, hhead, hmiddle⟩
    · exact hstops _ hspelled (by simp)
    · cases middle with
      | nil =>
        rw [List.append_nil] at hhead
        exact hstops _ hspelled (by simp [← hhead])
      | cons first middle =>
        rw [List.cons_append, List.cons.injEq] at hmiddle
        rw [hhead] at hnone
        exact hnone (by simp [hmiddle.1])

/-- Behind another character words begin no more than before, or a part that begins with no letter
follows. -/
theorem Finder.Marked.passes_of_previous (hmarked : find.Marked mark Spelled)
    {previous' : Option Char}
    (hprevious : (∀ character ∈ (front ++ rest).head?, character.isAlpha = false) ∨
      (startsWord previous' → startsWord previous))
    (hpasses : find.Passes previous front rest) : find.Passes previous' front rest := by
  cases front with
  | nil => exact Finder.passes_nil
  | cons character front =>
    rw [Finder.passes_cons] at hpasses ⊢
    refine ⟨?_, hpasses.2⟩
    rcases hprevious with hletter | hword
    · exact hmarked.eq_none_of_head hletter
    · have hnone := hpasses.1
      rw [← Option.not_isSome_iff_eq_none, hmarked.isSome_iff] at hnone ⊢
      rintro ⟨hbegins, hspelled⟩
      exact hnone ⟨hword hbegins, hspelled⟩

/-- A front part that is passed up to a mark is passed whatever stands behind the mark. -/
theorem Finder.Marked.passes_of_passes (hmarked : find.Marked mark Spelled)
    {head after after' : List Char} (hpasses : find.Passes previous front (head ++ mark :: after)) :
    find.Passes previous front (head ++ mark :: after') := by
  intro left right hright hsplit
  have hsame : ∀ rest : List Char,
      right ++ (head ++ mark :: rest) = (right ++ (head ++ [mark])) ++ rest := by simp
  have hnone := hpasses left right hright hsplit
  rw [hsame] at hnone ⊢
  exact hmarked.append_eq_none (.inl rfl) (by simp) hnone

/-- A piece put behind a front part makes no word begin there, if no word goes on from the front
part to the first mark of the piece. The `gap` is put in together with the piece. -/
theorem Finder.Marked.passes_append (hmarked : find.Marked mark Spelled)
    {gap head after : List Char} (hpasses : find.Passes previous front rest)
    (hgap : mark ∉ gap) (hhead : mark ∉ head)
    (hseam : ∀ left right, right ≠ [] → front ++ gap = left ++ right →
      startsWord (left.getLast?.or previous) → ¬ Spelled (right ++ head)) :
    find.Passes previous (front ++ gap) (head ++ mark :: after) := by
  intro left right hright hsplit
  by_cases hmark : mark ∈ right
  · -- the word would end in front of the gap
    rcases List.append_eq_append_iff.mp hsplit with ⟨middle, rfl, rfl⟩ | ⟨middle, rfl, rfl⟩
    · exact absurd (List.mem_append_right _ hmark) hgap
    · have hmiddle : mark ∈ middle := by simpa [hgap] using hmark
      have hnone := hpasses left middle (List.ne_nil_of_mem hmiddle) rfl
      rw [List.append_assoc]
      exact hmarked.append_eq_none (.inl rfl) hmiddle hnone
  · rw [← Option.not_isSome_iff_eq_none, hmarked.isSome_iff]
    rintro ⟨hword, longer, behind, hspelled, htext⟩
    have hnone : mark ∉ right ++ head := by simp [hmark, hhead]
    rw [← List.append_assoc] at htext
    obtain ⟨rfl, -⟩ := Page.cut_unique hnone (hmarked.not_mem hspelled) htext
    exact hseam left right hright hsplit hword hspelled

end PageGraft.Text

namespace PageGraft.Page

open PageGraft.Text

variable {find : Finder} {previous : Option Char}

/-- A search ends where the finder succeeds. -/
theorem firstFound_of_some {text : List Char} {length : Nat}
    (hhere : find previous text = some length) : firstFound find previous text = some (0, length) := by
  rw [firstFound.eq_def]
  dsimp only
  rw [hhere]

/-- A search fails at the end of a text. -/
theorem firstFound_nil (hhere : find previous [] = none) : firstFound find previous [] = none := by
  rw [firstFound.eq_def]
  dsimp only
  rw [hhere]

/-- A search goes on behind a character at which the finder fails. -/
theorem firstFound_cons {character : Char} {rest : List Char}
    (hhere : find previous (character :: rest) = none) :
    firstFound find previous (character :: rest) =
      (firstFound find (some character) rest).map fun (start, stop) => (start + 1, stop + 1) := by
  rw [firstFound.eq_def]
  dsimp only
  rw [hhere]

/-- A search goes on behind the front part that the finder passes. -/
theorem firstFound_append {front rest : List Char} (hpasses : find.Passes previous front rest) :
    firstFound find previous (front ++ rest) =
      (firstFound find (front.getLast?.or previous) rest).map fun (start, stop) =>
        (front.length + start, front.length + stop) := by
  induction front generalizing previous with
  | nil => simp
  | cons character front ih =>
    obtain ⟨hhere, htail⟩ := Finder.passes_cons.mp hpasses
    rw [List.cons_append, firstFound_cons hhere, getLast?_cons_or]
    simp only [ih htail, Option.map_map, List.length_cons]
    congr 1
    funext ⟨start, stop⟩
    simp only [Function.comp, Prod.mk.injEq]
    omega

/-- What a search finds: the piece that the finder recognises behind a front part that it passes. -/
theorem firstFound_eq_some {text : List Char} {start stop : Nat} :
    firstFound find previous text = some (start, stop) ↔
      ∃ front rest length, text = front ++ rest ∧ find.Passes previous front rest ∧
        find (front.getLast?.or previous) rest = some length ∧
        start = front.length ∧ stop = front.length + length := by
  constructor
  · intro h
    induction text generalizing previous start stop with
    | nil =>
      cases hhere : find previous [] with
      | some length =>
        obtain ⟨rfl, rfl⟩ : 0 = start ∧ length = stop := by
          simpa [firstFound_of_some hhere] using h
        exact ⟨[], [], length, rfl, Finder.passes_nil, by simpa using hhere, rfl, by simp⟩
      | none => simp [firstFound_nil hhere] at h
    | cons character text ih =>
      cases hhere : find previous (character :: text) with
      | some length =>
        obtain ⟨rfl, rfl⟩ : 0 = start ∧ length = stop := by
          simpa [firstFound_of_some hhere] using h
        exact ⟨[], character :: text, length, rfl, Finder.passes_nil, by simpa using hhere, rfl,
          by simp⟩
      | none =>
        rw [firstFound_cons hhere] at h
        obtain ⟨⟨start', stop'⟩, hfound, hshift⟩ := Option.map_eq_some_iff.mp h
        obtain ⟨rfl, rfl⟩ : start' + 1 = start ∧ stop' + 1 = stop := by simpa using hshift
        obtain ⟨front, rest, length, rfl, hpasses, hlength, rfl, rfl⟩ := ih hfound
        refine ⟨character :: front, rest, length, rfl, ?_, ?_, by simp, by simp; omega⟩
        · exact Finder.passes_cons.mpr ⟨hhere, hpasses⟩
        · rw [getLast?_cons_or, hlength]
  · rintro ⟨front, rest, length, rfl, hpasses, hlength, rfl, rfl⟩
    rw [firstFound_append hpasses, firstFound_of_some hlength]
    rfl

/-- A search without result has passed the whole text. -/
theorem passes_of_firstFound_eq_none {text : List Char}
    (hnone : firstFound find previous text = none) : find.Passes previous text [] := by
  induction text generalizing previous with
  | nil => exact Finder.passes_nil
  | cons character text ih =>
    cases hhere : find previous (character :: text) with
    | some length => simp [firstFound_of_some hhere] at hnone
    | none =>
      rw [firstFound_cons hhere, Option.map_eq_none_iff] at hnone
      rw [Finder.passes_cons, List.append_nil]
      exact ⟨hhere, ih hnone⟩

/-- A search fails exactly if it has passed the whole text, for finders that find nothing at the
end. -/
theorem firstFound_eq_none {text : List Char} (hend : ∀ previous, find previous [] = none) :
    firstFound find previous text = none ↔ find.Passes previous text [] := by
  refine ⟨passes_of_firstFound_eq_none, ?_⟩
  intro hpasses
  rw [← List.append_nil text, firstFound_append hpasses, firstFound_nil (hend _)]
  rfl

end PageGraft.Page
