import PageGraft.Proofs.Search

/-!
# Where the state region ends

The readers of region comments only take text off the front of a text, so that the end of a region is
where the search for a terminator stopped: in front of a newline (`drop_stop_of_findStateRegion`).
-/

namespace PageGraft.Page

open PageGraft.Text PageGraft.Script PageGraft.Settings

theorem dropCaseless_suffix {piece text rest : List Char}
    (hrest : dropCaseless piece text = some rest) : rest <:+ text := by
  induction piece generalizing text with
  | nil =>
    obtain rfl : text = rest := by simpa [dropCaseless] using hrest
    exact List.suffix_refl _
  | cons letter piece ih =>
    cases text with
    | nil => simp [dropCaseless] at hrest
    | cons character text =>
      rw [dropCaseless] at hrest
      split at hrest
      · exact (ih hrest).trans (List.suffix_cons _ _)
      · simp at hrest

theorem afterWords_suffix {words : List (List Char)} {text rest : List Char}
    (hrest : afterWords words text = some rest) : rest <:+ text := by
  induction words generalizing text with
  | nil =>
    obtain rfl : text = rest := by simpa [afterWords] using hrest
    exact List.suffix_refl _
  | cons word words ih =>
    simp only [afterWords, Option.bind_eq_bind, Option.bind_eq_some_iff] at hrest
    obtain ⟨spaced, hspaced, behind, hword, hrest⟩ := hrest
    obtain ⟨-, gap, -, -, rfl⟩ := dropSpaces?_eq_some.mp hspaced
    exact ((ih hrest).trans (dropCaseless_suffix hword)).trans (List.suffix_append _ _)

theorem afterRegionComment_suffix {words : List (List Char)} {text rest : List Char}
    (hrest : rest ∈ afterRegionComment words text) : rest <:+ text := by
  unfold afterRegionComment at hrest
  split at hrest
  · simp at hrest
  · rename_i behind hslashes
    obtain rfl := dropPiece_eq_some.mp hslashes
    refine List.IsSuffix.trans ?_ (List.suffix_append _ _)
    split at hrest
    · rw [List.mem_append, List.mem_singleton] at hrest
      rcases hrest with hspaced | rfl
      · obtain ⟨gap, -, -, rfl⟩ := mem_afterSpaces.mp hspaced
        exact List.suffix_append _ _
      · exact List.suffix_refl _
    · rw [Option.mem_toList, Option.bind_eq_some_iff] at hrest
      obtain ⟨spoken, hword, hwords⟩ := hrest
      exact ((afterWords_suffix hwords).trans (dropCaseless_suffix hword)).trans
        (List.dropWhile_suffix _)

theorem endsRegion_of_regionDistance {terminators : List (List Char)} {text : List Char}
    {distance : Nat} (hdistance : regionDistance terminators text = some distance) :
    endsRegion terminators (text.drop distance) := by
  induction text generalizing distance with
  | nil => simp [regionDistance] at hdistance
  | cons character rest ih =>
    rw [regionDistance] at hdistance
    split at hdistance
    · rename_i hends
      obtain rfl : 0 = distance := by simpa using hdistance
      exact hends
    · obtain ⟨inner, hinner, rfl⟩ := Option.map_eq_some_iff.mp hdistance
      rw [List.drop_succ_cons]
      exact ih hinner

theorem endsRegion_of_stateRegion {words terminators : List (List Char)} {previous : Option Char}
    {text : List Char} {length : Nat}
    (hlength : stateRegion words terminators previous text = some length) :
    endsRegion terminators (text.drop length) := by
  obtain ⟨rest, hrest, hdistance⟩ := List.exists_of_findSome?_eq_some hlength
  obtain ⟨distance, hfound, rfl⟩ := Option.map_eq_some_iff.mp hdistance
  obtain ⟨front, rfl⟩ := afterRegionComment_suffix hrest
  rw [List.length_append, Nat.add_sub_cancel, ← List.drop_drop, List.drop_left]
  exact endsRegion_of_regionDistance hfound

/-- A region ends in front of a newline. -/
theorem drop_stop_of_findStateRegion {settings : PatcherSettings} {page : List Char}
    {start stop : Nat} (hregion : findStateRegion settings page = some (start, stop)) :
    ∃ below, page.drop stop = '\n' :: below := by
  obtain ⟨front, rest, length, rfl, -, hlength, rfl, rfl⟩ := firstFound_eq_some.mp hregion
  have hends := endsRegion_of_stateRegion hlength
  rw [← List.drop_drop, List.drop_left]
  cases hdrop : rest.drop length with
  | nil => simp [hdrop, endsRegion] at hends
  | cons character below =>
    rw [hdrop] at hends
    by_cases hnewline : character = '\n'
    · exact ⟨below, by rw [hnewline]⟩
    · simp [endsRegion, hnewline] at hends

/-! ## Readers that stop -/

/-- A reader that takes nothing off a text behind a certain character, nor looks there. -/
def StopsBefore (stop : Char) (read : List Char → Option (List Char)) : Prop :=
  ∀ front after rest, read (front ++ stop :: after) = some rest →
    ∃ left, rest = left ++ stop :: after ∧
      ∀ after', read (front ++ stop :: after') = some (left ++ stop :: after')

variable {stop : Char}

theorem StopsBefore.bind {first second : List Char → Option (List Char)}
    (hfirst : StopsBefore stop first) (hsecond : StopsBefore stop second) :
    StopsBefore stop fun text => (first text).bind second := by
  intro front after rest hread
  obtain ⟨between, hbetween, hrest⟩ := Option.bind_eq_some_iff.mp hread
  obtain ⟨middle, rfl, hmiddle⟩ := hfirst _ _ _ hbetween
  obtain ⟨left, rfl, hleft⟩ := hsecond _ _ _ hrest
  refine ⟨left, rfl, ?_⟩
  intro after'
  show (first (front ++ stop :: after')).bind second = _
  rw [hmiddle, Option.bind_some, hleft]

theorem stopsBefore_dropPiece {piece : List Char} (hstop : stop ∉ piece) :
    StopsBefore stop (dropPiece piece) := by
  intro front after rest hread
  have htext := dropPiece_eq_some.mp hread
  rcases List.append_eq_append_iff.mp htext with ⟨middle, hpiece, hmiddle⟩ | ⟨left, rfl, rfl⟩
  · -- the piece would hold the stop, or end right in front of it
    cases middle with
    | nil =>
      obtain rfl : rest = stop :: after := by simpa using hmiddle.symm
      refine ⟨[], rfl, ?_⟩
      intro after'
      exact dropPiece_eq_some.mpr (by simp [hpiece])
    | cons first middle =>
      rw [List.cons_append, List.cons.injEq] at hmiddle
      exact absurd (by simp [hpiece, hmiddle.1]) hstop
  · refine ⟨left, rfl, ?_⟩
    intro after'
    exact dropPiece_eq_some.mpr (by simp)

theorem stopsBefore_dropCaseless {piece : List Char}
    (hstop : ∀ letter ∈ piece, sameLetter letter stop = false) :
    StopsBefore stop (dropCaseless piece) := by
  induction piece with
  | nil =>
    intro front after rest hread
    obtain rfl : front ++ stop :: after = rest := by simpa [dropCaseless] using hread
    exact ⟨front, rfl, fun _ => rfl⟩
  | cons letter piece ih =>
    intro front after rest hread
    cases front with
    | nil => simp [dropCaseless, hstop letter List.mem_cons_self] at hread
    | cons character front =>
      rw [List.cons_append, dropCaseless] at hread
      split at hread
      · rename_i hsame
        have hlater : ∀ other ∈ piece, sameLetter other stop = false := by
          intro other hother
          exact hstop other (List.mem_cons_of_mem _ hother)
        obtain ⟨left, hrest, hleft⟩ := ih hlater _ _ _ hread
        refine ⟨left, hrest, ?_⟩
        intro after'
        rw [List.cons_append, dropCaseless, if_pos hsame, hleft]
      · simp at hread

theorem stopsBefore_dropWhile (hstop : isSpace stop = false) :
    StopsBefore stop fun text => some (text.dropWhile isSpace) := by
  have hdrop : ∀ front after, (front ++ stop :: after).dropWhile isSpace =
      front.dropWhile isSpace ++ stop :: after := by
    intro front after
    rw [List.dropWhile_append]
    split
    · rename_i hempty
      rw [List.isEmpty_iff.mp hempty]
      simp [hstop]
    · rfl
  intro front after rest hread
  refine ⟨front.dropWhile isSpace, ?_, ?_⟩
  · rw [← hdrop]
    simpa using hread.symm
  · intro after'
    exact congrArg some (hdrop front after')

theorem stopsBefore_dropSpaces (hstop : isSpace stop = false) : StopsBefore stop dropSpaces? := by
  intro front after rest hread
  obtain ⟨hhead, gap, hgap, hspaces, htext⟩ := dropSpaces?_eq_some.mp hread
  rcases List.append_eq_append_iff.mp htext with ⟨middle, hgap', hmiddle⟩ | ⟨left, rfl, rfl⟩
  · cases middle with
    | nil =>
      obtain rfl : rest = stop :: after := by simpa using hmiddle.symm
      obtain rfl : gap = front := by simpa using hgap'
      refine ⟨[], rfl, ?_⟩
      intro after'
      exact dropSpaces?_eq_some.mpr ⟨by simp [hstop], gap, hgap, hspaces, rfl⟩
    | cons first middle =>
      rw [List.cons_append, List.cons.injEq] at hmiddle
      have hspace := List.all_eq_true.mp hspaces first (by simp [hgap'])
      rw [← hmiddle.1, hstop] at hspace
      exact absurd hspace Bool.false_ne_true
  · refine ⟨left, rfl, ?_⟩
    intro after'
    refine dropSpaces?_eq_some.mpr ⟨?_, gap, hgap, hspaces, by simp⟩
    cases left with
    | nil => simp [hstop]
    | cons first left => simpa using hhead

theorem stopsBefore_afterWords {words : List (List Char)} (hspace : isSpace stop = false)
    (hstop : ∀ word ∈ words, ∀ letter ∈ word, sameLetter letter stop = false) :
    StopsBefore stop (afterWords words) := by
  induction words with
  | nil =>
    intro front after rest hread
    obtain rfl : front ++ stop :: after = rest := by simpa [afterWords] using hread
    exact ⟨front, rfl, fun _ => rfl⟩
  | cons word words ih =>
    have hword := stopsBefore_dropCaseless (hstop word List.mem_cons_self)
    have hwords := ih fun other hother => hstop other (List.mem_cons_of_mem _ hother)
    exact (stopsBefore_dropSpaces hspace).bind (hword.bind hwords)

/-! ## Comments and ends of regions -/

/-- Finds the comment that begins a state region. -/
def regionComment (words : List (List Char)) : Finder := fun _ text =>
  (afterRegionComment words text).head?.map fun rest => text.length - rest.length

/-- Finds the newline that ends a state region. -/
def regionEnd (terminators : List (List Char)) : Finder := fun _ text =>
  if endsRegion terminators text then some 1 else none

variable {words terminators : List (List Char)} {previous : Option Char}

theorem regionEnd_eq_none {text : List Char} :
    regionEnd terminators previous text = none ↔ endsRegion terminators text = false := by
  simp [regionEnd]

theorem regionDistance_eq_none {text : List Char} :
    regionDistance terminators text = none ↔ (regionEnd terminators).Passes previous text [] := by
  induction text generalizing previous with
  | nil => simp [regionDistance]
  | cons character rest ih =>
    rw [regionDistance, Finder.passes_cons, List.append_nil, regionEnd_eq_none]
    split
    · rename_i hends
      simp [hends]
    · rename_i hends
      rw [Option.map_eq_none_iff, @ih (some character)]
      simp [hends]

/-- No region begins at a place exactly if none ends behind a comment there. -/
theorem stateRegion_eq_none {text : List Char} :
    stateRegion words terminators previous text = none ↔
      ∀ rest ∈ afterRegionComment words text, (regionEnd terminators).Passes none rest [] := by
  unfold stateRegion
  simp only [List.findSome?_eq_none_iff, Option.map_eq_none_iff, @regionDistance_eq_none _ none]

theorem afterRegionComment_eq_nil {text : List Char} :
    afterRegionComment words text = [] ↔ regionComment words previous text = none := by
  simp [regionComment]

/-- A comment begins with a slash. -/
theorem afterRegionComment_of_head {text : List Char}
    (hhead : ∀ character ∈ text.head?, character ≠ '/') : afterRegionComment words text = [] := by
  have hslashes : dropPiece "//".toList text = none := by
    rw [Option.eq_none_iff_forall_ne_some]
    intro rest hrest
    refine hhead '/' ?_ rfl
    rw [dropPiece_eq_some.mp hrest]
    rfl
  rw [afterRegionComment, hslashes]

/-- Behind a stop of its words, a region comment does not look. -/
theorem mem_afterRegionComment_stop {front after rest : List Char} (hspace : isSpace stop = false)
    (hslash : stop ≠ '/') (hwords : words ≠ [])
    (hstop : ∀ word ∈ words, ∀ letter ∈ word, sameLetter letter stop = false)
    (hrest : rest ∈ afterRegionComment words (front ++ stop :: after)) :
    ∃ left, rest = left ++ stop :: after ∧
      ∀ after', left ++ stop :: after' ∈ afterRegionComment words (front ++ stop :: after') := by
  obtain ⟨word, words, rfl⟩ := List.exists_cons_of_ne_nil hwords
  have hread : ∀ text rest, rest ∈ afterRegionComment (word :: words) text ↔
      ((dropPiece "//".toList text).bind fun behind =>
        (some (behind.dropWhile isSpace)).bind fun spoken =>
          (dropCaseless word spoken).bind (afterWords words)) = some rest := by
    intro text rest
    unfold afterRegionComment
    cases dropPiece "//".toList text with
    | none => simp
    | some behind => simp
  have hslashes : StopsBefore stop (dropPiece "//".toList) :=
    stopsBefore_dropPiece (by simp [hslash])
  have hword := stopsBefore_dropCaseless (hstop word List.mem_cons_self)
  have hlater := stopsBefore_afterWords hspace
    fun other hother => hstop other (List.mem_cons_of_mem _ hother)
  have hreader := hslashes.bind ((stopsBefore_dropWhile hspace).bind (hword.bind hlater))
  obtain ⟨left, rfl, hleft⟩ := hreader _ _ _ ((hread _ _).mp hrest)
  exact ⟨left, rfl, fun after' => (hread _ _).mpr (hleft after')⟩

theorem endsRegion_eq_true {text : List Char} :
    endsRegion terminators text ↔
      ∃ gap tail, text = '\n' :: (gap ++ tail) ∧ gap.all isSpace ∧
        ∃ terminator ∈ terminators, (dropCaseless terminator tail).isSome := by
  have htails : ∀ rest tail : List Char, tail ∈ afterSpaces rest ++ [rest] ↔
      ∃ gap, rest = gap ++ tail ∧ gap.all isSpace := by
    intro rest tail
    rw [List.mem_append, mem_afterSpaces, List.mem_singleton]
    constructor
    · rintro (⟨gap, -, hspaces, rfl⟩ | rfl)
      · exact ⟨gap, rfl, hspaces⟩
      · exact ⟨[], rfl, rfl⟩
    · rintro ⟨gap, rfl, hspaces⟩
      cases gap with
      | nil => exact .inr rfl
      | cons space gap => exact .inl ⟨space :: gap, by simp, hspaces, rfl⟩
  unfold endsRegion
  split
  · rename_i rest
    simp only [List.any_eq_true, htails]
    constructor
    · rintro ⟨tail, ⟨gap, rfl, hspaces⟩, hterminator⟩
      exact ⟨gap, tail, rfl, hspaces, hterminator⟩
    · rintro ⟨gap, tail, htext, hspaces, hterminator⟩
      exact ⟨tail, ⟨gap, (List.cons.inj htext).2, hspaces⟩, hterminator⟩
  · rename_i hnewline
    simp only [Bool.false_eq_true, false_iff, not_exists, not_and]
    rintro gap tail rfl
    exact absurd rfl (hnewline _)

/-- Behind a stop of the terminators, the end of a region does not look. -/
theorem endsRegion_stop {front after after' : List Char} (hspace : isSpace stop = false)
    (hstop : ∀ terminator ∈ terminators, ∀ letter ∈ terminator, sameLetter letter stop = false)
    (hends : endsRegion terminators (front ++ stop :: after)) :
    endsRegion terminators (front ++ stop :: after') := by
  obtain ⟨gap, tail, htext, hspaces, terminator, hmem, hterminator⟩ := endsRegion_eq_true.mp hends
  have hnewline : StopsBefore stop (dropPiece ['\n']) := by
    refine stopsBefore_dropPiece ?_
    rw [List.mem_singleton]
    rintro rfl
    exact absurd hspace (by decide)
  obtain ⟨behind, hbehind, hfront⟩ := hnewline front after _ (dropPiece_eq_some.mpr htext)
  have hgap : ∃ left, behind = gap ++ left ∧ tail = left ++ stop :: after := by
    rcases List.append_eq_append_iff.mp hbehind with ⟨left, rfl, rfl⟩ | ⟨middle, rfl, hmiddle⟩
    · exact ⟨left, rfl, rfl⟩
    · cases middle with
      | nil => exact ⟨[], by simp, by simpa using hmiddle.symm⟩
      | cons first middle =>
        rw [List.cons_append, List.cons.injEq] at hmiddle
        have hfirst := List.all_eq_true.mp hspaces first (by simp)
        rw [← hmiddle.1, hspace] at hfirst
        exact absurd hfirst Bool.false_ne_true
  obtain ⟨left, rfl, rfl⟩ := hgap
  obtain ⟨rest, hrest⟩ := Option.isSome_iff_exists.mp hterminator
  obtain ⟨final, -, hfinal⟩ := stopsBefore_dropCaseless (hstop terminator hmem) _ _ _ hrest
  refine endsRegion_eq_true.mpr ⟨gap, left ++ stop :: after', ?_, hspaces, terminator, hmem, ?_⟩
  · rw [dropPiece_eq_some.mp (hfront after'), List.append_assoc]
    rfl
  · rw [hfinal]
    rfl

/-! ## Regions and new initial values -/

/-- A place in a text that ends with a stop and blanks is in front of the stop or in the blanks. -/
theorem stop_mem_or_isBlank {front blanks left right : List Char} (hblanks : blanks.all isBlank)
    (hright : right ≠ []) (hsplit : front ++ stop :: blanks = left ++ right) :
    (∃ middle, right = middle ++ stop :: blanks) ∨ ∃ blank rest, right = blank :: rest ∧ isBlank blank := by
  rcases List.append_eq_append_iff.mp hsplit with ⟨middle, -, hmiddle⟩ | ⟨middle, -, rfl⟩
  · cases middle with
    | nil => exact .inl ⟨[], hmiddle.symm⟩
    | cons first middle =>
      rw [List.cons_append, List.cons.injEq] at hmiddle
      obtain ⟨blank, rest, rfl⟩ := List.exists_cons_of_ne_nil hright
      refine .inr ⟨blank, rest, rfl, List.all_eq_true.mp hblanks blank ?_⟩
      rw [hmiddle.2]
      simp
  · exact .inl ⟨middle, rfl⟩

/-- No end of a region appears in front of a stop and blanks when the text behind changes. -/
theorem regionEnd_passes_stop {front blanks after after' : List Char}
    (hspace : isSpace stop = false) (hblanks : blanks.all isBlank)
    (hstop : ∀ terminator ∈ terminators, ∀ letter ∈ terminator, sameLetter letter stop = false)
    (hpasses : (regionEnd terminators).Passes previous (front ++ stop :: blanks) after) :
    (regionEnd terminators).Passes previous (front ++ stop :: blanks) after' := by
  intro left right hright hsplit
  have hbefore := hpasses left right hright hsplit
  rw [regionEnd_eq_none] at hbefore ⊢
  rcases stop_mem_or_isBlank hblanks hright hsplit with ⟨middle, rfl⟩ | ⟨blank, rest, rfl, hblank⟩
  · rw [← Bool.not_eq_true] at hbefore ⊢
    intro hends
    rw [List.append_assoc, List.cons_append] at hends hbefore
    exact hbefore (endsRegion_stop hspace hstop hends)
  · have hnewline : blank ≠ '\n' := by
      rintro rfl
      exact absurd hblank (by decide)
    simp [endsRegion, hnewline]

/-- A piece without a region comment and without the end of a region makes no state region when it
is put behind a stop and blanks in a page without one. -/
theorem stateRegion_passes_change {front blanks old piece rest : List Char}
    (hspace : isSpace stop = false) (hslash : stop ≠ '/') (hblanks : blanks.all isBlank)
    (hwords : words ≠ [])
    (hstopWords : ∀ word ∈ words, ∀ letter ∈ word, sameLetter letter stop = false)
    (hstop : ∀ terminator ∈ terminators, ∀ letter ∈ terminator, sameLetter letter stop = false)
    (hcomment : (regionComment words).Passes previous piece rest)
    (hends : (regionEnd terminators).Passes previous piece rest)
    (hpage : (stateRegion words terminators).Passes none
      (front ++ stop :: blanks ++ (old ++ rest)) []) :
    (stateRegion words terminators).Passes none (front ++ stop :: blanks ++ (piece ++ rest)) [] := by
  obtain ⟨hfront, hbehind⟩ := Finder.passes_append.mp hpage
  have hrest : ∀ previous, (stateRegion words terminators).Passes previous rest [] :=
    fun _ => (Finder.passes_append.mp hbehind).2
  refine Finder.passes_append.mpr ⟨?_, Finder.passes_append.mpr ⟨?_, hrest _⟩⟩
  · intro left right hright hsplit
    have hbefore := hfront left right hright hsplit
    rw [List.append_nil] at hbefore ⊢
    rw [stateRegion_eq_none] at hbefore ⊢
    intro spoken hspoken
    rcases stop_mem_or_isBlank hblanks hright hsplit with
      ⟨middle, rfl⟩ | ⟨blank, more, rfl, hblank⟩
    · rw [List.append_assoc, List.cons_append] at hspoken hbefore
      obtain ⟨left', rfl, hmem⟩ :=
        mem_afterRegionComment_stop hspace hslash hwords hstopWords hspoken
      have hold := hbefore _ (hmem (blanks ++ (old ++ rest)))
      have hsame : ∀ text : List Char, left' ++ stop :: (blanks ++ (text ++ rest)) =
          (left' ++ stop :: blanks) ++ (text ++ rest) := by simp
      rw [hsame, Finder.passes_append] at hold ⊢
      obtain ⟨hleft, hlater⟩ := hold
      have hlast : ∀ previous, (regionEnd terminators).Passes previous rest [] :=
        fun _ => (Finder.passes_append.mp hlater).2
      refine ⟨regionEnd_passes_stop hspace hblanks hstop hleft,
        Finder.passes_append.mpr ⟨?_, hlast _⟩⟩
      rw [List.append_nil]
      exact hends
    · have hnone : afterRegionComment words ((blank :: more) ++ (piece ++ rest)) = [] := by
        refine afterRegionComment_of_head ?_
        intro character hcharacter
        obtain rfl : blank = character := by simpa using hcharacter
        rintro rfl
        exact absurd hblank (by decide)
      rw [hnone] at hspoken
      exact absurd hspoken List.not_mem_nil
  · intro left right hright hsplit
    have hnone := afterRegionComment_eq_nil.mpr (hcomment left right hright hsplit)
    rw [List.append_nil, stateRegion_eq_none, hnone]
    intro spoken hspoken
    exact absurd hspoken List.not_mem_nil

end PageGraft.Page
