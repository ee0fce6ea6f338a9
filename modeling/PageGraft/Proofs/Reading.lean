import Mathlib
import PageGraft.Page.StateVariable

/-!
# What the small readers read

The headers of functions and state variables are read by a few small readers: a fixed piece, white
space, a name up to a mark. Each of them is described here by how it takes a text apart, so that no
later proof opens a reader.

* `dropPiece_eq_some`, `dropSpaces?_eq_some` and `mem_afterSpaces` describe the readers of pieces and
  white space.
* `beforeMark_eq_some` describes the reader of a name between white space. The reader tries several
  lengths of white space in front of the name; `rest_unique` says that they all lead to one place.
* The last group cuts texts at a mark that occurs only at the end of what is read.
-/

namespace PageGraft.Page

open PageGraft.Text PageGraft.Script

/-! ## Pieces and white space -/

theorem dropPiece_eq_some {piece text rest : List Char} :
    dropPiece piece text = some rest ↔ text = piece ++ rest := by
  unfold dropPiece
  split
  · rename_i hprefix
    obtain ⟨tail, rfl⟩ := List.isPrefixOf_iff_prefix.mp hprefix
    simp
  · rename_i hprefix
    constructor
    · intro h
      simp at h
    · rintro rfl
      exact absurd (List.isPrefixOf_iff_prefix.mpr (List.prefix_append _ _)) hprefix

theorem dropWhile_of_head {drops : Char → Bool} {text : List Char}
    (hhead : ∀ character ∈ text.head?, drops character = false) :
    text.dropWhile drops = text := by
  cases text with
  | nil => rfl
  | cons character rest => simp [hhead character (by simp)]

theorem dropWhile_append_of_head {drops : Char → Bool} {run text : List Char}
    (hrun : run.all drops) (hhead : ∀ character ∈ text.head?, drops character = false) :
    (run ++ text).dropWhile drops = text := by
  rw [List.dropWhile_append_of_pos (List.all_eq_true.mp hrun), dropWhile_of_head hhead]

theorem takeWhile_append_of_head {takes : Char → Bool} {run text : List Char}
    (hrun : run.all takes) (hhead : ∀ character ∈ text.head?, takes character = false) :
    (run ++ text).takeWhile takes = run := by
  rw [List.takeWhile_append_of_pos (List.all_eq_true.mp hrun)]
  cases text with
  | nil => simp
  | cons character rest => simp [hhead character (by simp)]

theorem head?_dropWhile_eq_false {drops : Char → Bool} {text : List Char} :
    ∀ character ∈ (text.dropWhile drops).head?, drops character = false := by
  intro character hcharacter
  have hnot := List.head?_dropWhile_not drops text
  rw [Option.mem_def.mp hcharacter] at hnot
  simpa using hnot

theorem all_leadingBlanks {text : List Char} : (leadingBlanks text).all isBlank := by
  simp [leadingBlanks]

theorem all_isSpace_of_isBlank {blanks : List Char} (hblanks : blanks.all isBlank) :
    blanks.all isSpace := by
  rw [List.all_eq_true] at hblanks ⊢
  exact fun character hmem => isSpace_of_isBlank (hblanks character hmem)

theorem newline_not_mem_of_isBlank {blanks : List Char} (hblanks : blanks.all isBlank) :
    '\n' ∉ blanks :=
  fun hmem => absurd (List.all_eq_true.mp hblanks _ hmem) (by decide)

/-- What is dropped at the end of a text can be put back. -/
theorem dropEndWhile_append (drops : Char → Bool) (text : List Char) :
    ∃ run, run.all drops ∧ dropEndWhile drops text ++ run = text := by
  refine ⟨(text.reverse.takeWhile drops).reverse, by simp, ?_⟩
  rw [dropEndWhile, ← List.reverse_append, List.takeWhile_append_dropWhile, List.reverse_reverse]

/-- Some white space and the text after it. -/
theorem dropSpaces?_eq_some {text rest : List Char} :
    dropSpaces? text = some rest ↔
      (∀ character ∈ rest.head?, isSpace character = false) ∧
        ∃ gap, gap ≠ [] ∧ gap.all isSpace ∧ text = gap ++ rest := by
  constructor
  · intro h
    cases text with
    | nil => simp [dropSpaces?] at h
    | cons character tail =>
      simp only [dropSpaces?] at h
      split at h
      · rename_i hspace
        obtain rfl : tail.dropWhile isSpace = rest := by simpa using h
        exact ⟨head?_dropWhile_eq_false, character :: tail.takeWhile isSpace, by simp,
          by simp [hspace], by simp⟩
      · simp at h
  · rintro ⟨hhead, gap, hgap, hspaces, rfl⟩
    cases gap with
    | nil => exact absurd rfl hgap
    | cons character gap =>
      simp only [List.all_cons, Bool.and_eq_true] at hspaces
      rw [List.cons_append, dropSpaces?, if_pos hspaces.1,
        dropWhile_append_of_head hspaces.2 hhead]

theorem mem_afterSpaces {text tail : List Char} :
    tail ∈ afterSpaces text ↔ ∃ gap, gap ≠ [] ∧ gap.all isSpace ∧ text = gap ++ tail := by
  induction text with
  | nil =>
    simp only [afterSpaces, List.not_mem_nil, List.nil_eq, List.append_eq_nil_iff, false_iff]
    rintro ⟨gap, hgap, -, hempty, -⟩
    exact hgap hempty
  | cons character rest ih =>
    rw [afterSpaces]
    split
    · rename_i hspace
      rw [List.mem_append, ih, List.mem_singleton]
      constructor
      · rintro (⟨gap, hgap, hspaces, rfl⟩ | rfl)
        · exact ⟨character :: gap, by simp, by simpa [hspace] using hspaces, rfl⟩
        · exact ⟨[character], by simp, by simp [hspace], rfl⟩
      · rintro ⟨gap, hgap, hspaces, htext⟩
        cases gap with
        | nil => exact absurd rfl hgap
        | cons first gap =>
          rw [List.cons_append, List.cons.injEq] at htext
          obtain ⟨rfl, rfl⟩ := htext
          cases gap with
          | nil => exact Or.inr rfl
          | cons second gap =>
            refine Or.inl ⟨second :: gap, by simp, ?_, rfl⟩
            simp only [List.all_cons, Bool.and_eq_true] at hspaces ⊢
            exact hspaces.2
    · rename_i hspace
      simp only [List.not_mem_nil, false_iff, not_exists, not_and]
      intro gap hgap hspaces htext
      cases gap with
      | nil => exact hgap rfl
      | cons first gap =>
        rw [List.cons_append, List.cons.injEq] at htext
        simp only [List.all_cons, Bool.and_eq_true] at hspaces
        exact hspace (htext.1 ▸ hspaces.1)

/-! ## Names between white space -/

/-- White space and a name can be taken off a text in one way only, as far as what stands behind
them goes. -/
theorem rest_unique {name gap gap' tail tail' rest rest' : List Char}
    (hgap : gap.all isSpace) (hgap' : gap'.all isSpace)
    (htail : tail.all isSpace) (htail' : tail'.all isSpace)
    (hrest : ∀ character ∈ rest.head?, isSpace character = false)
    (hrest' : ∀ character ∈ rest'.head?, isSpace character = false)
    (htext : gap ++ (name ++ (tail ++ rest)) = gap' ++ (name ++ (tail' ++ rest'))) :
    rest = rest' := by
  have hafter : (name ++ (tail ++ rest)).dropWhile isSpace =
      (name ++ (tail' ++ rest')).dropWhile isSpace := by
    rw [← List.dropWhile_append_of_pos (List.all_eq_true.mp hgap), htext,
      List.dropWhile_append_of_pos (List.all_eq_true.mp hgap')]
  have hdrop : (tail ++ rest).dropWhile isSpace = (tail' ++ rest').dropWhile isSpace := by
    by_cases hname : name.all isSpace
    · rwa [List.dropWhile_append_of_pos (List.all_eq_true.mp hname),
        List.dropWhile_append_of_pos (List.all_eq_true.mp hname)] at hafter
    · have hleft : (name.dropWhile isSpace).isEmpty = false := by
        rw [List.isEmpty_eq_false_iff]
        intro hempty
        exact hname (List.all_eq_true.mpr (List.dropWhile_eq_nil_iff.mp hempty))
      simp only [List.dropWhile_append , hleft, Bool.false_eq_true, if_false] at hafter
      rw [List.append_cancel_left hafter]
  rwa [dropWhile_append_of_head htail hrest, dropWhile_append_of_head htail' hrest'] at hdrop

/-- What the reader of a name between white space takes off a text. -/
theorem beforeMark_eq_some {name text rest : List Char} {mark : Char}
    (hmark : isSpace mark = false) :
    beforeMark name mark text = some rest ↔
      rest.head? = some mark ∧ ∃ gap tail, gap ≠ [] ∧ gap.all isSpace ∧ tail.all isSpace ∧
        text = gap ++ (name ++ (tail ++ rest)) := by
  have hread : ∀ {text rest}, beforeMark name mark text = some rest →
      rest.head? = some mark ∧ ∃ gap tail, gap ≠ [] ∧ gap.all isSpace ∧ tail.all isSpace ∧
        text = gap ++ (name ++ (tail ++ rest)) := by
    intro text rest hread
    obtain ⟨after, hafter, h⟩ := List.exists_of_findSome?_eq_some hread
    obtain ⟨gap, hgap, hspaces, rfl⟩ := mem_afterSpaces.mp hafter
    simp only [Option.bind_eq_bind, Option.bind_eq_some_iff, dropPiece_eq_some] at h
    obtain ⟨behind, rfl, h⟩ := h
    split at h
    · rename_i character tail hdrop
      split at h
      · rename_i hcharacter
        obtain rfl : character :: tail = rest := by simpa using h
        refine ⟨by simp [hcharacter], gap, behind.takeWhile isSpace, hgap, hspaces, by simp, ?_⟩
        rw [← hdrop, List.takeWhile_append_dropWhile]
      · simp at h
    · simp at h
  constructor
  · exact hread
  · rintro ⟨hhead, gap, tail, hgap, hspaces, htail, rfl⟩
    have hnospace : ∀ character ∈ rest.head?, isSpace character = false := by
      rw [hhead]
      intro character hcharacter
      obtain rfl : mark = character := by simpa using hcharacter
      exact hmark
    have hsome : (beforeMark name mark (gap ++ (name ++ (tail ++ rest)))).isSome := by
      unfold beforeMark
      rw [List.findSome?_isSome_iff]
      refine ⟨name ++ (tail ++ rest), mem_afterSpaces.mpr ⟨gap, hgap, hspaces, rfl⟩, ?_⟩
      have hname : dropPiece name (name ++ (tail ++ rest)) = some (tail ++ rest) :=
        dropPiece_eq_some.mpr rfl
      cases rest with
      | nil => simp at hhead
      | cons character rest =>
        have hdrop : (tail ++ character :: rest).dropWhile isSpace = character :: rest :=
          dropWhile_append_of_head htail hnospace
        obtain rfl : character = mark := by simpa using hhead
        simp [hname, hdrop]
    obtain ⟨found, hfound⟩ := Option.isSome_iff_exists.mp hsome
    obtain ⟨hhead', gap', tail', _, hspaces', htail', htext⟩ := hread hfound
    have hnospace' : ∀ character ∈ found.head?, isSpace character = false := by
      rw [hhead', ← hhead]
      exact hnospace
    rw [hfound, rest_unique hspaces hspaces' htail htail' hnospace hnospace' htext]

/-! ## Texts up to a mark -/

/-- A text is cut in one way at the first occurrence of a mark. -/
theorem cut_unique {mark : Char} {front front' rest rest' : List Char}
    (hfront : mark ∉ front) (hfront' : mark ∉ front')
    (htext : front ++ mark :: rest = front' ++ mark :: rest') : front = front' ∧ rest = rest' := by
  induction front generalizing front' with
  | nil =>
    cases front' with
    | nil => simpa using htext
    | cons first front' =>
      rw [List.nil_append, List.cons_append, List.cons.injEq] at htext
      simp [htext.1] at hfront'
  | cons first front ih =>
    cases front' with
    | nil =>
      rw [List.nil_append, List.cons_append, List.cons.injEq] at htext
      simp [htext.1] at hfront
    | cons first' front' =>
      rw [List.cons_append, List.cons_append, List.cons.injEq] at htext
      simp only [List.mem_cons, not_or] at hfront hfront'
      obtain ⟨rfl, rfl⟩ := ih hfront.2 hfront'.2 htext.2
      exact ⟨by rw [htext.1], rfl⟩

theorem splitOn_cons {mark character : Char} {text : List Char} : (character :: text).splitOn mark =
    if character = mark then [] :: text.splitOn mark
    else (text.splitOn mark).modifyHead (character :: ·) := by
  rw [List.splitOn_eq_splitOnP, List.splitOnP_cons_eq_if_modifyHead, ← List.splitOn_eq_splitOnP]
  simp

/-- The pieces of a text between marks are made of its other characters. -/
theorem mem_of_mem_splitOn {mark character : Char} {text piece : List Char}
    (hpiece : piece ∈ text.splitOn mark) (hmem : character ∈ piece) :
    character ∈ text ∧ character ≠ mark := by
  induction text generalizing piece with
  | nil =>
    obtain rfl : piece = [] := by simpa using hpiece
    exact absurd hmem List.not_mem_nil
  | cons first text ih =>
    have htail : ∀ {piece}, piece ∈ text.splitOn mark → character ∈ piece →
        character ∈ first :: text ∧ character ≠ mark :=
      fun hpiece hmem => ⟨List.mem_cons_of_mem _ (ih hpiece hmem).1, (ih hpiece hmem).2⟩
    rw [splitOn_cons] at hpiece
    split at hpiece
    · rcases List.mem_cons.mp hpiece with rfl | hpiece
      · exact absurd hmem List.not_mem_nil
      · exact htail hpiece hmem
    · rename_i hfirst
      obtain ⟨head, more, hpieces⟩ := List.exists_cons_of_ne_nil (List.splitOn_ne_nil mark text)
      rw [hpieces, List.modifyHead_cons] at hpiece
      have hhead : head ∈ text.splitOn mark := by simp [hpieces]
      rcases List.mem_cons.mp hpiece with rfl | hpiece
      · rcases List.mem_cons.mp hmem with rfl | hmem
        · exact ⟨List.mem_cons_self, hfirst⟩
        · exact htail hhead hmem
      · exact htail (by simp [hpieces, hpiece]) hmem

/-- The end of a text that ends with a mark ends with the mark. -/
theorem exists_suffix_of_concat {mark : Char} {front left right : List Char}
    (hsplit : front ++ [mark] = left ++ right) (hright : right ≠ []) :
    ∃ run, run <:+ front ∧ right = run ++ [mark] := by
  rcases List.append_eq_append_iff.mp hsplit with ⟨middle, rfl, hmiddle⟩ | ⟨run, hrun, rfl⟩
  · rcases List.append_eq_singleton_iff.mp hmiddle.symm with ⟨rfl, rfl⟩ | ⟨rfl, rfl⟩
    · exact ⟨[], List.nil_suffix, rfl⟩
    · exact absurd rfl hright
  · exact ⟨run, ⟨left, hrun.symm⟩, rfl⟩

/-- What stands from a mark on does not decide whether a text begins with a piece without the mark. -/
theorem prefix_append_cons {piece text after : List Char} {mark : Char} (hmark : mark ∉ piece) :
    piece <+: text ++ mark :: after ↔ piece <+: text := by
  induction piece generalizing text with
  | nil => simp
  | cons character piece ih =>
    rw [List.mem_cons, not_or] at hmark
    cases text with
    | nil => simp [Ne.symm hmark.1]
    | cons first text => simp [ih hmark.2]

end PageGraft.Page
