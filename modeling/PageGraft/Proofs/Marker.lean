import PageGraft.Page.Patch
import PageGraft.Proofs.Declaration

/-!
# The insertion marker

New functions go in front of the last marker of a page, or in front of the white space that its line
begins with. What stands behind the index is then the marker's first character or white space
(`exists_of_insertionIndex`). A page without a marker gets one only from a piece that has one in it,
unless the seam could be part of a marker (`Finder.passes_occurrence`).
-/

namespace PageGraft.Page

open PageGraft.Text PageGraft.Script Patch

/-- Finds a piece wherever it occurs. -/
def occurrence (piece : List Char) : Finder := fun _ text =>
  if piece.isPrefixOf text then some piece.length else none

variable {marker page : List Char} {previous : Option Char}

theorem occurrence_eq_none {text : List Char} :
    occurrence marker previous text = none ↔ ¬ marker <+: text := by
  simp [occurrence]

/-- The last occurrence of a marker is one, and without one there is none. -/
theorem lastDistanceTo_eq_none (hmarker : marker ≠ []) :
    lastDistanceTo marker page = none ↔ (occurrence marker).Passes previous page [] := by
  induction page generalizing previous with
  | nil => simp [lastDistanceTo, hmarker]
  | cons character rest ih =>
    rw [lastDistanceTo, Finder.passes_cons, List.append_nil, occurrence_eq_none,
      ← @ih (some character)]
    cases lastDistanceTo marker rest with
    | some distance => simp
    | none => simp

/-- The last index at which a marker stands in a page. -/
structure IsLast (marker page : List Char) (last : Nat) : Prop where
  le : last ≤ page.length
  stands : marker <+: page.drop last
  last : ∀ later ≤ page.length, marker <+: page.drop later → later ≤ last

theorem lastDistanceTo_spec (marker page : List Char) :
    match lastDistanceTo marker page with
    | some last => IsLast marker page last
    | none => ∀ later ≤ page.length, ¬ marker <+: page.drop later := by
  induction page with
  | nil =>
    cases marker with
    | nil => exact ⟨Nat.le_refl _, List.prefix_refl _, fun later hlater _ => hlater⟩
    | cons first marker =>
      intro later _ hprefix
      simp at hprefix
  | cons character rest ih =>
    rw [lastDistanceTo]
    cases hlast : lastDistanceTo marker rest with
    | some last =>
      rw [hlast] at ih
      refine ⟨Nat.succ_le_succ ih.le, ih.stands, ?_⟩
      intro later hlater hprefix
      cases later with
      | zero => exact Nat.zero_le _
      | succ later =>
        exact Nat.succ_le_succ (ih.last later (Nat.le_of_succ_le_succ hlater) hprefix)
    | none =>
      rw [hlast] at ih
      dsimp only
      have hrest : ∀ later, later + 1 ≤ (character :: rest).length →
          ¬ marker <+: (character :: rest).drop (later + 1) := by
        intro later hlater
        exact ih later (Nat.le_of_succ_le_succ hlater)
      by_cases hhere : marker.isPrefixOf (character :: rest)
      · rw [if_pos hhere]
        refine ⟨Nat.zero_le _, List.isPrefixOf_iff_prefix.mp hhere, ?_⟩
        intro later hlater hprefix
        cases later with
        | zero => exact Nat.le_refl _
        | succ later => exact absurd hprefix (hrest later hlater)
      · rw [if_neg hhere]
        intro later hlater hprefix
        cases later with
        | zero => exact hhere (List.isPrefixOf_iff_prefix.mpr hprefix)
        | succ later => exact hrest later hlater hprefix

theorem lastDistanceTo_eq_some {last : Nat} :
    lastDistanceTo marker page = some last ↔ IsLast marker page last := by
  have hspec := lastDistanceTo_spec marker page
  constructor
  · intro hlast
    rwa [hlast] at hspec
  · intro hlast
    cases hfound : lastDistanceTo marker page with
    | none =>
      rw [hfound] at hspec
      exact absurd hlast.stands (hspec last hlast.le)
    | some found =>
      rw [hfound] at hspec
      rw [Nat.le_antisymm (hlast.last found hspec.le hspec.stands)
        (hspec.last last hlast.le hlast.stands)]

theorem insertionIndex_eq_none (hmarker : marker ≠ []) :
    insertionIndex page marker = none ↔ (occurrence marker).Passes none page [] := by
  rw [insertionIndex, Option.map_eq_none_iff]
  exact lastDistanceTo_eq_none hmarker

/-- A new function goes in front of the marker or of white space. -/
theorem exists_of_insertionIndex {first : Char} {index : Nat}
    (hindex : insertionIndex page (first :: marker) = some index) :
    index ≤ page.length ∧
      ∃ next rest, page.drop index = next :: rest ∧ (next = first ∨ isSpace next) := by
  obtain ⟨distance, hlast, hchoice⟩ := Option.map_eq_some_iff.mp hindex
  obtain ⟨hlength, ⟨behind, hbehind⟩, -⟩ := lastDistanceTo_eq_some.mp hlast
  dsimp only at hchoice
  split at hchoice
  · rename_i hblank
    have hstart : lineStart page distance ≤ distance := Nat.sub_le _ _
    have hline : page.drop (lineStart page distance) =
        (page.take distance).drop (lineStart page distance) ++ page.drop distance := by
      rw [← List.drop_append_of_le_length, List.take_append_drop]
      rw [List.length_take]
      omega
    rw [← hchoice]
    refine ⟨by omega, ?_⟩
    rw [hline, ← hbehind]
    cases hspaces : (page.take distance).drop (lineStart page distance) with
    | nil => exact ⟨first, marker ++ behind, by simp, .inl rfl⟩
    | cons space spaces =>
      rw [hspaces, isBlankLine, List.all_cons, Bool.and_eq_true] at hblank
      exact ⟨space, _, rfl, .inr hblank.1⟩
  · rw [← hchoice]
    exact ⟨hlength, first, marker ++ behind, hbehind.symm, .inl rfl⟩

/-- No marker crosses a seam that has a character at one of its sides that no marker has. -/
theorem passes_occurrence {front rest rest' : List Char}
    (hseam : (∃ next ∈ rest'.head?, next ∉ marker) ∨ ∃ last ∈ front.getLast?, last ∉ marker)
    (hpasses : (occurrence marker).Passes previous front rest) :
    (occurrence marker).Passes previous front rest' := by
  intro left right hright hsplit
  have hbefore := hpasses left right hright hsplit
  rw [occurrence_eq_none] at hbefore ⊢
  rintro ⟨behind, hmarker⟩
  rcases List.append_eq_append_iff.mp hmarker with ⟨middle, rfl, -⟩ | ⟨middle, rfl, rfl⟩
  · exact hbefore ⟨middle ++ rest, by simp⟩
  · cases middle with
    | nil => exact hbefore ⟨rest, by simp⟩
    | cons next middle =>
      rcases hseam with ⟨other, hother, hnot⟩ | ⟨last, hlast, hnot⟩
      · obtain rfl : next = other := by simpa using hother
        exact hnot (by simp)
      · obtain ⟨begun, ending, rfl⟩ := (List.eq_nil_or_concat right).resolve_left hright
        obtain rfl : ending = last := by simpa [hsplit] using hlast
        exact hnot (by simp)

end PageGraft.Page
