import PageGraft.Proofs.BodyEnds
import PageGraft.Proofs.Cleaning
import PageGraft.Proofs.StateRegion

/-!
# How a state region is spelled

A state region begins with a line comment of known words and ends in front of the first newline that
white space leads to a terminator from. Here both are described by how the text is spelled
(`IsRegionComment`, `LeadsToTerminator`), and the search for a region as the first comment together with
the first end behind it (`IsStateRegion`, `findStateRegion_iff`).

A comment without an end behind it is skipped by the search. It is still never in front of the comment
that is found: two comments do not overlap (`IsCommentAt.stop_le`), so that the end behind the later one
is an end behind the earlier one, too.
-/

namespace PageGraft.Page

open PageGraft.Text PageGraft.Script PageGraft.Settings

/-! ## Words in letters of either case -/

/-- A text spells a word in letters of either case. -/
def Spells (word text : List Char) : Prop :=
  List.Forall₂ (fun letter character => sameLetter letter character) word text

theorem dropCaseless_eq_some {word text rest : List Char} :
    dropCaseless word text = some rest ↔ ∃ spelled, text = spelled ++ rest ∧ Spells word spelled := by
  induction word generalizing text with
  | nil => simp [dropCaseless, Spells]
  | cons letter word ih =>
    constructor
    · intro hrest
      cases text with
      | nil => simp [dropCaseless] at hrest
      | cons character text =>
        rw [dropCaseless] at hrest
        split at hrest
        · rename_i hsame
          obtain ⟨spelled, rfl, hspells⟩ := ih.mp hrest
          exact ⟨character :: spelled, rfl, .cons hsame hspells⟩
        · simp at hrest
    · intro hspelled
      obtain ⟨spelled, rfl, hspells⟩ := hspelled
      cases hspells with
      | @cons _ character _ spelled hsame hspells =>
        rw [List.cons_append, dropCaseless, if_pos hsame]
        exact ih.mpr ⟨spelled, rfl, hspells⟩

/-- White space has no case, and no letter outside white space is the same as it. -/
theorem sameLetter_of_isSpace {letter character : Char}
    (hletter : caselessCode letter.toNat ∉ spaceCodes) (hspace : isSpace character) :
    sameLetter letter character = false := by
  have hcodes : ∀ code ∈ spaceCodes, caselessCode code = code := by decide
  have hmem := toNat_mem_spaceCodes hspace
  rw [sameLetter, Bool.or_eq_false_iff, beq_eq_false_iff_ne, beq_eq_false_iff_ne]
  constructor
  · rintro rfl
    rw [hcodes _ hmem] at hletter
    exact hletter hmem
  · intro hsame
    rw [hsame, hcodes _ hmem] at hletter
    exact hletter hmem

/-- A word as it is looked for: it is not empty and has no white space in it. -/
structure IsSolid (word : List Char) : Prop where
  nonempty : word ≠ []
  letters : ∀ letter ∈ word, caselessCode letter.toNat ∉ spaceCodes

section

variable {word spelled : List Char}

theorem Spells.not_mem {mark : Char} (hspells : Spells word spelled)
    (hmark : ∀ letter ∈ word, sameLetter letter mark = false) : mark ∉ spelled := by
  induction hspells with
  | nil => exact List.not_mem_nil
  | @cons letter character word spelled hsame hspells ih =>
    rw [List.mem_cons, not_or]
    constructor
    · rintro rfl
      rw [hmark letter List.mem_cons_self] at hsame
      exact Bool.false_ne_true hsame
    · exact ih fun other hother => hmark other (List.mem_cons_of_mem _ hother)

theorem Spells.isSpace_eq_false (hspells : Spells word spelled) (hsolid : IsSolid word) :
    ∀ character ∈ spelled, isSpace character = false := by
  intro character hmem
  by_contra hspace
  rw [Bool.not_eq_false] at hspace
  refine hspells.not_mem ?_ hmem
  exact fun letter hletter => sameLetter_of_isSpace (hsolid.letters letter hletter) hspace

theorem Spells.ne_nil (hspells : Spells word spelled) (hsolid : IsSolid word) : spelled ≠ [] := by
  cases hspells with
  | nil => exact absurd rfl hsolid.nonempty
  | cons => exact List.cons_ne_nil _ _

/-- What a word is spelled with begins with no white space. -/
theorem Spells.head_append (hspells : Spells word spelled) (hsolid : IsSolid word) (rest : List Char) :
    ∀ character ∈ (spelled ++ rest).head?, isSpace character = false := by
  obtain ⟨first, spelled, rfl⟩ := List.exists_cons_of_ne_nil (hspells.ne_nil hsolid)
  intro character hhead
  obtain rfl := Option.some.inj hhead
  exact hspells.isSpace_eq_false hsolid _ List.mem_cons_self

end

/-! ## Region comments -/

/-- A text spells words in their order, each behind white space. -/
inductive SpellsAfterSpace : List (List Char) → List Char → Prop
  | nil : SpellsAfterSpace [] []
  | cons {word gap spelled later : List Char} {words : List (List Char)} (hgap : gap ≠ [])
      (hspaces : gap.all isSpace) (hword : Spells word spelled)
      (hwords : SpellsAfterSpace words later) :
      SpellsAfterSpace (word :: words) (gap ++ (spelled ++ later))

/-- A text is the beginning of a line comment up to its known words, with white space between any two
of them. The slashes need none behind them. -/
def IsRegionComment (word : List Char) (words : List (List Char)) (comment : List Char) : Prop :=
  ∃ gap spelled later, comment = "//".toList ++ (gap ++ (spelled ++ later)) ∧ gap.all isSpace ∧
    Spells word spelled ∧ SpellsAfterSpace words later

/-- A newline begins a text, and white space leads from there to a terminator. -/
def LeadsToTerminator (terminators : List (List Char)) (text : List Char) : Prop :=
  ∃ gap spelled rest, text = '\n' :: (gap ++ (spelled ++ rest)) ∧ gap.all isSpace ∧
    ∃ terminator ∈ terminators, Spells terminator spelled

theorem afterWords_eq_some {words : List (List Char)} {text rest : List Char}
    (hsolid : ∀ word ∈ words, IsSolid word) :
    afterWords words text = some rest ↔
      ∃ spoken, text = spoken ++ rest ∧ SpellsAfterSpace words spoken := by
  induction words generalizing text with
  | nil =>
    constructor
    · intro hrest
      exact ⟨[], by simpa [afterWords] using hrest, .nil⟩
    · intro hspoken
      obtain ⟨spoken, rfl, hspells⟩ := hspoken
      cases hspells
      rfl
  | cons word words ih =>
    have hfirst := hsolid word List.mem_cons_self
    have hlater : ∀ text, afterWords words text = some rest ↔
        ∃ spoken, text = spoken ++ rest ∧ SpellsAfterSpace words spoken :=
      fun text => ih fun other hother => hsolid other (List.mem_cons_of_mem _ hother)
    simp only [afterWords, Option.bind_eq_bind, Option.bind_eq_some_iff]
    constructor
    · intro hrest
      obtain ⟨spaced, hspaced, behind, hword, hrest⟩ := hrest
      obtain ⟨-, gap, hgap, hspaces, rfl⟩ := dropSpaces?_eq_some.mp hspaced
      obtain ⟨spelled, rfl, hspells⟩ := dropCaseless_eq_some.mp hword
      obtain ⟨later, rfl, hwords⟩ := (hlater _).mp hrest
      exact ⟨gap ++ (spelled ++ later), by simp, .cons hgap hspaces hspells hwords⟩
    · intro hspoken
      obtain ⟨spoken, rfl, hspells⟩ := hspoken
      cases hspells with
      | @cons _ gap spelled later _ hgap hspaces hword hwords =>
        have hbehind : dropCaseless word (spelled ++ (later ++ rest)) = some (later ++ rest) :=
          dropCaseless_eq_some.mpr ⟨spelled, rfl, hword⟩
        refine ⟨spelled ++ (later ++ rest), ?_, later ++ rest, hbehind, (hlater _).mpr ⟨later, rfl, hwords⟩⟩
        exact dropSpaces?_eq_some.mpr
          ⟨hword.head_append hfirst _, gap, hgap, hspaces, by simp⟩

/-- The reader of region comments takes exactly what is spelled like one. -/
theorem mem_afterRegionComment {word : List Char} {words : List (List Char)} {text rest : List Char}
    (hsolid : ∀ piece ∈ word :: words, IsSolid piece) :
    rest ∈ afterRegionComment (word :: words) text ↔
      ∃ comment, text = comment ++ rest ∧ IsRegionComment word words comment := by
  have hfirst := hsolid word List.mem_cons_self
  have hlater := fun other hother => hsolid other (List.mem_cons_of_mem word hother)
  have hread : rest ∈ afterRegionComment (word :: words) text ↔ ∃ behind spoken,
      dropPiece "//".toList text = some behind ∧
        dropCaseless word (behind.dropWhile isSpace) = some spoken ∧
        afterWords words spoken = some rest := by
    unfold afterRegionComment
    cases hslashes : dropPiece "//".toList text with
    | none => simp
    | some behind => simp [Option.bind_eq_some_iff]
  rw [hread]
  constructor
  · intro hreads
    obtain ⟨behind, spoken, hslashes, hword, hwords⟩ := hreads
    obtain rfl := dropPiece_eq_some.mp hslashes
    obtain ⟨spelled, hbehind, hspells⟩ := dropCaseless_eq_some.mp hword
    obtain ⟨later, rfl, hlast⟩ := (afterWords_eq_some hlater).mp hwords
    have hsplit := List.takeWhile_append_dropWhile (p := isSpace) (l := behind)
    rw [hbehind] at hsplit
    refine ⟨"//".toList ++ (behind.takeWhile isSpace ++ (spelled ++ later)), ?_, _, _, _, rfl,
      List.all_takeWhile, hspells, hlast⟩
    conv_lhs => rw [← hsplit]
    simp
  · intro hcomment
    obtain ⟨comment, rfl, gap, spelled, later, rfl, hspaces, hspells, hlast⟩ := hcomment
    refine ⟨gap ++ (spelled ++ (later ++ rest)), later ++ rest, ?_, ?_, ?_⟩
    · exact dropPiece_eq_some.mpr (by simp)
    · rw [dropWhile_append_of_head hspaces (hspells.head_append hfirst _)]
      exact dropCaseless_eq_some.mpr ⟨spelled, rfl, hspells⟩
    · exact (afterWords_eq_some hlater).mpr ⟨later, rfl, hlast⟩

theorem endsRegion_iff {terminators : List (List Char)} {text : List Char} :
    endsRegion terminators text ↔ LeadsToTerminator terminators text := by
  rw [endsRegion_eq_true]
  constructor
  · intro hends
    obtain ⟨gap, tail, rfl, hspaces, terminator, hmem, hterminator⟩ := hends
    obtain ⟨rest, hrest⟩ := Option.isSome_iff_exists.mp hterminator
    obtain ⟨spelled, rfl, hspells⟩ := dropCaseless_eq_some.mp hrest
    exact ⟨gap, spelled, rest, rfl, hspaces, terminator, hmem, hspells⟩
  · intro hleads
    obtain ⟨gap, spelled, rest, rfl, hspaces, terminator, hmem, hspells⟩ := hleads
    refine ⟨gap, spelled ++ rest, rfl, hspaces, terminator, hmem, ?_⟩
    rw [dropCaseless_eq_some.mpr ⟨spelled, rfl, hspells⟩]
    rfl

/-! ## The first comment and the first end behind it -/

/-- The words of region comments and the terminators of regions have no white space in them, and no
slash goes for a letter of the words. -/
structure PlainRegion (word : List Char) (words terminators : List (List Char)) : Prop where
  solidWords : ∀ piece ∈ word :: words, IsSolid piece
  slash : ∀ piece ∈ word :: words, ∀ letter ∈ piece, sameLetter letter '/' = false
  solidTerminators : ∀ terminator ∈ terminators, IsSolid terminator

/-- A region comment stands from one index of a page to another. -/
def IsCommentAt (word : List Char) (words : List (List Char)) (page : List Char) (start stop : Nat) :
    Prop :=
  ∃ front comment rest, page = front ++ (comment ++ rest) ∧ IsRegionComment word words comment ∧
    start = front.length ∧ stop = start + comment.length

/-- The state region of a page begins with the first region comment, which stands from `start` to `stop`,
and ends at the first index behind it where a newline and white space lead to a terminator. -/
structure IsStateRegion (word : List Char) (words terminators : List (List Char)) (page : List Char)
    (start stop point : Nat) : Prop where
  comment : IsCommentAt word words page start stop
  first : ∀ {start' stop'}, IsCommentAt word words page start' stop' → start ≤ start'
  ends : IsLeast {index | stop ≤ index ∧ LeadsToTerminator terminators (page.drop index)} point

section

variable {word comment text behind : List Char} {words terminators : List (List Char)}
  {page : List Char} {start stop point distance : Nat} {previous : Option Char}

theorem SpellsAfterSpace.slash_not_mem (hspoken : SpellsAfterSpace words text)
    (hslash : ∀ piece ∈ words, ∀ letter ∈ piece, sameLetter letter '/' = false) : '/' ∉ text := by
  induction hspoken with
  | nil => exact List.not_mem_nil
  | @cons word gap spelled later words hgap hspaces hword hwords ih =>
    have hgap' : '/' ∉ gap := by
      intro hmem
      exact absurd (List.all_eq_true.mp hspaces _ hmem) (by decide)
    have hspelled : '/' ∉ spelled := hword.not_mem (hslash word List.mem_cons_self)
    have hlater := ih fun other hother => hslash other (List.mem_cons_of_mem _ hother)
    simp [hgap', hspelled, hlater]

section

variable (hplain : PlainRegion word words terminators)

include hplain

/-- The only slashes of a comment are its first two characters. -/
theorem IsRegionComment.exists_cons (hcomment : IsRegionComment word words comment) :
    ∃ tail, comment = '/' :: '/' :: tail ∧ tail ≠ [] ∧ '/' ∉ tail := by
  obtain ⟨gap, spelled, later, rfl, hspaces, hspells, hlater⟩ := hcomment
  have hsolid := hplain.solidWords word List.mem_cons_self
  have hgap : '/' ∉ gap := by
    intro hmem
    exact absurd (List.all_eq_true.mp hspaces _ hmem) (by decide)
  have hspelled : '/' ∉ spelled := hspells.not_mem (hplain.slash word List.mem_cons_self)
  have hlater : '/' ∉ later :=
    hlater.slash_not_mem fun piece hmem => hplain.slash piece (List.mem_cons_of_mem _ hmem)
  refine ⟨gap ++ (spelled ++ later), rfl, ?_, ?_⟩
  · simp [hspells.ne_nil hsolid]
  · simp [hgap, hspelled, hlater]

/-- A comment that begins in front of another one ends there, too. -/
theorem IsRegionComment.prefix_of_append {front rest : List Char}
    (hcomment : IsRegionComment word words comment) (hfront : front ≠ [])
    (htext : comment ++ behind = front ++ '/' :: '/' :: rest) : comment <+: front := by
  obtain ⟨tail, rfl, htail, hslash⟩ := hcomment.exists_cons hplain
  rcases List.append_eq_append_iff.mp htext with ⟨middle, rfl, -⟩ | ⟨middle, hfront', hmiddle⟩
  · exact List.prefix_append _ _
  · cases middle with
    | nil => exact ⟨[], by simpa using hfront'⟩
    | cons first middle =>
      -- the slash of the other comment would be one of the tail of this one, or the one in front of it
      obtain ⟨rfl, hbehind⟩ := List.cons.inj hmiddle
      match front, hfront with
      | [only], _ =>
        obtain ⟨-, hmiddle⟩ := List.cons.inj hfront'
        obtain ⟨-, rfl⟩ := List.cons.inj hmiddle
        obtain ⟨second, tail, rfl⟩ := List.exists_cons_of_ne_nil htail
        obtain ⟨rfl, -⟩ := List.cons.inj hbehind
        exact absurd List.mem_cons_self hslash
      | first :: second :: front, _ =>
        obtain ⟨-, hmiddle⟩ := List.cons.inj hfront'
        obtain ⟨-, rfl⟩ := List.cons.inj hmiddle
        exact absurd (by simp) hslash

/-- Comments do not overlap. -/
theorem IsCommentAt.stop_le {start' stop' : Nat} (hcomment : IsCommentAt word words page start stop)
    (hother : IsCommentAt word words page start' stop') (hstart : start < start') : stop ≤ start' := by
  obtain ⟨front, comment, rest, hpage, hspelled, rfl, rfl⟩ := hcomment
  obtain ⟨front', comment', rest', hpage', hspelled', rfl, rfl⟩ := hother
  obtain ⟨tail, rfl, -⟩ := hspelled'.exists_cons hplain
  rw [hpage] at hpage'
  rcases List.append_eq_append_iff.mp hpage' with ⟨between, rfl, hbetween⟩ | ⟨between, rfl, -⟩
  · have hnonempty : between ≠ [] := by
      rintro rfl
      simp at hstart
    have hbegun := hspelled.prefix_of_append hplain hnonempty hbetween
    rw [List.length_append]
    exact Nat.add_le_add_left hbegun.length_le _
  · rw [List.length_append] at hstart
    omega

end

theorem regionDistance_eq_some :
    regionDistance terminators text = some distance ↔
      IsLeast {index | LeadsToTerminator terminators (text.drop index)} distance := by
  simp only [← endsRegion_iff]
  induction text generalizing distance with
  | nil =>
    constructor
    · intro hdistance
      simp [regionDistance] at hdistance
    · intro hleast
      have hends : endsRegion terminators (([] : List Char).drop distance) := hleast.1
      simp [endsRegion] at hends
  | cons character rest ih =>
    rw [regionDistance]
    by_cases hends : endsRegion terminators (character :: rest)
    · have hzero : IsLeast {index | endsRegion terminators ((character :: rest).drop index)} 0 :=
        ⟨hends, fun _ _ => Nat.zero_le _⟩
      rw [if_pos hends, isLeast_iff_eq hzero, Option.some_inj, eq_comm]
    · have hshift : ∀ index, endsRegion terminators ((character :: rest).drop (1 + index)) ↔
          endsRegion terminators (rest.drop index) := by
        intro index
        rw [Nat.add_comm, List.drop_succ_cons]
      have hbound : ∀ index, endsRegion terminators ((character :: rest).drop index) → 1 ≤ index := by
        intro index hindex
        cases index with
        | zero => exact absurd hindex hends
        | succ index => exact Nat.succ_pos _
      rw [if_neg hends, isLeast_iff_exists hshift hbound, Option.map_eq_some_iff]
      refine exists_congr fun further => ?_
      rw [ih, eq_comm (a := distance), Nat.add_comm 1]

/-- The ends behind a comment, counted from the beginning of the page. -/
theorem isLeast_ends {front : List Char} :
    IsLeast {index | (front ++ comment).length ≤ index ∧
        LeadsToTerminator terminators ((front ++ (comment ++ behind)).drop index)} point ↔
      ∃ distance, regionDistance terminators behind = some distance ∧
        point = (front ++ comment).length + distance := by
  rw [← List.append_assoc]
  have hshift : ∀ index, ((front ++ comment).length ≤ (front ++ comment).length + index ∧
      LeadsToTerminator terminators
        ((front ++ comment ++ behind).drop ((front ++ comment).length + index))) ↔
        LeadsToTerminator terminators (behind.drop index) := by
    intro index
    rw [← List.drop_drop, List.drop_left, and_iff_right (Nat.le_add_right _ _)]
  rw [isLeast_iff_exists hshift fun _ hindex => hindex.1]
  simp only [regionDistance_eq_some]

/-- A comment stays where the text in front of an index does, if it ends there. -/
theorem IsCommentAt.of_take {page' : List Char} {index : Nat}
    (hcomment : IsCommentAt word words page start stop) (hstop : stop ≤ index)
    (htake : page'.take index = page.take index) : IsCommentAt word words page' start stop := by
  obtain ⟨front, comment, rest, rfl, hspelled, rfl, rfl⟩ := hcomment
  refine ⟨front, comment, rest.take (index - (front.length + comment.length)) ++ page'.drop index, ?_,
    hspelled, rfl, rfl⟩
  have hkept : page'.take index =
      front ++ comment ++ rest.take (index - (front.length + comment.length)) := by
    rw [htake, ← List.append_assoc, List.take_append, List.take_of_length_le (by simpa using hstop),
      List.length_append]
  rw [← List.append_assoc, ← List.append_assoc, ← hkept, List.take_append_drop]

/-- At one place at most one comment is read. -/
theorem afterRegionComment_eq_singleton (hbehind : behind ∈ afterRegionComment (word :: words) text) :
    afterRegionComment (word :: words) text = [behind] := by
  unfold afterRegionComment at hbehind ⊢
  split at hbehind
  · exact absurd hbehind List.not_mem_nil
  · rw [Option.mem_toList] at hbehind
    dsimp only
    rw [hbehind]
    rfl

section

variable (hplain : PlainRegion word words terminators)

include hplain

theorem stateRegion_eq_some {length : Nat} :
    stateRegion (word :: words) terminators previous text = some length ↔
      ∃ comment behind distance, text = comment ++ behind ∧ IsRegionComment word words comment ∧
        regionDistance terminators behind = some distance ∧ length = comment.length + distance := by
  constructor
  · intro hlength
    obtain ⟨behind, hbehind, hends⟩ := List.exists_of_findSome?_eq_some hlength
    obtain ⟨comment, rfl, hcomment⟩ := (mem_afterRegionComment hplain.solidWords).mp hbehind
    obtain ⟨distance, hdistance, rfl⟩ := Option.map_eq_some_iff.mp hends
    refine ⟨comment, behind, distance, rfl, hcomment, hdistance, ?_⟩
    rw [List.length_append, Nat.add_sub_cancel]
  · intro hregion
    obtain ⟨comment, behind, distance, rfl, hcomment, hdistance, rfl⟩ := hregion
    have hbehind : behind ∈ afterRegionComment (word :: words) (comment ++ behind) :=
      (mem_afterRegionComment hplain.solidWords).mpr ⟨comment, rfl, hcomment⟩
    rw [stateRegion, afterRegionComment_eq_singleton hbehind, List.findSome?_singleton, hdistance,
      Option.map_some, List.length_append, Nat.add_sub_cancel]

/-- A comment that an end follows begins a state region. -/
theorem exists_stateRegion {index : Nat} (hcomment : IsRegionComment word words comment)
    (hends : LeadsToTerminator terminators (behind.drop index)) :
    ∃ length, stateRegion (word :: words) terminators previous (comment ++ behind) = some length := by
  obtain ⟨nearest, hnearest⟩ : ∃ nearest,
      IsLeast {index | LeadsToTerminator terminators (behind.drop index)} nearest :=
    exists_isLeast.mpr ⟨index, hends⟩
  exact ⟨_, (stateRegion_eq_some hplain).mpr
    ⟨comment, behind, nearest, rfl, hcomment, regionDistance_eq_some.mpr hnearest, rfl⟩⟩

/-- The search for a state region finds the first comment and the first end behind it. -/
theorem firstFound_stateRegion :
    firstFound (stateRegion (word :: words) terminators) none page = some (start, point) ↔
      ∃ stop, IsStateRegion word words terminators page start stop point := by
  rw [firstFound_eq_some]
  constructor
  · intro hfound
    obtain ⟨front, rest, length, rfl, hpasses, hlength, rfl, rfl⟩ := hfound
    obtain ⟨comment, behind, distance, rfl, hcomment, hdistance, rfl⟩ :=
      (stateRegion_eq_some hplain).mp hlength
    have hat : IsCommentAt word words (front ++ (comment ++ behind)) front.length
        (front ++ comment).length := ⟨front, comment, behind, rfl, hcomment, rfl, by simp⟩
    refine ⟨(front ++ comment).length, hat, ?_, ?_⟩
    · intro start' stop' hother
      by_contra hlt
      have hle := hother.stop_le hplain hat (Nat.lt_of_not_le hlt)
      have hbefore : IsCommentAt word words front start' stop' := hother.of_take hle (by simp)
      obtain ⟨front', comment', middle, rfl, hspelled, rfl, rfl⟩ := hbefore
      -- the end behind the comment that is found is an end behind the other one
      have hends : LeadsToTerminator terminators ((middle ++ (comment ++ behind)).drop
          ((middle ++ comment).length + distance)) := by
        rw [← List.append_assoc, ← List.drop_drop, List.drop_left]
        exact (regionDistance_eq_some.mp hdistance).1
      obtain ⟨length, hregion⟩ := exists_stateRegion hplain hspelled hends
      have hnonempty : comment' ++ middle ≠ [] := by
        obtain ⟨tail, rfl, -⟩ := hspelled.exists_cons hplain
        exact List.cons_ne_nil _ _
      have hnone := hpasses front' (comment' ++ middle) hnonempty rfl
      rw [List.append_assoc, hregion] at hnone
      exact absurd hnone (Option.some_ne_none length)
    · exact isLeast_ends.mpr ⟨distance, hdistance, by simp [Nat.add_assoc]⟩
  · intro hregion
    obtain ⟨stop, hregion⟩ := hregion
    obtain ⟨front, comment, behind, rfl, hcomment, rfl, hstop⟩ := hregion.comment
    have hends := hregion.ends
    rw [hstop, ← List.length_append, isLeast_ends] at hends
    obtain ⟨distance, hdistance, rfl⟩ := hends
    refine ⟨front, comment ++ behind, comment.length + distance, rfl, ?_, ?_, rfl, by simp [Nat.add_assoc]⟩
    · intro left right hright hsplit
      rw [Option.eq_none_iff_forall_ne_some]
      intro length hfound
      obtain ⟨comment', behind', distance', htext, hspelled, -, -⟩ :=
        (stateRegion_eq_some hplain).mp hfound
      have hother : IsCommentAt word words (front ++ (comment ++ behind)) left.length
          (left.length + comment'.length) :=
        ⟨left, comment', behind', by rw [hsplit, List.append_assoc, htext], hspelled, rfl, rfl⟩
      have hle := hregion.first hother
      have hpositive := List.length_pos_iff.mpr hright
      rw [hsplit, List.length_append] at hle
      omega
    · exact (stateRegion_eq_some hplain).mpr ⟨comment, behind, distance, rfl, hcomment, hdistance, rfl⟩

end

end

end PageGraft.Page
