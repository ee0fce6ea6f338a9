import PageGraft.Proofs.Declaration
import PageGraft.Proofs.Statement

/-!
# Declarations of state variables

A declaration is `let`, a name and an equals sign, with blanks before the initial value. A name
without an equals sign keeps all of it in front of the first one (`letHeader_marked`), so that the
place of a declaration does not depend on the initial value (`IsDeclared.change`). No declaration
begins in front of another one and ends in it (`not_isLetHeader_append`).
-/

namespace PageGraft.Page

open PageGraft.Text PageGraft.Script

/-- The words of a declaration up to its equals sign. -/
def IsLetHeader (reader head : List Char) : Prop :=
  ∃ gap tail, gap ≠ [] ∧ gap.all isSpace ∧ tail.all isSpace ∧
    head = "let".toList ++ (gap ++ (reader ++ tail))

variable {reader head : List Char}

theorem atInitialValue_eq_some {text rest : List Char} :
    atInitialValue reader text = some rest ↔
      (∀ character ∈ rest.head?, isBlank character = false) ∧
        ∃ head blanks, IsLetHeader reader head ∧ blanks.all isBlank ∧
          text = head ++ '=' :: (blanks ++ rest) := by
  unfold atInitialValue
  simp only [Option.bind_eq_bind, Option.bind_eq_some_iff, dropPiece_eq_some, Option.pure_def,
    Option.some.injEq, beforeMark_eq_some (show isSpace '=' = false by decide)]
  constructor
  · rintro ⟨after, rfl, marked, ⟨hhead, gap, tail, hgap, hspaces, htail, rfl⟩, rfl⟩
    obtain ⟨behind, rfl⟩ := List.head?_eq_some_iff.mp hhead
    exact ⟨head?_dropWhile_eq_false, _, behind.takeWhile isBlank,
      ⟨gap, tail, hgap, hspaces, htail, rfl⟩, by simp, by simp⟩
  · rintro ⟨hrest, head, blanks, ⟨gap, tail, hgap, hspaces, htail, rfl⟩, hblanks, rfl⟩
    refine ⟨gap ++ (reader ++ (tail ++ '=' :: (blanks ++ rest))), by simp,
      '=' :: (blanks ++ rest), ⟨rfl, gap, tail, hgap, hspaces, htail, rfl⟩, ?_⟩
    rw [List.drop_succ_cons, List.drop_zero, dropWhile_append_of_head hblanks hrest]

/-- Where a declaration is found, and how long it is with the blanks after its equals sign. -/
theorem letHeader_eq_some {text : List Char} {previous : Option Char} {length : Nat} :
    letHeader reader previous text = some length ↔
      startsWord previous ∧ ∃ head blanks rest, IsLetHeader reader head ∧ blanks.all isBlank ∧
        (∀ character ∈ rest.head?, isBlank character = false) ∧
        text = head ++ '=' :: (blanks ++ rest) ∧ length = head.length + 1 + blanks.length := by
  unfold letHeader
  split
  · rename_i hword
    simp only [hword, true_and, Option.map_eq_some_iff, atInitialValue_eq_some]
    constructor
    · rintro ⟨rest, ⟨hrest, head, blanks, hheader, hblanks, rfl⟩, rfl⟩
      refine ⟨head, blanks, rest, hheader, hblanks, hrest, rfl, ?_⟩
      simp only [List.length_append, List.length_cons]
      omega
    · rintro ⟨head, blanks, rest, hheader, hblanks, hrest, rfl, rfl⟩
      refine ⟨rest, ⟨hrest, head, blanks, hheader, hblanks, rfl⟩, ?_⟩
      simp only [List.length_append, List.length_cons]
      omega
  · rename_i hword
    simp [hword]

theorem IsLetHeader.not_mem_equals (hreader : '=' ∉ reader) (hheader : IsLetHeader reader head) :
    '=' ∉ head := by
  have hspaces : ∀ {gap : List Char}, gap.all isSpace → '=' ∉ gap := by
    intro gap hgap hmem
    exact absurd (List.all_eq_true.mp hgap _ hmem) (by decide)
  obtain ⟨gap, tail, -, hgap, htail, rfl⟩ := hheader
  simp [hspaces hgap, hspaces htail, hreader]

theorem IsLetHeader.isAlpha (hheader : IsLetHeader reader head) :
    ∃ first ∈ head.head?, first.isAlpha := by
  obtain ⟨gap, tail, -, -, -, rfl⟩ := hheader
  exact ⟨'l', by simp, by decide⟩

/-- A declaration ends its words at the first equals sign. -/
theorem letHeader_marked (hreader : '=' ∉ reader) :
    (letHeader reader).Marked '=' (IsLetHeader reader) where
  isSome_iff := by
    intro previous text
    rw [Option.isSome_iff_exists]
    simp only [letHeader_eq_some]
    constructor
    · rintro ⟨length, hword, head, blanks, rest, hheader, -, -, htext, -⟩
      exact ⟨hword, head, blanks ++ rest, hheader, htext⟩
    · rintro ⟨hword, head, rest, hheader, rfl⟩
      exact ⟨_, hword, head, rest.takeWhile isBlank, rest.dropWhile isBlank, hheader, by simp,
        head?_dropWhile_eq_false, by simp, rfl⟩
  not_mem := fun hheader => hheader.not_mem_equals hreader
  isAlpha := fun hheader => hheader.isAlpha

/-- No declaration begins in front of the words of another one and ends with them. -/
theorem not_isLetHeader_append {front : List Char} (hfront : front ≠ [])
    (hheader : IsLetHeader reader head) : ¬ IsLetHeader reader (front ++ head) := by
  rintro ⟨gap', tail', -, hgap', htail', htext⟩
  obtain ⟨gap, tail, -, hgap, htail, rfl⟩ := hheader
  have hword : ∀ text : List Char, ∀ character ∈ (text ++ "let".toList).getLast?,
      isSpace character = false := by
    intro text character hcharacter
    obtain rfl : 't' = character := by simpa using hcharacter
    decide
  have hwords : front ++ "let".toList = [] ++ "let".toList :=
    words_unique hgap hgap' htail htail' (hword _) (hword _) (by simpa using htext)
  exact hfront (List.append_cancel_right hwords)

/-- A declaration that ends its words like another one declares the same name. -/
theorem IsLetHeader.reader_eq {reader' front : List Char} (hreader : IsPlain reader)
    (hreader' : IsPlain reader') (hheader : IsLetHeader reader head)
    (hlonger : IsLetHeader reader' (front ++ head)) : reader' = reader := by
  obtain ⟨gap, tail, hgap, hspaces, htail, rfl⟩ := hheader
  obtain ⟨gap', tail', hgap', hspaces', htail', htext⟩ := hlonger
  have hwords : "let".toList ++ (gap' ++ (reader' ++ tail')) =
      (front ++ "let".toList) ++ (gap ++ (reader ++ tail)) := by
    simpa using htext.symm
  exact name_unique hreader' hreader hgap' hgap hspaces' hspaces htail' htail hwords

/-! ## The first declaration -/

/-- The first declaration of a state variable in a page: `front` stands before it, `head` before its
equals sign, and `rest` behind the blanks that follow. -/
structure IsDeclared (reader front head blanks rest : List Char) : Prop where
  passes : (letHeader reader).Passes none front (head ++ '=' :: (blanks ++ rest))
  word : startsWord front.getLast?
  header : IsLetHeader reader head
  blanks : blanks.all isBlank
  rest : ∀ character ∈ rest.head?, isBlank character = false

variable {front blanks rest : List Char}

/-- The place of a declaration does not depend on the initial value. -/
theorem IsDeclared.change {rest' : List Char} (hreader : '=' ∉ reader)
    (hdeclared : IsDeclared reader front head blanks rest)
    (hrest : ∀ character ∈ rest'.head?, isBlank character = false) :
    IsDeclared reader front head blanks rest' :=
  { hdeclared with
    passes := (letHeader_marked hreader).passes_of_passes hdeclared.passes
    rest := hrest }

theorem firstFound_letHeader {page : List Char} {start stop : Nat} :
    firstFound (letHeader reader) none page = some (start, stop) ↔
      ∃ front head blanks rest, IsDeclared reader front head blanks rest ∧
        page = front ++ (head ++ '=' :: (blanks ++ rest)) ∧ start = front.length ∧
        stop = (front ++ (head ++ '=' :: blanks)).length := by
  rw [firstFound_eq_some]
  constructor
  · rintro ⟨front, behind, length, rfl, hpasses, hlength, rfl, rfl⟩
    rw [Option.or_none] at hlength
    obtain ⟨hword, head, blanks, rest, hheader, hblanks, hrest, rfl, rfl⟩ :=
      letHeader_eq_some.mp hlength
    exact ⟨front, head, blanks, rest, ⟨hpasses, hword, hheader, hblanks, hrest⟩, rfl, rfl,
      by simp; omega⟩
  · rintro ⟨front, head, blanks, rest, hdeclared, rfl, rfl, rfl⟩
    refine ⟨front, _, head.length + 1 + blanks.length, rfl, hdeclared.passes, ?_, rfl, ?_⟩
    · rw [Option.or_none]
      exact letHeader_eq_some.mpr ⟨hdeclared.word, head, blanks, rest, hdeclared.header,
        hdeclared.blanks, hdeclared.rest, rfl, rfl⟩
    · simp only [List.length_append, List.length_cons]
      omega

/-- The initial value of the first declaration: its statement without the blanks at the end. -/
theorem IsDeclared.findInitialValue_eq (hdeclared : IsDeclared reader front head blanks rest) :
    findInitialValue (front ++ (head ++ '=' :: (blanks ++ rest))) reader =
      some ((front ++ (head ++ '=' :: blanks)).length,
        (front ++ (head ++ '=' :: blanks)).length +
          (dropEndWhile isBlank (rest.take (statementLength rest))).length) := by
  have hfound := firstFound_letHeader.mpr ⟨front, head, blanks, rest, hdeclared, rfl, rfl, rfl⟩
  have hdrop : (front ++ (head ++ '=' :: (blanks ++ rest))).drop
      (front ++ (head ++ '=' :: blanks)).length = rest := by
    have hsplit : front ++ (head ++ '=' :: (blanks ++ rest)) =
        (front ++ (head ++ '=' :: blanks)) ++ rest := by simp
    rw [hsplit, List.drop_left]
  unfold findInitialValue
  rw [hfound]
  simp only [Option.bind_eq_bind, Option.bind_some, Option.pure_def, hdrop]

/-- An initial value stands in the first declaration. -/
theorem firstFound_of_findInitialValue {page : List Char} {start stop : Nat}
    (hfound : findInitialValue page reader = some (start, stop)) :
    ∃ begun, firstFound (letHeader reader) none page = some (begun, start) := by
  unfold findInitialValue at hfound
  simp only [Option.bind_eq_bind, Option.bind_eq_some_iff] at hfound
  obtain ⟨⟨begun, valueStart⟩, hfirst, hvalue⟩ := hfound
  obtain ⟨rfl, -⟩ : valueStart = start ∧ _ := by simpa using hvalue
  exact ⟨begun, hfirst⟩

/-- Without a declaration there is no initial value. -/
theorem findInitialValue_eq_none {page : List Char} :
    findInitialValue page reader = none ↔ firstFound (letHeader reader) none page = none := by
  unfold findInitialValue
  cases firstFound (letHeader reader) none page with
  | none => simp
  | some found => simp

end PageGraft.Page
