import PageGraft.Proofs.Insertion
import PageGraft.Proofs.RegionSpelling
import PageGraft.Proofs.Seam

/-!
# State variables that are added one after the other

Every new state variable looks for the state region again, in a page that the variables before it have
changed. `IsStateRegion.insertAt` says where it finds its end: a line that holds no newline but its first
character moves the end right behind itself and leaves the comment where it is. No place in front of the
line becomes an end, since white space that leads to the line led to the terminator behind it before, and
none in the line is one. From this `patch_appends_state` follows by induction over the variables.
-/

namespace PageGraft.Page

open PageGraft.Settings PageGraft.Text PageGraft.Script Patch

variable {word : List Char} {words terminators : List (List Char)} {page line : List Char}
  {start stop point index : Nat}

/-! ## Ends of regions and lines -/

/-- A line as it goes into a region: a newline, white space and a text that begins with no terminator.
Only its first character is a newline. -/
def IsLineFor (terminators : List (List Char)) (line : List Char) : Prop :=
  ∃ indent first rest, line = '\n' :: (indent ++ first :: rest) ∧ indent.all isSpace ∧
    isSpace first = false ∧ '\n' ∉ indent ++ first :: rest ∧
    ∀ terminator ∈ terminators, ∀ letter ∈ terminator.head?, sameLetter letter first = false

section

variable (hsolid : ∀ terminator ∈ terminators, IsSolid terminator)

include hsolid

/-- No place in a line leads to a terminator, whatever stands behind the line. -/
theorem IsLineFor.not_leadsToTerminator (hline : IsLineFor terminators line) (rest : List Char)
    (hindex : index < line.length) : ¬ LeadsToTerminator terminators ((line ++ rest).drop index) := by
  obtain ⟨indent, first, tail, rfl, hindent, hfirst, hnewline, hterminators⟩ := hline
  intro hleads
  obtain ⟨gap, spelled, behind, htext, hspaces, terminator, hmem, hspells⟩ := hleads
  cases index with
  | zero =>
    -- the white space is that in front of the text of the line
    have hinside : (indent ++ first :: tail) ++ rest = gap ++ (spelled ++ behind) :=
      (List.cons.inj htext).2
    have hsame : first :: (tail ++ rest) = spelled ++ behind := by
      have hleft : ((indent ++ first :: tail) ++ rest).dropWhile isSpace = first :: (tail ++ rest) := by
        rw [List.append_assoc]
        exact dropWhile_append_of_head hindent (by simpa using hfirst)
      rw [← hleft, hinside]
      exact dropWhile_append_of_head hspaces (hspells.head_append (hsolid terminator hmem) _)
    cases hspells with
    | nil => exact (hsolid _ hmem).nonempty rfl
    | @cons letter character _ _ hsameLetter =>
      obtain ⟨rfl, -⟩ := List.cons.inj hsame
      rw [hterminators _ hmem letter rfl] at hsameLetter
      exact Bool.false_ne_true hsameLetter
  | succ index =>
    rw [List.length_cons, Nat.add_lt_add_iff_right] at hindex
    rw [List.cons_append, List.drop_succ_cons, List.drop_append_of_le_length hindex.le,
      List.drop_eq_getElem_cons hindex, List.cons_append] at htext
    refine hnewline ?_
    rw [← (List.cons.inj htext).1]
    exact List.getElem_mem hindex

/-- In front of a newline that leads to a terminator, the same places lead to one whatever stands behind
a newline there. -/
theorem LeadsToTerminator.of_append {front behind behind' : List Char}
    (hleads : LeadsToTerminator terminators (front ++ '\n' :: behind)) (hfront : front ≠ [])
    (hbehind : LeadsToTerminator terminators ('\n' :: behind')) :
    LeadsToTerminator terminators (front ++ '\n' :: behind') := by
  obtain ⟨gap, spelled, rest, htext, hspaces, terminator, hmem, hspells⟩ := hleads
  obtain ⟨first, front, rfl⟩ := List.exists_cons_of_ne_nil hfront
  obtain ⟨rfl, hinside⟩ := List.cons.inj htext
  by_cases hall : front.all isSpace
  · -- white space up to the newline, which goes on behind it
    obtain ⟨gap', spelled', rest', htext', hspaces', hterminator'⟩ := hbehind
    obtain rfl := (List.cons.inj htext').2
    refine ⟨front ++ '\n' :: gap', spelled', rest', by simp, ?_, hterminator'⟩
    rw [List.all_append, List.all_cons, hall, hspaces']
    decide
  · -- the terminator ends in front of the newline, since there is no newline in it
    have hnewline : '\n' ∉ spelled := by
      intro hnewline
      have hspace := hspells.isSpace_eq_false (hsolid terminator hmem) _ hnewline
      exact absurd hspace (by decide)
    have hbegun : gap ++ spelled <+: front := by
      rw [← List.append_assoc] at hinside
      rcases List.append_eq_append_iff.mp hinside with ⟨middle, hlonger, hmiddle⟩ | ⟨middle, rfl, -⟩
      · cases middle with
        | nil => exact ⟨[], by simpa using hlonger⟩
        | cons newline middle =>
          obtain ⟨rfl, -⟩ := List.cons.inj hmiddle
          rcases List.append_eq_append_iff.mp hlonger with ⟨between, rfl, rfl⟩ | ⟨between, rfl, -⟩
          · exact absurd (by simp) hnewline
          · rw [List.all_append, Bool.and_eq_true] at hspaces
            exact absurd hspaces.1 hall
      · exact List.prefix_append _ _
    obtain ⟨middle, rfl⟩ := hbegun
    exact ⟨gap, spelled, middle ++ '\n' :: behind', by simp, hspaces, terminator, hmem, hspells⟩

end

theorem LeadsToTerminator.exists_cons {text : List Char} (hleads : LeadsToTerminator terminators text) :
    ∃ behind, text = '\n' :: behind := by
  obtain ⟨gap, spelled, rest, htext, -⟩ := hleads
  exact ⟨_, htext⟩

/-! ## One line -/

/-- The indentation of a comment is that of the text in front of it. -/
theorem IsCommentAt.indentAt_eq (hcomment : IsCommentAt word words page start stop) :
    indentAt page start = leadingBlanks (lastLine (page.take start)) := by
  obtain ⟨front, comment, rest, rfl, ⟨gap, spelled, later, rfl, -⟩, rfl, -⟩ := hcomment
  rw [List.take_left, indentAt_append]
  intro character hhead
  obtain rfl := Option.some.inj hhead
  decide

namespace IsStateRegion

theorem stop_le (hregion : IsStateRegion word words terminators page start stop point) : stop ≤ point :=
  hregion.ends.1.1

theorem start_le (hregion : IsStateRegion word words terminators page start stop point) :
    start ≤ point := by
  obtain ⟨front, comment, rest, -, -, -, hstop⟩ := hregion.comment
  have hle := hregion.stop_le
  omega

theorem point_le (hregion : IsStateRegion word words terminators page start stop point) :
    point ≤ page.length := by
  obtain ⟨behind, hbehind⟩ := hregion.ends.1.2.exists_cons
  by_contra hlt
  rw [List.drop_of_length_le (by omega)] at hbehind
  exact absurd hbehind (List.cons_ne_nil _ _).symm

/-- A line at the end of the region moves the end right behind itself. -/
theorem insertAt (hregion : IsStateRegion word words terminators page start stop point)
    (hplain : PlainRegion word words terminators) (hline : IsLineFor terminators line) :
    IsStateRegion word words terminators (insertAt page line point) start stop (point + line.length) := by
  have hpoint := hregion.point_le
  have hstop := hregion.stop_le
  have htake : (Page.insertAt page line point).take point = page.take point := take_point_insertAt hpoint
  have hcomment := hregion.comment.of_take hstop htake
  refine ⟨hcomment, ?_, ⟨by omega, ?_⟩, ?_⟩
  · intro start' stop' hother
    by_contra hlt
    -- a comment in front of the first one would end there, in the text that did not change
    have hle := hother.stop_le hplain hcomment (Nat.lt_of_not_le hlt)
    have hbefore : IsCommentAt word words page start' stop' :=
      hother.of_take (Nat.le_trans hle hregion.start_le) htake.symm
    exact hlt (hregion.first hbefore)
  · rw [drop_insertAt hpoint (Nat.le_refl _)]
    exact hregion.ends.1.2
  · intro other hother
    obtain ⟨hbehind, hleads⟩ := hother
    by_contra hlt
    rw [Page.insertAt, List.append_assoc] at hleads
    by_cases hfront : other < point
    · -- a place in front of the line that led to a terminator before
      have hdrop : ∀ middle, (page.take point ++ middle).drop other =
          (page.take point).drop other ++ middle := by
        intro middle
        rw [List.drop_append_of_le_length]
        rw [List.length_take_of_le hpoint]
        exact hfront.le
      have hnonempty : (page.take point).drop other ≠ [] := by
        rw [ne_eq, List.drop_eq_nil_iff, List.length_take_of_le hpoint]
        omega
      obtain ⟨below, hbelow⟩ := hregion.ends.1.2.exists_cons
      have hends := hregion.ends.1.2
      rw [hbelow] at hends
      obtain ⟨indent, first, rest, hspelled, -⟩ := hline
      rw [hdrop, hspelled] at hleads
      have hbefore := hleads.of_append hplain.solidTerminators hnonempty hends
      rw [← hbelow, ← hdrop, List.take_append_drop] at hbefore
      exact absurd (hregion.ends.2 ⟨hbehind, hbefore⟩) (Nat.not_le_of_lt hfront)
    · obtain ⟨further, rfl⟩ := Nat.exists_eq_add_of_le (Nat.le_of_not_lt hfront)
      rw [← List.drop_drop, List.drop_left' (List.length_take_of_le hpoint)] at hleads
      exact hline.not_leadsToTerminator hplain.solidTerminators _ (by omega) hleads

/-- A line at the end of the region leaves the indentation of its comment. -/
theorem indentAt_insertAt (hregion : IsStateRegion word words terminators page start stop point) :
    indentAt (Page.insertAt page line point) start = indentAt page start := by
  have htake : (Page.insertAt page line point).take point = page.take point :=
    take_point_insertAt hregion.point_le
  have hcomment := hregion.comment.of_take hregion.stop_le htake
  have hsame := congrArg (List.take start) htake
  rw [List.take_take, List.take_take, Nat.min_eq_left hregion.start_le] at hsame
  rw [hcomment.indentAt_eq, hregion.comment.indentAt_eq, hsame]

end IsStateRegion

/-! ## State variables that are added -/

/-- The line of a state variable that is added. -/
def addedLine (indent : List Char) (record : StateRecord) : List Char :=
  '\n' :: (indent ++
    s!"let {record.reader} = {record.initialValue}; // {record.writer}".toList)

/-- A state variable whose line is one line. -/
def HasOneLine (record : StateRecord) : Prop :=
  '\n' ∉ record.reader.toList ∧ '\n' ∉ record.initialValue.toList ∧ '\n' ∉ record.writer.toList

theorem isLineFor_addedLine {indent : List Char} {record : StateRecord} (hindent : indent.all isBlank)
    (hlines : HasOneLine record)
    (hterminators : ∀ terminator ∈ terminators, ∀ letter ∈ terminator.head?,
      sameLetter letter 'l' = false) : IsLineFor terminators (addedLine indent record) := by
  obtain ⟨hreader, hvalue, hwriter⟩ := hlines
  have hnewline := newline_not_mem_of_isBlank hindent
  refine ⟨indent, 'l', "et ".toList ++ (record.reader.toList ++ " = ".toList) ++
    (record.initialValue.toList ++ setterNote record), ?_, isSpace_of_indent hindent, by decide, ?_,
    hterminators⟩
  · rw [addedLine, toList_declaration, newDeclaration]
    rfl
  · simp [hnewline, hreader, hvalue, hwriter]

variable {settings : PatcherSettings} {patch : Patch} {state : List StateRecord}

theorem fate_state_eq_inserted {record : StateRecord}
    (hfate : (Change.state record).fate settings page = .inserted) :
    findInitialValue page record.reader.toList = none ∧
      ∃ start point, findStateRegion settings page = some (start, point) := by
  unfold Change.fate at hfate
  by_cases hfound : (findInitialValue page record.reader.toList).isSome
  · simp [hfound] at hfate
  · by_cases hregion : (findStateRegion settings page).isSome
    · obtain ⟨⟨start, point⟩, hregion⟩ := Option.isSome_iff_exists.mp hregion
      exact ⟨Option.not_isSome_iff_eq_none.mp hfound, start, point, hregion⟩
    · simp [hfound, hregion] at hfate

/-- State variables that are all added stand one behind the other at the end of the region. -/
theorem run_of_added (hwords : regionWords settings = word :: words)
    (hplain : PlainRegion word words (regionTerminators settings))
    (hterminators : ∀ terminator ∈ regionTerminators settings, ∀ letter ∈ terminator.head?,
      sameLetter letter 'l' = false)
    (hinserted : ∀ made ∈ fates settings patch (state.map .state), made.2 = .inserted)
    (hlines : ∀ record ∈ state, HasOneLine record)
    (hregion : IsStateRegion word words (regionTerminators settings) patch.text start stop point) :
    run settings patch.text (state.map .state) =
      insertAt patch.text (state.flatMap (addedLine (indentAt patch.text start))) point := by
  induction state generalizing patch point with
  | nil => simp [insertAt, run]
  | cons record state ih =>
    rw [List.map_cons, fates, List.forall_mem_cons] at hinserted
    obtain ⟨hfirst, hlater⟩ := hinserted
    obtain ⟨hnone, -⟩ := fate_state_eq_inserted hfirst
    have hrun : run settings patch.text ((record :: state).map .state) =
        run settings ((Change.state record).make settings patch).text (state.map .state) := by
      rw [Change.make, updateState_text]
      rfl
    have hfound : findStateRegion settings patch.text = some (start, point) := by
      rw [findStateRegion, ← regionTerminators, ← regionWords, hwords]
      exact (firstFound_stateRegion hplain).mpr ⟨stop, hregion⟩
    have htext : ((Change.state record).make settings patch).text =
        insertAt patch.text (addedLine (indentAt patch.text start) record) point := by
      rw [Change.make, updateState_text_of_region hnone hfound, insertAt, addedLine, toList_declaration]
      rfl
    have hline : IsLineFor (regionTerminators settings) (addedLine (indentAt patch.text start) record) :=
      isLineFor_addedLine all_leadingBlanks (hlines record List.mem_cons_self) hterminators
    -- The region that the next variable finds ends behind this one, with the same indentation.
    have hnext := hregion.insertAt hplain hline
    have hindent : indentAt (insertAt patch.text (addedLine (indentAt patch.text start) record) point)
        start = indentAt patch.text start := hregion.indentAt_insertAt
    rw [← htext] at hnext hindent
    have hpoint := hregion.point_le
    rw [hrun, ih hlater (fun other hother => hlines other (List.mem_cons_of_mem _ hother)) hnext,
      hindent, htext, insertAt, take_insertAt hpoint, drop_insertAt hpoint (Nat.le_refl _), insertAt,
      List.flatMap_cons, List.append_assoc (patch.text.take point)]

theorem plainRegion_default :
    PlainRegion "Global".toList ["state".toList] (regionTerminators {}) := by
  have hflat : ∀ {pieces : List (List Char)} {holds : Char → Bool}, pieces.flatten.all holds →
      ∀ piece ∈ pieces, ∀ letter ∈ piece, holds letter := by
    intro pieces holds hall piece hpiece letter hletter
    exact List.all_eq_true.mp hall letter (List.mem_flatten.mpr ⟨piece, hpiece, hletter⟩)
  have hsolid : ∀ {pieces : List (List Char)}, pieces.all (!·.isEmpty) →
      pieces.flatten.all (fun letter => !spaceCodes.contains (caselessCode letter.toNat)) →
      ∀ piece ∈ pieces, IsSolid piece := by
    intro pieces hnonempty hletters piece hpiece
    refine ⟨by simpa using List.all_eq_true.mp hnonempty piece hpiece, ?_⟩
    intro letter hletter
    simpa using hflat hletters piece hpiece letter hletter
  have hslash : ∀ piece ∈ ["Global".toList, "state".toList], ∀ letter ∈ piece,
      !sameLetter letter '/' := hflat (by decide)
  exact ⟨hsolid (by decide) (by decide), by simpa using hslash,
    hsolid (by decide) (by decide)⟩

/-- No terminator begins like the line of a state variable. -/
theorem sameLetter_head_default : ∀ terminator ∈ regionTerminators {}, ∀ letter ∈ terminator.head?,
    sameLetter letter 'l' = false := by
  have hheads : (regionTerminators {}).all fun terminator =>
      terminator.head?.all fun letter => !sameLetter letter 'l' := by decide
  intro terminator hterminator letter hletter
  have hhead := List.all_eq_true.mp hheads terminator hterminator
  rw [Option.mem_def.mp hletter] at hhead
  simpa using hhead

/-- New state variables are added in order. A patch with the settings that hold by default and without
functions, which adds each of its state variables, puts their lines one behind the other at the end of
the state region of the original page, with the indentation of its comment. -/
theorem patch_adds_in_order {extraction : Extraction} (hfunctions : extraction.functions = [])
    (hinserted : (Page.patch {} page extraction).events =
      extraction.state.map fun record => ⟨.stateInserted, record.reader⟩)
    (hlines : ∀ record ∈ extraction.state, HasOneLine record) :
    extraction.state = [] ∧ (Page.patch {} page extraction).text = page ∨
      ∃ start stop point begun,
        IsStateRegion "Global".toList ["state".toList]
          (["//", "function", "async", "document", "</script>"].map String.toList)
          page start stop point ∧
        BeginsLine page begun start ∧
        (Page.patch {} page extraction).text =
          page.take point ++ extraction.state.flatMap (addedLine ((page.drop begun).takeWhile isBlank)) ++
            page.drop point := by
  have hchanges : changes extraction = extraction.state.map .state := by
    rw [changes, hfunctions, List.map_nil, List.nil_append]
  have haccounts := (accounts_patch {} page extraction).events
  rw [hinserted, hchanges] at haccounts
  have hfates : ∀ made ∈ fates {} { text := page } (extraction.state.map .state),
      made.2 = .inserted := by
    apply fates_eq_inserted
    rw [← haccounts, List.map_map]
    rfl
  rw [patch_text_eq_run, hchanges]
  cases hstate : extraction.state with
  | nil => exact .inl ⟨rfl, rfl⟩
  | cons record state =>
    right
    rw [hstate] at hfates hlines
    obtain ⟨-, start, point, hfound⟩ := fate_state_eq_inserted (hfates _ List.mem_cons_self)
    rw [findStateRegion, ← regionTerminators, ← regionWords, regionWords_default] at hfound
    obtain ⟨stop, hregion⟩ := (firstFound_stateRegion plainRegion_default).mp hfound
    have hbegins : BeginsLine page (lineStart page start) start :=
      beginsLine_lineStart (Nat.le_trans hregion.start_le hregion.point_le)
    exact ⟨start, stop, point, _, hregion, hbegins,
      run_of_added regionWords_default plainRegion_default sameLetter_head_default hfates hlines hregion⟩

/-- Two state variables, one of which has slashes in its value. -/
def twoVariables : Extraction where
  state := [
    { reader := "a", writer := "setA", initialValue := "\"//\"" },
    { reader := "b", writer := "setB", initialValue := "2" }]

/-- They stand in their order behind the comment, with its indentation, in front of the line of white
space. -/
theorem patch_adds_in_order_two :
    twoVariables.functions = [] ∧
      (Page.patch {} "a\n  // GLOBAL  State\n\n  // b".toList twoVariables).events =
        twoVariables.state.map (fun record => ⟨.stateInserted, record.reader⟩) ∧
      (∀ record ∈ twoVariables.state, HasOneLine record) ∧
      (Page.patch {} "a\n  // GLOBAL  State\n\n  // b".toList twoVariables).text =
        ("a\n  // GLOBAL  State" ++ "\n  let a = \"//\"; // setA" ++ "\n  let b = 2; // setB" ++
          "\n\n  // b").toList := by
  have hevents : (Page.patch {} "a\n  // GLOBAL  State\n\n  // b".toList twoVariables).events =
      twoVariables.state.map (fun record => ⟨.stateInserted, record.reader⟩) := by
    decide
  have hlines : ∀ record ∈ twoVariables.state, HasOneLine record := by
    simp [twoVariables, HasOneLine]
  have hfound : findStateRegion {} "a\n  // GLOBAL  State\n\n  // b".toList = some (4, 20) := by
    decide
  refine ⟨rfl, hevents, hlines, ?_⟩
  rcases patch_adds_in_order rfl hevents hlines with
    ⟨hnone, -⟩ | ⟨start, stop, point, begun, hregion, hbegins, htext⟩
  · exact absurd hnone (by simp [twoVariables])
  · have hsame := (firstFound_stateRegion plainRegion_default).mpr ⟨stop, hregion⟩
    rw [findStateRegion, ← regionTerminators, ← regionWords, regionWords_default, hsame,
      Option.some_inj, Prod.mk.injEq] at hfound
    obtain ⟨rfl, rfl⟩ := hfound
    have hbegun := hbegins.unique (beginsLine_lineStart (by decide))
    rw [htext, hbegun]
    decide

end PageGraft.Page
