import PageGraft.Page.Patch
import PageGraft.Proofs.StateDeclaration
import PageGraft.Proofs.StateRegion

/-!
# Bringing one state variable into a page

A patch gives a new initial value to the first declaration of a state variable, or adds a declaration
at the end of the state region. The main result, `patch_state_exact`, says what the page is then: the
first declaration has exactly the value, nothing else has changed, and the same patch changes nothing
more. The old initial value may be any text. A declaration that is added is one line unless the value
or the name of the setter has newlines in it.
-/

namespace PageGraft.Page

open PageGraft.Text PageGraft.Script PageGraft.Settings Patch

variable {settings : PatcherSettings} {record : StateRecord}

/-! ## One step -/

theorem updateState_text_of_found {patch : Patch} {start stop : Nat}
    (hfound : findInitialValue patch.text record.reader.toList = some (start, stop)) :
    (updateState settings patch record).text =
      patch.text.take start ++ record.initialValue.toList ++ patch.text.drop stop := by
  simp only [updateState, hfound]
  rfl

/-- The words of a declaration that is added, up to the initial value. -/
def newDeclaration (record : StateRecord) : List Char :=
  "let ".toList ++ (record.reader.toList ++ " = ".toList)

theorem newDeclaration_append (rest : List Char) :
    newDeclaration record ++ rest =
      "let ".toList ++ (record.reader.toList ++ [' ']) ++ '=' :: ([' '] ++ rest) := by
  unfold newDeclaration
  rw [show " = ".toList = [' '] ++ '=' :: [' '] by rfl]
  simp only [List.append_assoc, List.cons_append]

@[simp]
theorem newline_mem_newDeclaration :
    '\n' ∈ newDeclaration record ↔ '\n' ∈ record.reader.toList := by
  unfold newDeclaration
  rw [List.mem_append, List.mem_append, or_iff_right (by decide), or_iff_left (by decide)]

/-- What is written behind the initial value of a declaration that is added. -/
def setterNote (record : StateRecord) : List Char :=
  "; // ".toList ++ record.writer.toList

@[simp]
theorem newline_mem_setterNote : '\n' ∈ setterNote record ↔ '\n' ∈ record.writer.toList := by
  unfold setterNote
  rw [List.mem_append, or_iff_right (by decide)]

/-- The line of a declaration that is added. -/
theorem toList_declaration :
    (s!"let {record.reader} = {record.initialValue}; // {record.writer}").toList =
      newDeclaration record ++ (record.initialValue.toList ++ setterNote record) := by
  have happend : ∀ first second third fourth fifth sixth : String,
      (first ++ second ++ third ++ fourth ++ fifth ++ sixth).toList =
        first.toList ++ (second.toList ++ third.toList) ++
          (fourth.toList ++ (fifth.toList ++ sixth.toList)) := by
    intro first second third fourth fifth sixth
    simp only [String.toList_append, List.append_assoc]
  exact happend "let " record.reader " = " record.initialValue "; // " record.writer

theorem updateState_text_of_region {patch : Patch} {start stop : Nat}
    (hnone : findInitialValue patch.text record.reader.toList = none)
    (hregion : findStateRegion settings patch.text = some (start, stop)) :
    (updateState settings patch record).text =
      patch.text.take stop ++ ('\n' :: indentAt patch.text start ++ (newDeclaration record ++
        (record.initialValue.toList ++ setterNote record))) ++ patch.text.drop stop := by
  rw [← toList_declaration]
  simp only [updateState, hnone, hregion]
  rfl

theorem updateState_of_none {patch : Patch}
    (hnone : findInitialValue patch.text record.reader.toList = none)
    (hregion : findStateRegion settings patch.text = none) :
    updateState settings patch record =
      patch.skip s!"Could not update state variable: {record.reader}" := by
  simp only [updateState, hnone, hregion]

theorem patch_text_state {page : List Char} :
    (patch settings page { state := [record] }).text =
      (updateState settings { text := page } record).text := rfl

/-! ## Values in their place -/

/-- The first declaration of a state variable in a page has exactly the initial value, which begins
at an index, and a patch with the variable changes nothing. -/
structure HoldsValue (settings : PatcherSettings) (record : StateRecord) (page : List Char)
    (start : Nat) : Prop where
  declared : ∃ begun, firstFound (letHeader record.reader.toList) none page = some (begun, start)
  value : dropEndWhile isBlank ((page.drop start).take (statementLength (page.drop start))) =
    record.initialValue.toList
  again : (patch settings page { state := [record] }).text = page

/-- The first declaration of a state variable in a page has the initial value, and its statement ends
there. -/
structure Declares (record : StateRecord) (page front head blanks after : List Char) : Prop where
  split : page = front ++ (head ++ '=' :: (blanks ++ (record.initialValue.toList ++ after)))
  declared : IsDeclared record.reader.toList front head blanks
    (record.initialValue.toList ++ after)
  ends : endsStatement (after.dropWhile isBlank)

section Declares

variable {page front head blanks after : List Char}

theorem Declares.statement (hdeclares : Declares record page front head blanks after)
    (hvalue : InitialLiteral record.initialValue.toList) :
    dropEndWhile isBlank ((record.initialValue.toList ++ after).take
      (statementLength (record.initialValue.toList ++ after))) = record.initialValue.toList := by
  have hafter : after.takeWhile isBlank ++ after.dropWhile isBlank = after :=
    List.takeWhile_append_dropWhile
  have hspace : (after.takeWhile isBlank).all isBlank := by simp
  have hstatement := hvalue.dropEndWhile_statement hspace hdeclares.ends
  rwa [hafter] at hstatement

/-- The search answers the initial value of such a declaration. -/
theorem Declares.found (hdeclares : Declares record page front head blanks after)
    (hvalue : InitialLiteral record.initialValue.toList) :
    findInitialValue page record.reader.toList =
      some ((front ++ (head ++ '=' :: blanks)).length,
        (front ++ (head ++ '=' :: blanks)).length + record.initialValue.toList.length) := by
  rw [hdeclares.split, hdeclares.declared.findInitialValue_eq, hdeclares.statement hvalue]

/-- Such a declaration holds its value. -/
theorem Declares.holdsValue (hdeclares : Declares record page front head blanks after)
    (hvalue : InitialLiteral record.initialValue.toList) :
    HoldsValue settings record page (front ++ (head ++ '=' :: blanks)).length := by
  have hpage : page =
      (front ++ (head ++ '=' :: blanks)) ++ (record.initialValue.toList ++ after) := by
    rw [hdeclares.split]
    simp
  have hfirst := firstFound_letHeader.mpr
    ⟨front, head, blanks, _, hdeclares.declared, hdeclares.split, rfl, rfl⟩
  refine ⟨⟨front.length, hfirst⟩, ?_, ?_⟩
  · rw [hpage, List.drop_left, hdeclares.statement hvalue]
  · rw [patch_text_state, updateState_text_of_found (hdeclares.found hvalue)]
    simp only
    rw [hpage, ← List.drop_drop, List.drop_left, List.take_left, List.drop_left,
      List.append_assoc (front ++ _)]

end Declares

/-- A page with an initial value: what stands in front of it and behind it. -/
theorem exists_of_findInitialValue {page : List Char} {start stop : Nat}
    (hfound : findInitialValue page record.reader.toList = some (start, stop)) :
    ∃ front head blanks value after,
      IsDeclared record.reader.toList front head blanks (value ++ after) ∧
      page = (front ++ (head ++ '=' :: blanks)) ++ (value ++ after) ∧
      start = (front ++ (head ++ '=' :: blanks)).length ∧ stop = start + value.length ∧
      endsStatement (after.dropWhile isBlank) := by
  obtain ⟨begun, hfirst⟩ := firstFound_of_findInitialValue hfound
  obtain ⟨front, head, blanks, rest, hdeclared, rfl, rfl, rfl⟩ := firstFound_letHeader.mp hfirst
  have hstop := hdeclared.findInitialValue_eq
  rw [hfound, Option.some.injEq, Prod.mk.injEq] at hstop
  -- behind the value come the blanks at its end and what ended the statement
  obtain ⟨space, hspace, hdrop⟩ := drop_statement rest
  have hends : endsStatement (rest.drop (statementLength rest)) :=
    endsStatement_drop_statementLength
  obtain ⟨value, after, hsplit, hvalue⟩ : ∃ value after, rest = value ++ after ∧
      value = dropEndWhile isBlank (rest.take (statementLength rest)) := by
    obtain ⟨run, -, hrun⟩ := dropEndWhile_append isBlank (rest.take (statementLength rest))
    refine ⟨_, run ++ rest.drop (statementLength rest), ?_, rfl⟩
    rw [← List.append_assoc, hrun, List.take_append_drop]
  rw [← hvalue] at hdrop hstop
  have hafter : after = space ++ rest.drop (statementLength rest) := by
    rw [← hdrop, hsplit, List.drop_left]
  refine ⟨front, head, blanks, value, after, hsplit ▸ hdeclared, ?_, rfl, hstop.2, ?_⟩
  · rw [← hsplit]
    simp
  · rw [hafter, dropWhile_append_of_head hspace (isBlank_head_of_endsStatement hends)]
    exact hends

/-- A new initial value goes between the equals sign and what ended the old one. -/
theorem declares_of_found {page : List Char} {start stop : Nat}
    (hreader : '=' ∉ record.reader.toList)
    (hvalue : InitialLiteral record.initialValue.toList)
    (hfound : findInitialValue page record.reader.toList = some (start, stop)) :
    ∃ front head blanks, start = (front ++ (head ++ '=' :: blanks)).length ∧
      Declares record (patch settings page { state := [record] }).text front head blanks
        (page.drop stop) := by
  rw [patch_text_state, updateState_text_of_found hfound]
  simp only
  obtain ⟨front, head, blanks, value, after, hdeclared, rfl, rfl, rfl, hends⟩ :=
    exists_of_findInitialValue hfound
  refine ⟨front, head, blanks, rfl, ?_⟩
  rw [← List.drop_drop, List.drop_left, List.take_left, List.drop_left]
  exact ⟨by simp, hdeclared.change hreader (hvalue.isBlank_head_append after), hends⟩

/-! ## New lines -/

/-- One text is another one with one more line. -/
def AddsOneLine (before after : List Char) : Prop :=
  ∃ above line below, lines before = above ++ below ∧ lines after = above ++ line :: below

theorem lines_append_newline {above below : List Char} :
    lines (above ++ '\n' :: below) = lines above ++ lines below :=
  List.splitOn_append_cons_self above below

theorem length_lines_eq_one {line : List Char} : (lines line).length = 1 ↔ '\n' ∉ line := by
  constructor
  · intro hlength hmem
    obtain ⟨above, below, rfl⟩ := List.append_of_mem hmem
    have habove : (lines above).length ≠ 0 := by
      rw [ne_eq, List.length_eq_zero_iff]
      exact List.splitOn_ne_nil _ _
    have hbelow : (lines below).length ≠ 0 := by
      rw [ne_eq, List.length_eq_zero_iff]
      exact List.splitOn_ne_nil _ _
    rw [lines_append_newline, List.length_append] at hlength
    omega
  · intro hline
    rw [lines, List.splitOn_eq_singleton hline]
    rfl

/-- A text put on a line of its own is one more line exactly if it has no newline. -/
theorem addsOneLine_iff {above line below : List Char} :
    AddsOneLine (above ++ '\n' :: below) (above ++ '\n' :: (line ++ '\n' :: below)) ↔
      '\n' ∉ line := by
  rw [← length_lines_eq_one]
  constructor
  · rintro ⟨above', line', below', hbefore, hafter⟩
    have hbefore := congrArg List.length hbefore
    have hafter := congrArg List.length hafter
    simp only [lines_append_newline, List.length_append, List.length_cons] at hbefore hafter
    omega
  · intro hline
    obtain ⟨only, honly⟩ := List.length_eq_one_iff.mp hline
    refine ⟨lines above, only, lines below, lines_append_newline, ?_⟩
    rw [lines_append_newline, lines_append_newline, honly]
    rfl

/-- A new declaration is the first one if there is none in front of its line. -/
theorem isDeclared_of_line {front indent below rest : List Char}
    (hreader : '=' ∉ record.reader.toList) (hindent : indent.all isBlank)
    (hpasses : Finder.Passes (letHeader record.reader.toList) none front below)
    (hrest : ∀ character ∈ rest.head?, isBlank character = false) :
    IsDeclared record.reader.toList (front ++ '\n' :: indent)
      ("let ".toList ++ (record.reader.toList ++ [' '])) [' '] rest := by
  have hheader : IsLetHeader record.reader.toList
      ("let ".toList ++ (record.reader.toList ++ [' '])) :=
    ⟨[' '], [' '], by simp, by decide, by decide, by simp⟩
  have hgap : '=' ∉ '\n' :: indent := by
    intro hmem
    exact absurd (List.all_eq_true.mp (isSpace_of_indent hindent) _ hmem) (by decide)
  refine ⟨?_, startsWord_of_indent hindent, hheader, by decide, hrest⟩
  refine (letHeader_marked hreader).passes_append hpasses hgap (hheader.not_mem_equals hreader) ?_
  intro left right hright hsplit hword
  exact not_isLetHeader_append hright hheader

/-- A new declaration stands at the end of the state region. -/
theorem declares_of_region {page : List Char} {start stop : Nat}
    (hreader : '=' ∉ record.reader.toList)
    (hvalue : InitialLiteral record.initialValue.toList)
    (hnone : findInitialValue page record.reader.toList = none)
    (hregion : findStateRegion settings page = some (start, stop)) :
    Declares record (patch settings page { state := [record] }).text
      (page.take stop ++ '\n' :: indentAt page start)
      ("let ".toList ++ (record.reader.toList ++ [' '])) [' ']
      (setterNote record ++ page.drop stop) := by
  have hpasses : Finder.Passes (letHeader record.reader.toList) none (page.take stop)
      (page.drop stop) := by
    have hwhole := passes_of_firstFound_eq_none (findInitialValue_eq_none.mp hnone)
    rw [← List.take_append_drop stop page, Finder.passes_append, List.append_nil] at hwhole
    exact hwhole.1
  have hindent : (indentAt page start).all isBlank := all_leadingBlanks
  refine ⟨?_, isDeclared_of_line hreader hindent hpasses (hvalue.isBlank_head_append _), ?_⟩
  · rw [patch_text_state, updateState_text_of_region hnone hregion]
    simp only [newDeclaration_append, List.append_assoc, List.cons_append]
  · rfl

/-- A declaration at the end of the state region is one more line exactly if neither its value nor
its setter has a newline in it. -/
theorem addsOneLine_of_region {page : List Char} {start stop : Nat}
    (hreader : '\n' ∉ record.reader.toList)
    (hnone : findInitialValue page record.reader.toList = none)
    (hregion : findStateRegion settings page = some (start, stop)) :
    AddsOneLine page (patch settings page { state := [record] }).text ↔
      '\n' ∉ record.initialValue.toList ∧ '\n' ∉ record.writer.toList := by
  obtain ⟨below, hbelow⟩ := drop_stop_of_findStateRegion hregion
  have hindent : '\n' ∉ indentAt page start := newline_not_mem_of_isBlank all_leadingBlanks
  have hpage : page = page.take stop ++ '\n' :: below := by
    rw [← hbelow, List.take_append_drop]
  have hpatched : (patch settings page { state := [record] }).text =
      page.take stop ++ '\n' :: ((indentAt page start ++ (newDeclaration record ++
        (record.initialValue.toList ++ setterNote record))) ++ '\n' :: below) := by
    rw [patch_text_state, updateState_text_of_region hnone hregion]
    simp only [hbelow, List.append_assoc, List.cons_append]
  have hline : AddsOneLine (page.take stop ++ '\n' :: below)
      (patch settings page { state := [record] }).text ↔
        '\n' ∉ indentAt page start ++ (newDeclaration record ++
          (record.initialValue.toList ++ setterNote record)) := by
    rw [hpatched]
    exact addsOneLine_iff
  rw [← hpage] at hline
  rw [hline]
  simp [hindent, hreader]

/-- A patch with one state variable gives a new value to its first declaration, or adds a declaration
to the state region, or skips the variable. In the first two cases the first declaration then holds
exactly the value, and the same patch changes nothing more; the text around the value or the new
declaration stays. What is added is one line exactly if neither the value nor the name of the setter
has a newline in it. -/
theorem patch_state_exact {page : List Char}
    (hequals : '=' ∉ record.reader.toList) (hnewline : '\n' ∉ record.reader.toList)
    (hvalue : InitialLiteral record.initialValue.toList) :
    (∃ begun start stop,
      firstFound (letHeader record.reader.toList) none page = some (begun, start) ∧
      (patch settings page { state := [record] }).text =
        page.take start ++ record.initialValue.toList ++ page.drop stop ∧
      endsStatement ((page.drop stop).dropWhile isBlank) ∧
      HoldsValue settings record (patch settings page { state := [record] }).text start) ∨
    (∃ start stop indent,
      firstFound (letHeader record.reader.toList) none page = none ∧
      findStateRegion settings page = some (start, stop) ∧ indent = indentAt page start ∧
      (patch settings page { state := [record] }).text =
        page.take stop ++ ('\n' :: indent ++ (newDeclaration record ++
          (record.initialValue.toList ++ setterNote record))) ++ page.drop stop ∧
      (AddsOneLine page (patch settings page { state := [record] }).text ↔
        '\n' ∉ record.initialValue.toList ∧ '\n' ∉ record.writer.toList) ∧
      HoldsValue settings record (patch settings page { state := [record] }).text
        (page.take stop ++ '\n' :: indent ++ newDeclaration record).length) ∨
    (firstFound (letHeader record.reader.toList) none page = none ∧
      findStateRegion settings page = none ∧
      (patch settings page { state := [record] }).outcome.skipped = 1 ∧
      (patch settings page { state := [record] }).text = page) := by
  cases hfound : findInitialValue page record.reader.toList with
  | some found =>
    obtain ⟨start, stop⟩ := found
    obtain ⟨begun, hfirst⟩ := firstFound_of_findInitialValue hfound
    obtain ⟨front, head, blanks, rfl, hdeclares⟩ := declares_of_found hequals hvalue hfound
    exact .inl ⟨begun, _, stop, hfirst, updateState_text_of_found hfound, hdeclares.ends,
      hdeclares.holdsValue hvalue⟩
  | none =>
    have hnone := findInitialValue_eq_none.mp hfound
    cases hregion : findStateRegion settings page with
    | some found =>
      obtain ⟨start, stop⟩ := found
      have hdeclares := declares_of_region hequals hvalue hfound hregion
      have hplace : HoldsValue settings record _ _ := hdeclares.holdsValue hvalue
      refine .inr (.inl ⟨start, stop, _, hnone, rfl, rfl,
        updateState_text_of_region hfound hregion,
        addsOneLine_of_region hnewline hfound hregion, ?_⟩)
      simpa [newDeclaration] using hplace
    | none =>
      refine .inr (.inr ⟨hnone, rfl, ?_, ?_⟩)
      · show (updateState settings { text := page } record).outcome.skipped = 1
        rw [updateState_of_none hfound hregion]
        rfl
      · rw [patch_text_state, updateState_of_none hfound hregion]
        rfl

/-- A state variable that counts. -/
def counter : StateRecord :=
  { reader := "x", writer := "setX", initialValue := "1" }

/-- Everything that `patch_state_exact` assumes holds of a number. -/
theorem patch_state_exact_counter :
    HoldsValue {} counter (patch {} "let x = 0;".toList { state := [counter] }).text 8 := by
  have hvalue : InitialLiteral counter.initialValue.toList := .word (by decide) (by decide)
  have hfirst : firstFound (letHeader counter.reader.toList) none "let x = 0;".toList =
      some (0, 8) := by decide
  rcases @patch_state_exact {} counter "let x = 0;".toList (by decide) (by decide) hvalue with
    ⟨begun, start, stop, hfound, -, -, hplace⟩ | ⟨start, stop, indent, hnone, -⟩ | ⟨hnone, -⟩
  · rw [hfirst, Option.some.injEq, Prod.mk.injEq] at hfound
    obtain ⟨-, rfl⟩ := hfound
    exact hplace
  · rw [hfirst] at hnone
    simp at hnone
  · rw [hfirst] at hnone
    simp at hnone

/-- A state variable whose initial value is a string over two lines. -/
def folded : StateRecord :=
  { reader := "x", writer := "setX", initialValue := "\"a\\\nb\"" }

/-- A complete string in double quotes can add more than one line. -/
theorem patch_state_not_one_line :
    InitialLiteral folded.initialValue.toList ∧
      firstFound (letHeader folded.reader.toList) none "// Global state\n//".toList = none ∧
      findStateRegion {} "// Global state\n//".toList = some (0, 15) ∧
      ¬ AddsOneLine "// Global state\n//".toList
        (patch {} "// Global state\n//".toList { state := [folded] }).text := by
  have hvalue : InitialLiteral folded.initialValue.toList := .string (by decide)
  have hnone : firstFound (letHeader folded.reader.toList) none "// Global state\n//".toList =
      none := by decide
  have hregion : findStateRegion {} "// Global state\n//".toList = some (0, 15) := by
    decide
  refine ⟨hvalue, hnone, hregion, ?_⟩
  rw [addsOneLine_of_region (by decide) (findInitialValue_eq_none.mpr hnone) hregion]
  rintro ⟨hline, -⟩
  exact absurd hline (by decide)

end PageGraft.Page
