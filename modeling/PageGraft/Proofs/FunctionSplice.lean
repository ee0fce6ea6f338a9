import PageGraft.Page.Patch
import PageGraft.Proofs.Declaration

/-!
# Bringing one function into a page

A patch puts the code of a function in the place of its declaration, or in front of the insertion
marker. The code is assumed to be found whole wherever a text begins with it (`SelfLocating`). The
main result, `patch_function_exact`, says what the page is then: the code stands where the patch put
it and is what the search finds, nothing else has changed, and the same patch changes nothing more.

The proof rests on `passes_splice`: a splice makes no header begin in front of the code, unless the
text there ends with the word `async`.
-/

namespace PageGraft.Page

open PageGraft.Text PageGraft.Script PageGraft.Settings Patch

/-! ## Code in its place -/

/-- Code behind an indentation that stands in the page already: its later lines get the same. -/
def hang (indent code : List Char) : List Char :=
  (indentLines indent code).drop indent.length

/-- The text begins with a declaration that ends with it, whatever comes behind. -/
def StandsAlone (balancedMatching : Bool) (name code : List Char) : Prop :=
  ∀ after, ∃ span, findFunction balancedMatching (code ++ after) name = some span ∧
    span.start = 0 ∧ span.stop = code.length

/-- The code is found whole at every indentation and in front of every text. -/
def SelfLocating (balancedMatching : Bool) (name code : List Char) : Prop :=
  ∀ indent, indent.all isBlank → StandsAlone balancedMatching name (hang indent code)

/-- The text ends with the word `async` and white space. -/
def EndsInAsync (text : List Char) : Prop :=
  ∃ begun gap, startsWord begun.getLast? ∧ gap.all isSpace ∧
    text = begun ++ ("async".toList ++ gap)

variable {balancedMatching : Bool} {name code : List Char}

/-- Nothing hangs behind no indentation. -/
theorem hang_nil : hang [] code = code := by
  have hline : ∀ line : List Char, (if isBlankLine line then line else [] ++ line) = line := by
    intro line
    split <;> rfl
  simp only [hang, indentLines, hline, List.map_id', List.length_nil, List.drop_zero]
  exact List.intercalate_splitOn '\n'

/-- Indented code is the indentation and the code that hangs behind it, unless the first line is
blank. -/
theorem indentLines_eq_append_hang {indent : List Char} {character : Char} {rest : List Char}
    (hhead : isSpace character = false) :
    indentLines indent (character :: rest) = indent ++ hang indent (character :: rest) := by
  obtain ⟨line, later, hlines, hline⟩ : ∃ line later,
      lines (character :: rest) = line :: later ∧ isBlankLine line = false := by
    have hjoin : unlines (lines (character :: rest)) = character :: rest :=
      List.intercalate_splitOn '\n'
    cases hlines : lines (character :: rest) with
    | nil => simp [hlines, unlines] at hjoin
    | cons line later =>
      refine ⟨line, later, rfl, ?_⟩
      rw [hlines] at hjoin
      cases line with
      | cons first line =>
        have hfirst : (unlines ((first :: line) :: later)).head? = some first := by
          cases later <;> simp [unlines, List.intercalate]
        rw [hjoin, List.head?_cons, Option.some.injEq] at hfirst
        simp [isBlankLine, ← hfirst, hhead]
      | nil =>
        -- the text would begin with the newline behind its first line
        cases later with
        | nil => simp [unlines] at hjoin
        | cons second later =>
          have hnewline : '\n' = character := by
            simp only [unlines, List.intercalate, List.intersperse_cons_cons, List.flatten_cons,
              List.nil_append, List.singleton_append, List.cons.injEq] at hjoin
            exact hjoin.1
          rw [← hnewline] at hhead
          exact absurd hhead (by decide)
  have hindented : indentLines indent (character :: rest) =
      indent ++ (indentLines indent (character :: rest)).drop indent.length := by
    simp only [indentLines, hlines, List.map_cons, hline, Bool.false_eq_true, if_false]
    cases later.map fun line => if isBlankLine line then line else indent ++ line <;>
      simp [unlines, List.intercalate]
  exact hindented

/-- What stands alone begins with a header that has its parenthesis. -/
theorem StandsAlone.header (halone : StandsAlone balancedMatching name code) :
    ∃ head rest, IsHeader name head ∧ code = head ++ '(' :: rest := by
  obtain ⟨span, hfound, hstart, -⟩ := halone []
  obtain ⟨brace, -, hheader, -⟩ := findFunction_eq_some.mp hfound
  obtain ⟨front, rest, length, -, htext, hfront, hheader, -⟩ := functionHeader_of_headerFrom hheader
  rw [hstart, List.length_eq_zero_iff] at hfront
  obtain ⟨-, head, tail, hspelled, hrest, -⟩ := functionHeader_eq_some.mp hheader
  refine ⟨head, tail, hspelled, ?_⟩
  rw [← hrest, ← List.append_nil code, htext, hfront, List.nil_append]

/-- A declaration on one line locates itself if its parameters and its body end by the rules of the
search, whatever comes behind. -/
theorem SelfLocating.of_line {head rest : List Char} {rule : BodyEnd} {distance : Nat}
    (hheader : IsHeader name head) (hline : '\n' ∉ head ++ '(' :: rest)
    (hparameters : ∀ after, bodyDistance ('(' :: rest ++ after) = some distance)
    (hbody : ∀ after, bodyEnd? balancedMatching (('(' :: rest ++ after).drop distance) =
      some (rule, rest.length + 1 - distance))
    (hdistance : distance ≤ rest.length) :
    SelfLocating balancedMatching name (head ++ '(' :: rest) := by
  intro indent hindent
  have hhang : hang indent (head ++ '(' :: rest) = head ++ '(' :: rest := by
    have hnotBlank : isBlankLine (head ++ '(' :: rest) = false := by
      rw [isBlankLine, List.all_append, List.all_cons, show isSpace '(' = false by decide]
      simp
    rw [hang, indentLines, lines, List.splitOn_eq_singleton hline]
    simp [hnotBlank, unlines, List.intercalate]
  rw [hhang]
  intro after
  have hdrop : (head ++ '(' :: rest ++ after).drop head.length = '(' :: rest ++ after := by
    rw [List.append_assoc, List.drop_left]
  have hplaced : findHeader (head ++ '(' :: rest ++ after) name =
      some (0, head.length + distance) := by
    rw [List.append_assoc]
    exact findHeader_of_isHeader hheader (hparameters after)
  have hend : bodyEnd? balancedMatching
      ((head ++ '(' :: rest ++ after).drop (head.length + distance)) =
        some (rule, rest.length + 1 - distance) := by
    rw [← List.drop_drop, hdrop]
    exact hbody after
  refine ⟨⟨0, _, indentAt (head ++ '(' :: rest ++ after) 0, rule⟩,
    findFunction_eq_some.mpr ⟨_, _, hplaced, hend, rfl, rfl⟩, rfl, ?_⟩
  simp only [List.length_append, List.length_cons]
  omega

/-- White space at the end does not matter for whether a text ends in `async`. -/
theorem EndsInAsync.of_append {text gap : List Char} (hgap : gap.all isSpace)
    (hends : EndsInAsync (text ++ gap)) : EndsInAsync text := by
  obtain ⟨begun, space, hword, hspace, htext⟩ := hends
  rw [← List.append_assoc] at htext
  rcases List.append_eq_append_iff.mp htext with ⟨middle, hasync, rfl⟩ | ⟨middle, rfl, rfl⟩
  · -- the gap would hold the end of `async`
    rcases List.eq_nil_or_concat middle with rfl | ⟨front, last, rfl⟩
    · exact ⟨begun, [], hword, rfl, by simpa using hasync.symm⟩
    · have hlast := congrArg List.getLast? hasync
      obtain rfl : 'c' = last := by simpa using hlast
      exact absurd (List.all_eq_true.mp hgap 'c' (by simp)) (by decide)
  · rw [List.all_append, Bool.and_eq_true] at hspace
    exact ⟨begun, middle, hword, hspace.1, by simp⟩

theorem EndsInAsync.getLast?_eq {text : List Char} (hends : EndsInAsync text) :
    ∃ last, text.getLast? = some last ∧ (last = 'c' ∨ isSpace last) := by
  obtain ⟨begun, gap, -, hgap, rfl⟩ := hends
  rcases List.eq_nil_or_concat gap with rfl | ⟨front, last, rfl⟩
  · exact ⟨'c', by simp, .inl rfl⟩
  · refine ⟨last, ?_, .inr (List.all_eq_true.mp hgap last (by simp))⟩
    rw [List.concat_eq_append, ← List.append_assoc, ← List.append_assoc, List.getLast?_concat]

/-- A splice makes no header begin in front of the code that it puts into the page. -/
theorem passes_splice {front gap rest after : List Char} (hname : '(' ∉ name)
    (hpasses : Finder.Passes (functionHeader name) none front rest)
    (hgap : gap.all isSpace) (hasync : ¬ EndsInAsync front)
    (halone : StandsAlone balancedMatching name code) :
    Finder.Passes (functionHeader name) none (front ++ gap) (code ++ after) := by
  obtain ⟨head, tail, hheader, rfl⟩ := halone.header
  have hgapParen : '(' ∉ gap := by
    intro hmem
    exact absurd (List.all_eq_true.mp hgap _ hmem) (by decide)
  rw [List.append_assoc, List.cons_append]
  refine (functionHeader_marked hname).passes_append hpasses hgapParen
    (hheader.not_mem_paren hname) ?_
  intro left right hright hsplit hword hlonger
  obtain ⟨space, hspace, rfl⟩ := asyncFront_of_isHeader_append hright hheader hlonger
  exact hasync (EndsInAsync.of_append hgap ⟨left, space, by simpa using hword, hspace, hsplit⟩)

/-! ## One step -/

variable {settings : PatcherSettings} {record : FunctionRecord}

theorem updateFunction_text_of_found {patch : Patch} {span : FunctionSpan}
    (hfound : findFunction settings.balancedMatching patch.text record.name.toList = some span) :
    (updateFunction settings patch record).text =
      patch.text.take span.start ++ hang span.indent (functionCode record) ++
        patch.text.drop span.stop := by
  simp only [updateFunction, hfound]
  rfl

theorem updateFunction_text_of_marker {patch : Patch} {index : Nat}
    (hnone : findFunction settings.balancedMatching patch.text record.name.toList = none)
    (hmarker : insertionIndex patch.text settings.insertionMarker.toList = some index) :
    (updateFunction settings patch record).text =
      patch.text.take index ++
        ('\n' :: indentLines (List.replicate settings.insertionIndent ' ') (functionCode record) ++
          ['\n', '\n']) ++
        patch.text.drop index := by
  simp only [updateFunction, hnone, hmarker]
  rfl

theorem updateFunction_of_none {patch : Patch}
    (hnone : findFunction settings.balancedMatching patch.text record.name.toList = none)
    (hmarker : insertionIndex patch.text settings.insertionMarker.toList = none) :
    updateFunction settings patch record =
      patch.skip s!"Could not find insertion point for function: {record.name}" := by
  simp only [updateFunction, hnone, hmarker]

theorem patch_text_function {page : List Char} :
    (patch settings page { functions := [record] }).text =
      (updateFunction settings { text := page } record).text := rfl

/-- Code stands in a page between two texts: the search for the function finds exactly the code,
and a patch with the function changes nothing. -/
structure IsInPlace (settings : PatcherSettings) (record : FunctionRecord)
    (page front code after : List Char) : Prop where
  split : page = front ++ code ++ after
  found : ∃ span, findFunction settings.balancedMatching page record.name.toList = some span ∧
    span.start = front.length ∧ span.stop = front.length + code.length
  again : (patch settings page { functions := [record] }).text = page

/-- The code of a function hangs in a page behind an indentation, and no header of the function
begins in front of it. -/
structure Hangs (record : FunctionRecord) (page front indent after : List Char) : Prop where
  split : page = front ++ hang indent (functionCode record) ++ after
  indented : leadingBlanks (lastLine front) = indent
  word : startsWord front.getLast?
  passes : Finder.Passes (functionHeader record.name.toList) none front
    (hang indent (functionCode record) ++ after)

section Hangs

variable {page front indent after : List Char}

theorem Hangs.standsAlone (hhangs : Hangs record page front indent after)
    (hcode : SelfLocating balancedMatching record.name.toList (functionCode record)) :
    StandsAlone balancedMatching record.name.toList (hang indent (functionCode record)) := by
  refine hcode indent ?_
  rw [← hhangs.indented]
  exact all_leadingBlanks

/-- Code that hangs in a page is found there. -/
theorem Hangs.found (hhangs : Hangs record page front indent after)
    (hcode : SelfLocating balancedMatching record.name.toList (functionCode record)) :
    ∃ span, findFunction balancedMatching page record.name.toList = some span ∧
      span.start = front.length ∧
      span.stop = front.length + (hang indent (functionCode record)).length ∧
      span.indent = indent := by
  obtain ⟨span, hfound, hstart, hstop⟩ := hhangs.standsAlone hcode after
  have hplaced := findFunction_append hfound hstart hhangs.word hhangs.passes
  rw [← List.append_assoc, ← hhangs.split, hhangs.indented, hstop] at hplaced
  exact ⟨_, hplaced, rfl, rfl, rfl⟩

/-- Code that hangs in a page is in place. -/
theorem Hangs.isInPlace (hhangs : Hangs record page front indent after)
    (hcode : SelfLocating settings.balancedMatching record.name.toList (functionCode record)) :
    IsInPlace settings record page front (hang indent (functionCode record)) after := by
  obtain ⟨span, hfound, hstart, hstop, hindent⟩ := hhangs.found hcode
  refine ⟨hhangs.split, ⟨span, hfound, hstart, hstop⟩, ?_⟩
  rw [patch_text_function, updateFunction_text_of_found hfound]
  simp only [hstart, hstop, hindent]
  rw [hhangs.split, ← List.length_append, List.drop_left, List.append_assoc front, List.take_left,
    ← List.append_assoc]

end Hangs

/-! ## The patch of a page with one function -/

/-- Where a patch puts the code of a function. -/
def splicePoint (settings : PatcherSettings) (record : FunctionRecord) (page : List Char) :
    Option Nat :=
  match findFunction settings.balancedMatching page record.name.toList with
  | some span => some span.start
  | none => insertionIndex page settings.insertionMarker.toList

/-- No header of the function begins in front of the declaration that is found; without a
declaration, none begins anywhere. -/
def DeclaredFirst (balancedMatching : Bool) (name page : List Char) : Prop :=
  ∀ start ∈ headerStarts name page,
    ∃ span, findFunction balancedMatching page name = some span ∧ span.start ≤ start

theorem DeclaredFirst.passes {page front rest : List Char}
    (hpage : DeclaredFirst balancedMatching name page) (hsplit : page = front ++ rest)
    (hfront : ∀ span, findFunction balancedMatching page name = some span →
      front.length ≤ span.start) :
    Finder.Passes (functionHeader name) none front rest := by
  rintro left right hright rfl
  rw [Option.eq_none_iff_forall_ne_some, Option.or_none]
  intro length hheader
  have hmem : left.length ∈ headerStarts name page := by
    rw [hsplit, List.append_assoc]
    exact length_mem_headerStarts hheader
  obtain ⟨span, hspan, hstart⟩ := hpage left.length hmem
  have hlonger := hfront span hspan
  have hpositive := List.length_pos_iff.mpr hright
  rw [List.length_append] at hlonger
  omega

/-- Code in the place of the declaration that is found hangs there. -/
theorem hangs_of_found {page : List Char} {span : FunctionSpan}
    (hname : '(' ∉ record.name.toList)
    (hcode : SelfLocating settings.balancedMatching record.name.toList (functionCode record))
    (hpage : DeclaredFirst settings.balancedMatching record.name.toList page)
    (hfound : findFunction settings.balancedMatching page record.name.toList = some span)
    (hasync : ¬ EndsInAsync (page.take span.start)) :
    Hangs record (patch settings page { functions := [record] }).text
      (page.take span.start) span.indent (page.drop span.stop) := by
  rw [patch_text_function, updateFunction_text_of_found hfound]
  obtain ⟨brace, -, hheader, -, -, hindent⟩ := findFunction_eq_some.mp hfound
  obtain ⟨front, rest, length, -, hsplit, hstart, hheader, -⟩ :=
    functionHeader_of_headerFrom hheader
  have htake : page.take span.start = front := by rw [hsplit, ← hstart, List.take_left]
  have hline : leadingBlanks (lastLine front) = span.indent := by
    rw [hindent, hsplit, ← hstart, indentAt_append (isSpace_head_of_functionHeader hheader)]
  have hpasses : Finder.Passes (functionHeader record.name.toList) none front rest := by
    refine hpage.passes hsplit ?_
    intro other hother
    obtain rfl : span = other := by simpa [hfound] using hother
    exact hstart.le
  rw [htake] at hasync
  simp only [htake]
  refine ⟨rfl, hline, ?_, ?_⟩
  · have hword := (functionHeader_eq_some.mp hheader).1
    rwa [Option.or_none] at hword
  · have halone := hcode (leadingBlanks (lastLine front)) all_leadingBlanks
    rw [hline] at halone
    rw [← List.append_nil front]
    exact passes_splice hname hpasses rfl hasync halone

/-- Self-locating code goes into a page behind the indentation of its first line. -/
theorem SelfLocating.indentLines_eq {indent : List Char}
    (hcode : SelfLocating balancedMatching name code) :
    indentLines indent code = indent ++ hang indent code := by
  have halone := hcode [] rfl
  rw [hang_nil] at halone
  obtain ⟨span, hfound, hstart, -⟩ := halone []
  have hletter := isSpace_head_of_findFunction hfound hstart
  rw [List.append_nil] at hletter
  cases code with
  | nil =>
    obtain ⟨head, rest, -, hempty⟩ := halone.header
    simp at hempty
  | cons character rest => exact indentLines_eq_append_hang (hletter character rfl)

/-- Code that is put in front of the insertion marker hangs there. -/
theorem hangs_of_insertion {page indent : List Char} {index : Nat}
    (hname : '(' ∉ record.name.toList)
    (hcode : SelfLocating settings.balancedMatching record.name.toList (functionCode record))
    (hpage : DeclaredFirst settings.balancedMatching record.name.toList page)
    (hnone : findFunction settings.balancedMatching page record.name.toList = none)
    (hmarker : insertionIndex page settings.insertionMarker.toList = some index)
    (hasync : ¬ EndsInAsync (page.take index))
    (hindent : indent = List.replicate settings.insertionIndent ' ') :
    Hangs record (patch settings page { functions := [record] }).text
      (page.take index ++ '\n' :: indent) indent ('\n' :: '\n' :: page.drop index) := by
  have hblanks : indent.all isBlank := by simp [hindent, isBlank]
  have hpasses : Finder.Passes (functionHeader record.name.toList) none (page.take index)
      (page.drop index) := by
    refine hpage.passes (List.take_append_drop index page).symm ?_
    intro span hspan
    simp [hnone] at hspan
  refine ⟨?_, ?_, startsWord_of_indent hblanks, ?_⟩
  · rw [patch_text_function, updateFunction_text_of_marker hnone hmarker, hcode.indentLines_eq,
      hindent]
    simp only [List.append_assoc, List.cons_append, List.nil_append]
  · rw [lastLine_append_newline (newline_not_mem_of_isBlank hblanks), leadingBlanks, List.takeWhile_eq_self_iff]
    exact List.all_eq_true.mp hblanks
  · exact passes_splice hname hpasses (isSpace_of_indent hblanks) hasync (hcode indent hblanks)

/-- A patch with one function skips it, or brings its code into the page exactly: the code is what
the search for the function then finds, the rest of the page stays, and the same patch changes
nothing more. -/
theorem patch_function_exact {page : List Char}
    (hname : '(' ∉ record.name.toList)
    (hcode : SelfLocating settings.balancedMatching record.name.toList (functionCode record))
    (hpage : DeclaredFirst settings.balancedMatching record.name.toList page)
    (hasync : ∀ point ∈ splicePoint settings record page, ¬ EndsInAsync (page.take point)) :
    (findFunction settings.balancedMatching page record.name.toList = none ∧
      insertionIndex page settings.insertionMarker.toList = none ∧
      (patch settings page { functions := [record] }).outcome.skipped = 1 ∧
      (patch settings page { functions := [record] }).text = page) ∨
    (∃ span, findFunction settings.balancedMatching page record.name.toList = some span ∧
      IsInPlace settings record (patch settings page { functions := [record] }).text
        (page.take span.start) (hang span.indent (functionCode record)) (page.drop span.stop)) ∨
    (∃ index indent, findFunction settings.balancedMatching page record.name.toList = none ∧
      insertionIndex page settings.insertionMarker.toList = some index ∧
      indent = List.replicate settings.insertionIndent ' ' ∧
      IsInPlace settings record (patch settings page { functions := [record] }).text
        (page.take index ++ '\n' :: indent) (hang indent (functionCode record))
        ('\n' :: '\n' :: page.drop index)) := by
  cases hfound : findFunction settings.balancedMatching page record.name.toList with
  | some span =>
    have hpoint : ¬ EndsInAsync (page.take span.start) :=
      hasync span.start (by simp [splicePoint, hfound])
    have hhangs := hangs_of_found hname hcode hpage hfound hpoint
    exact .inr (.inl ⟨span, rfl, hhangs.isInPlace hcode⟩)
  | none =>
    cases hmarker : insertionIndex page settings.insertionMarker.toList with
    | none =>
      refine .inl ⟨rfl, rfl, ?_, ?_⟩
      · show (updateFunction settings { text := page } record).outcome.skipped = 1
        rw [updateFunction_of_none hfound hmarker]
        rfl
      · rw [patch_text_function, updateFunction_of_none hfound hmarker]
        rfl
    | some index =>
      have hpoint : ¬ EndsInAsync (page.take index) :=
        hasync index (by simp [splicePoint, hfound, hmarker])
      have hhangs := hangs_of_insertion hname hcode hpage hfound hmarker hpoint rfl
      exact .inr (.inr ⟨index, _, rfl, rfl, rfl, hhangs.isInPlace hcode⟩)

/-- The declaration of an empty function locates itself. -/
theorem SelfLocating.of_empty {head : List Char} (hheader : IsHeader name head)
    (hline : '\n' ∉ head) : SelfLocating true name (head ++ "() \x7b\x7d".toList) := by
  have hparameters : ∀ after, bodyDistance ('(' :: ") \x7b\x7d".toList ++ after) = some 3 := by
    intro after
    cbv
  have hbody : ∀ after, bodyEnd? true (('(' :: ") \x7b\x7d".toList ++ after).drop 3) =
      some (.balanced, 2) := by
    intro after
    cbv
  refine SelfLocating.of_line hheader ?_ hparameters hbody (by decide)
  rw [List.mem_append, not_or]
  exact ⟨hline, by decide⟩

/-- An empty function. -/
def emptyFunction : FunctionRecord :=
  { name := "go", text := "function go() \x7b\x7d" }

set_option maxRecDepth 20000 in
/-- Everything that `patch_function_exact` assumes holds of an empty function in a page that
declares it. -/
theorem patch_function_exact_emptyFunction :
    IsInPlace {} emptyFunction
      (patch {} "function go() \x7b;\x7d".toList { functions := [emptyFunction] }).text []
      (hang [] (functionCode emptyFunction)) [] := by
  generalize hpage : "function go() \x7b;\x7d".toList = page
  have hcode : SelfLocating true emptyFunction.name.toList (functionCode emptyFunction) := by
    have htext : functionCode emptyFunction = "function go".toList ++ "() \x7b\x7d".toList := by
      decide
    rw [htext]
    exact SelfLocating.of_empty
      ⟨[], [' '], [], .inl rfl, by decide, by decide, by decide, by decide⟩ (by decide)
  have hfound : findFunction true page emptyFunction.name.toList =
      some ⟨0, 17, [], .balanced⟩ := by
    rw [← hpage]
    cbv
  have hfirst : DeclaredFirst true emptyFunction.name.toList page := by
    have hstarts : headerStarts emptyFunction.name.toList page = [0] := by
      rw [← hpage]
      decide
    intro start hstart
    rw [hstarts, List.mem_singleton] at hstart
    exact ⟨_, hfound, hstart.symm.le⟩
  have hasync : ∀ point ∈ splicePoint {} emptyFunction page, ¬ EndsInAsync (page.take point) := by
    intro point hpoint hends
    rw [splicePoint, hfound] at hpoint
    obtain rfl : 0 = point := by simpa using hpoint
    obtain ⟨last, hlast, -⟩ := hends.getLast?_eq
    simp at hlast
  rcases @patch_function_exact {} emptyFunction page (by decide) hcode hfirst hasync with
    ⟨hnone, -⟩ | ⟨span, hspan, hplace⟩ | ⟨index, indent, hnone, -⟩
  · rw [hfound] at hnone
    simp at hnone
  · rw [hfound, Option.some.injEq] at hspan
    have hafter : page.drop span.stop = [] := by
      rw [← hspan, ← hpage]
      decide
    rw [hafter, ← hspan] at hplace
    exact hplace
  · rw [hfound] at hnone
    simp at hnone

/-- A function whose name repeats a header. -/
def parenthesised : FunctionRecord :=
  { name := "x(function x", text := "function x(function x() \x7b\x7d" }

theorem functionCode_parenthesised : functionCode parenthesised =
    "function x(function x".toList ++ "() \x7b\x7d".toList := by
  decide

set_option maxRecDepth 20000 in
/-- With a parenthesis in the name, a splice can make a header begin in front of the code. -/
theorem patch_function_not_exact :
    let page := "function x(function  x(function x() \x7b;\x7d".toList
    let name := parenthesised.name.toList
    headerStarts name (functionCode parenthesised) = [0] ∧
      SelfLocating true name (functionCode parenthesised) ∧
      headerStarts name page = [11] ∧
      findFunction true page name = some ⟨11, 39, [], .balanced⟩ ∧
      ¬ EndsInAsync (page.take 11) ∧
      (patch {} page { functions := [parenthesised] }).text =
        page.take 11 ++ functionCode parenthesised ∧
      findFunction true (patch {} page { functions := [parenthesised] }).text name = none := by
  have hheader : IsHeader parenthesised.name.toList "function x(function x".toList :=
    ⟨[], [' '], [], .inl rfl, by decide, by decide, by decide, by decide⟩
  refine ⟨by decide, ?_, by decide, by cbv, ?_, by cbv, by cbv⟩
  · rw [functionCode_parenthesised]
    exact SelfLocating.of_empty hheader (by decide)
  · intro hends
    obtain ⟨last, hlast, hcase⟩ := hends.getLast?_eq
    obtain rfl : '(' = last := by simpa using hlast
    rcases hcase with hcase | hcase
    · exact absurd hcase (by decide)
    · exact absurd hcase (by decide)

end PageGraft.Page
