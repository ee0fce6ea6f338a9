import PageGraft.Proofs.Seam

/-!
# Changes that stay settled

A change is settled in a page if making it once more does nothing: its code or value stands where
the search finds it, or the page has neither a declaration nor a place for it. A change settles
itself (`Change.settled_apply`), and a later change that spares it keeps it settled
(`Change.Settled.write`). A splice spares a change if it takes out nothing of its declaration and, in
front of the declaration, puts in no other one and leaves the indentation alone.
-/

namespace PageGraft.Page

open PageGraft.Text PageGraft.Script PageGraft.Settings Patch

variable {settings : PatcherSettings} {page : List Char}

/-! ## What a step needs and what it spares -/

/-- The page lets a change be found again: no header of a function begins in front of the place at
which its code goes in, not even across the seam. -/
def Change.Fits (settings : PatcherSettings) (page : List Char) : Change → Prop
  | .function record =>
    DeclaredFirst settings.balancedMatching record.name.toList page ∧
      ∀ point ∈ splicePoint settings record page, ¬ EndsInAsync (page.take point)
  | .state _ => True

/-- No piece that a finder recognises begins in what a splice puts in. -/
def Splice.Lacks (splice : Splice) (page : List Char) (finder : Finder) : Prop :=
  finder.Passes (page.take splice.start).getLast? splice.piece (page.drop splice.stop)

/-- Where an index behind a splice is afterwards. -/
def Splice.move (splice : Splice) (index : Nat) : Nat :=
  index - splice.stop + (splice.start + splice.piece.length)

/-- A splice leaves an earlier change alone. It takes out nothing of the declaration; in front of the
declaration it puts in no other one, and the lines of the declaration keep their indentation. Where
the page has no declaration and no place for one, the splice puts in neither. -/
def Splice.Spares (settings : PatcherSettings) (page : List Char) (splice : Splice)
    (earlier : Change) : Prop :=
  match earlier.extent? settings page with
  | some (start, stop) =>
    stop ≤ splice.start ∨
      splice.stop ≤ start ∧ splice.Lacks page earlier.anchor ∧
        earlier.text (indentAt (splice.write page) (splice.move start)) =
          earlier.text (indentAt page start)
  | none => ∀ finder ∈ earlier.anchor :: earlier.places settings, splice.Lacks page finder

/-- A change that would do nothing, whatever happens behind it. -/
def Change.Settled (settings : PatcherSettings) (page : List Char) : Change → Prop
  | .function record =>
    (∃ front indent after, Hangs record page front indent after) ∨
      (functionHeader record.name.toList).Passes none page [] ∧
        (occurrence settings.insertionMarker.toList).Passes none page []
  | .state record =>
    (∃ front head blanks after, Declares record page front head blanks after) ∨
      (letHeader record.reader.toList).Passes none page [] ∧ findStateRegion settings page = none

/-! ## A change settles itself -/

theorem findFunction_eq_none_of_passes {balancedMatching : Bool} {name : List Char}
    (hpasses : (functionHeader name).Passes none page []) :
    findFunction balancedMatching page name = none := by
  have hheader : findHeader page name = none := by
    rw [findHeader, ← List.append_nil page, headerFrom_append hpasses]
    rfl
  rw [findFunction_eq, hheader]
  rfl

theorem findInitialValue_eq_none_of_passes {reader : List Char} :
    findInitialValue page reader = none ↔ (letHeader reader).Passes none page [] := by
  rw [findInitialValue_eq_none]
  refine firstFound_eq_none ?_
  intro previous
  rw [Option.eq_none_iff_forall_ne_some]
  intro length hlength
  obtain ⟨-, head, blanks, rest, -, -, -, hempty, -⟩ := letHeader_eq_some.mp hlength
  simp at hempty

namespace Change

variable {change : Change}

/-- A change is settled once it has been made. -/
theorem settled_apply (hanchors : PlainAnchors settings) (hsound : change.IsSound settings)
    (hfits : change.Fits settings page) : change.Settled settings (change.apply settings page) := by
  cases change with
  | function record =>
    obtain ⟨hname, hcode⟩ := hsound
    obtain ⟨hpage, hasync⟩ := hfits
    rw [← patch_text_change]
    cases hfound : findFunction settings.balancedMatching page record.name.toList with
    | some span =>
      have hpoint := hasync span.start (by simp [splicePoint, hfound])
      exact .inl ⟨_, _, _, hangs_of_found hname.not_mem_paren hcode hpage hfound hpoint⟩
    | none =>
      cases hmarker : insertionIndex page settings.insertionMarker.toList with
      | some index =>
        have hpoint := hasync index (by simp [splicePoint, hfound, hmarker])
        exact .inl ⟨_, _, _,
          hangs_of_insertion hname.not_mem_paren hcode hpage hfound hmarker hpoint rfl⟩
      | none =>
        obtain ⟨first, rest, hfirst, -⟩ := hanchors.first
        rw [patch_text_change, apply_of_none (splice?_function_eq_none.mpr ⟨hfound, hmarker⟩)]
        refine .inr ⟨hpage.passes (List.append_nil page).symm ?_, ?_⟩
        · intro span hspan
          rw [hfound] at hspan
          simp at hspan
        · exact (insertionIndex_eq_none (by simp [hfirst])).mp hmarker
  | state record =>
    obtain ⟨hreader, hvalue⟩ := hsound
    rw [← patch_text_change]
    cases hfound : findInitialValue page record.reader.toList with
    | some found =>
      obtain ⟨front, head, blanks, -, hdeclares⟩ :=
        @declares_of_found settings record page _ _ hreader.not_mem_equals hvalue hfound
      exact .inl ⟨_, _, _, _, hdeclares⟩
    | none =>
      cases hregion : findStateRegion settings page with
      | some found =>
        exact .inl ⟨_, _, _, _,
          declares_of_region hreader.not_mem_equals hvalue hfound hregion⟩
      | none =>
        rw [patch_text_change, apply_of_none (splice?_state_eq_none.mpr ⟨hfound, hregion⟩)]
        exact .inr ⟨findInitialValue_eq_none_of_passes.mp hfound, hregion⟩

/-- A settled change does nothing. -/
theorem Settled.apply_eq (hanchors : PlainAnchors settings) (hsound : change.IsSound settings)
    (hsettled : change.Settled settings page) : change.apply settings page = page := by
  cases change with
  | function record =>
    rcases hsettled with ⟨front, indent, after, hhangs⟩ | ⟨hpasses, hmarker⟩
    · rw [← patch_text_change]
      exact (hhangs.isInPlace hsound.2).again
    · obtain ⟨first, rest, hfirst, -⟩ := hanchors.first
      refine apply_of_none (splice?_function_eq_none.mpr
        ⟨findFunction_eq_none_of_passes hpasses, ?_⟩)
      exact (insertionIndex_eq_none (by simp [hfirst])).mpr hmarker
  | state record =>
    rcases hsettled with ⟨front, head, blanks, after, hdeclares⟩ | ⟨hpasses, hregion⟩
    · rw [← patch_text_change]
      exact (hdeclares.holdsValue hsound.2).again
    · exact apply_of_none (splice?_state_eq_none.mpr
        ⟨findInitialValue_eq_none_of_passes.mpr hpasses, hregion⟩)

end Change

/-! ## A change stays settled -/

/-- A text that is cut twice has something between the cuts. -/
theorem exists_between {front rest front' rest' : List Char} (htext : front ++ rest = front' ++ rest')
    (hlength : front.length ≤ front'.length) :
    ∃ middle, front' = front ++ middle ∧ rest = middle ++ rest' := by
  rcases List.append_eq_append_iff.mp htext with ⟨middle, hfront, hrest⟩ | ⟨middle, rfl, rfl⟩
  · exact ⟨middle, hfront, hrest⟩
  · obtain rfl : middle = [] := by
      rw [List.length_append] at hlength
      rw [← List.length_eq_zero_iff]
      omega
    exact ⟨[], by simp, rfl⟩

/-- Where a declaration stands behind a smooth splice, no other one appears in front of it. -/
theorem IsSmooth.passes {change other : Change} {front old piece rest middle after : List Char}
    (hsmooth : IsSmooth settings change front old piece rest) (hother : other.IsSound settings)
    (hprecedes : other.Precedes change) (hrest : rest = middle ++ after)
    (hlacks : other.anchor.Passes front.getLast? piece rest)
    (hpasses : other.anchor.Passes none (front ++ (old ++ middle)) after) :
    other.anchor.Passes none (front ++ (piece ++ middle)) after := by
  obtain ⟨mark, Spelled, hmarked, -⟩ := Change.marked hother
  rw [Finder.passes_append, Finder.passes_append, List.append_assoc, Option.or_none,
    ← List.getLast?_append, ← hrest] at hpasses ⊢
  obtain ⟨hfront, -, hmiddle⟩ := hpasses
  refine ⟨hsmooth.anchor hother hprecedes hfront, hlacks, hmarked.passes_of_previous ?_ hmiddle⟩
  rw [← hrest]
  rcases hsmooth.next with hletter | ⟨hold, -⟩
  · exact .inl hletter
  · exact .inr fun _ => hold

/-- A word can begin behind a smooth splice where one begins already. -/
theorem IsSmooth.startsWord {change : Change} {front old piece rest middle after : List Char}
    (hsmooth : IsSmooth settings change front old piece rest) (hrest : rest = middle ++ after)
    (hafter : ∃ character ∈ after.head?, character.isAlpha)
    (hword : startsWord (front ++ (old ++ middle)).getLast?) :
    startsWord (front ++ (piece ++ middle)).getLast? := by
  rw [← List.append_assoc, List.getLast?_append] at hword ⊢
  cases hlast : middle.getLast? with
  | some last =>
    rw [hlast, Option.some_or] at hword
    rw [Option.some_or]
    exact hword
  | none =>
    obtain rfl := List.getLast?_eq_none_iff.mp hlast
    rw [Option.none_or]
    rcases hsmooth.next with hletter | ⟨-, hnew⟩
    · obtain ⟨character, hcharacter, halpha⟩ := hafter
      rw [hrest, List.nil_append] at hletter
      rw [hletter character hcharacter] at halpha
      exact absurd halpha Bool.false_ne_true
    · exact hnew

section Splice

variable {splice : Splice} {front old rest : List Char}

theorem Splice.write_eq (hsplit : page = front ++ (old ++ rest))
    (hstart : splice.start = front.length) (hstop : splice.stop = (front ++ old).length) :
    splice.write page = front ++ (splice.piece ++ rest) := by
  rw [write, hstart, hstop, hsplit, List.take_left, ← List.append_assoc front old, List.drop_left,
    List.append_assoc]

theorem Splice.lacks_iff {finder : Finder} (hsplit : page = front ++ (old ++ rest))
    (hstart : splice.start = front.length) (hstop : splice.stop = (front ++ old).length) :
    splice.Lacks page finder ↔ finder.Passes front.getLast? splice.piece rest := by
  rw [Lacks, hstart, hstop, hsplit, List.take_left, ← List.append_assoc front old, List.drop_left]

theorem Splice.move_eq {middle : List Char} (hstart : splice.start = front.length)
    (hstop : splice.stop = (front ++ old).length) :
    splice.move (front ++ (old ++ middle)).length = (front ++ (splice.piece ++ middle)).length := by
  rw [move, hstart, hstop]
  simp only [List.length_append]
  omega

end Splice

section Function

variable {record : FunctionRecord} {front indent after : List Char}

theorem Hangs.extent?_eq (hhangs : Hangs record page front indent after)
    (hsound : (Change.function record).IsSound settings) :
    (Change.function record).extent? settings page =
      some (front.length, (front ++ hang indent (functionCode record)).length) := by
  obtain ⟨span, hfound, hstart, hstop, -⟩ := hhangs.found hsound.2
  rw [Change.extent?, hfound, Option.map_some, hstart, hstop, List.length_append]

/-- What stands behind the code of a function does not matter. -/
theorem Hangs.change_after {after' : List Char} (hhangs : Hangs record page front indent after)
    (hsound : (Change.function record).IsSound settings) :
    Hangs record (front ++ hang indent (functionCode record) ++ after') front indent after' := by
  obtain ⟨head, tail, -, hcode⟩ := (hhangs.standsAlone hsound.2).header
  have hpasses := hhangs.passes
  refine ⟨rfl, hhangs.indented, hhangs.word, ?_⟩
  rw [hcode, List.append_assoc] at hpasses ⊢
  exact (functionHeader_marked hsound.1.not_mem_paren).passes_of_passes hpasses

/-- The code of a function that hangs in a page begins with a letter. -/
theorem Hangs.isAlpha (hhangs : Hangs record page front indent after)
    (hsound : (Change.function record).IsSound settings) :
    ∃ character ∈ (hang indent (functionCode record) ++ after).head?, character.isAlpha := by
  obtain ⟨head, tail, hheader, hcode⟩ := (hhangs.standsAlone hsound.2).header
  obtain ⟨first, hfirst, hletter⟩ := hheader.isAlpha
  refine ⟨first, ?_, hletter⟩
  rw [hcode]
  simp [Option.mem_def.mp hfirst]

/-- The code of a function stays where it is when a splice spares it. -/
theorem Hangs.write {later : Change} {splice : Splice} (hanchors : PlainAnchors settings)
    (hsound : (Change.function record).IsSound settings) (hlater : later.IsSound settings)
    (hprecedes : (Change.function record).Precedes later)
    (hsplice : later.splice? settings page = some splice)
    (hspares : splice.Spares settings page (.function record))
    (hhangs : Hangs record page front indent after) :
    ∃ front' indent' after', Hangs record (splice.write page) front' indent' after' := by
  obtain ⟨begun, old, rest, hsplit, hstart, hstop, hsmooth⟩ :=
    exists_isSmooth hanchors hlater hsplice
  rw [Splice.Spares, hhangs.extent?_eq hsound] at hspares
  rw [Splice.write_eq hsplit hstart hstop]
  rcases hspares with hbehind | ⟨hinFront, hlacks, hindent⟩
  · rw [hstart] at hbehind
    obtain ⟨middle, rfl, -⟩ := exists_between (hhangs.split.symm.trans hsplit) hbehind
    refine ⟨front, indent, middle ++ (splice.piece ++ rest), ?_⟩
    rw [List.append_assoc (front ++ _)]
    exact hhangs.change_after hsound
  · rw [hstop] at hinFront
    have htext : (begun ++ old) ++ rest = front ++ (hang indent (functionCode record) ++ after) := by
      rw [List.append_assoc, ← hsplit, hhangs.split, List.append_assoc]
    obtain ⟨middle, rfl, hrest⟩ := exists_between htext hinFront
    obtain ⟨first, hfirst, hletter⟩ := hhangs.isAlpha hsound
    have hnoSpace : ∀ character ∈ (hang indent (functionCode record) ++ after).head?,
        isSpace character = false := by
      intro character hcharacter
      obtain rfl := Option.some.inj (hfirst.symm.trans hcharacter)
      rw [← Bool.not_eq_true]
      intro hspace
      rw [isAlpha_of_isSpace hspace] at hletter
      exact Bool.false_ne_true hletter
    have hpage : begun ++ (splice.piece ++ rest) = (begun ++ (splice.piece ++ middle)) ++
        (hang indent (functionCode record) ++ after) := by
      rw [hrest]
      simp only [List.append_assoc]
    have hbefore := hhangs.split
    rw [List.append_assoc begun] at hhangs hindent hbefore
    rw [List.append_assoc (begun ++ _)] at hbefore
    -- the code is indented as it was
    have hsame : hang (leadingBlanks (lastLine (begun ++ (splice.piece ++ middle))))
        (functionCode record) = hang indent (functionCode record) := by
      rw [Splice.write_eq hsplit hstart hstop, Splice.move_eq hstart hstop, hpage, hbefore,
        indentAt_append hnoSpace, indentAt_append hnoSpace, hhangs.indented] at hindent
      exact hindent
    refine ⟨begun ++ (splice.piece ++ middle), _, after, ?_, rfl, ?_, ?_⟩
    · rw [hsame, hpage, List.append_assoc (begun ++ _)]
    · exact hsmooth.startsWord hrest ⟨first, hfirst, hletter⟩ hhangs.word
    · rw [hsame]
      exact hsmooth.passes hsound hprecedes hrest
        ((Splice.lacks_iff hsplit hstart hstop).mp hlacks) hhangs.passes

end Function

section State

variable {record : StateRecord} {front head blanks after : List Char}

theorem Declares.extent?_eq (hdeclares : Declares record page front head blanks after)
    (hsound : (Change.state record).IsSound settings) :
    (Change.state record).extent? settings page =
      some (front.length,
        ((front ++ (head ++ '=' :: blanks)) ++ record.initialValue.toList).length) := by
  have hfirst := firstFound_letHeader.mpr
    ⟨front, head, blanks, _, hdeclares.declared, hdeclares.split, rfl, rfl⟩
  simp only [Change.extent?, hfirst, hdeclares.found hsound.2, Option.bind_eq_bind,
    Option.bind_some, Option.pure_def, List.length_append]

/-- The declaration of a state variable stays where it is when a splice spares it. -/
theorem Declares.write {later : StateRecord} {splice : Splice} (hanchors : PlainAnchors settings)
    (hsound : (Change.state record).IsSound settings)
    (hlater : (Change.state later).IsSound settings)
    (hprecedes : (Change.state record).Precedes (.state later))
    (hsplice : (Change.state later).splice? settings page = some splice)
    (hspares : splice.Spares settings page (.state record))
    (hdeclares : Declares record page front head blanks after) :
    ∃ front' after', Declares record (splice.write page) front' head blanks after' := by
  obtain ⟨begun, old, rest, hsplit, hstart, hstop, hsmooth⟩ :=
    exists_isSmooth hanchors hlater hsplice
  rw [Splice.Spares, hdeclares.extent?_eq hsound] at hspares
  rw [Splice.write_eq hsplit hstart hstop]
  rcases hspares with hbehind | ⟨hinFront, hlacks, -⟩
  · have htext : ((front ++ (head ++ '=' :: blanks)) ++ record.initialValue.toList) ++ after =
        begun ++ (old ++ rest) := by
      rw [← hsplit, hdeclares.split]
      simp
    rw [hstart] at hbehind
    obtain ⟨middle, hbegun, rfl⟩ := exists_between htext hbehind
    refine ⟨front, middle ++ (splice.piece ++ rest), ?_, ?_, ?_⟩
    · rw [hbegun]
      simp
    · exact hdeclares.declared.change hsound.1.not_mem_equals (hsound.2.isBlank_head_append _)
    · obtain ⟨-, last, hlast, hblank⟩ := hsound.2.isBlank_eq_false
      refine hsmooth.ends rfl hbegun ⟨last, ?_, hblank, ?_⟩ hdeclares.ends
      · rw [List.getLast?_append, hlast]
        rfl
      · rintro rfl
        exact hsound.2.getLast?_ne_equals hlast
  · have htext : (begun ++ old) ++ rest =
        front ++ (head ++ '=' :: (blanks ++ (record.initialValue.toList ++ after))) := by
      rw [List.append_assoc, ← hsplit, hdeclares.split]
    rw [hstop] at hinFront
    obtain ⟨middle, rfl, hrest⟩ := exists_between htext hinFront
    obtain ⟨first, hfirst, hletter⟩ := hdeclares.declared.header.isAlpha
    have hdeclared := hdeclares.declared
    rw [List.append_assoc begun] at hdeclared
    refine ⟨begun ++ (splice.piece ++ middle), after, ?_, ?_, hdeclares.ends⟩
    · rw [hrest]
      simp only [List.append_assoc]
    · refine ⟨?_, ?_, hdeclared.header, hdeclared.blanks, hdeclared.rest⟩
      · exact hsmooth.passes hsound hprecedes hrest
          ((Splice.lacks_iff hsplit hstart hstop).mp hlacks) hdeclared.passes
      · refine hsmooth.startsWord hrest ⟨first, ?_, hletter⟩ hdeclared.word
        simp [Option.mem_def.mp hfirst]

end State

/-- A change without a declaration and without a place for one in the page: nothing to look for
appears when a splice spares it. -/
theorem Change.passes_write {earlier later : Change} {splice : Splice}
    (hanchors : PlainAnchors settings) (hsound : earlier.IsSound settings)
    (hlater : later.IsSound settings) (hprecedes : earlier.Precedes later)
    (hsplice : later.splice? settings page = some splice)
    (hlacks : splice.Lacks page earlier.anchor)
    (hpasses : earlier.anchor.Passes none page []) :
    earlier.anchor.Passes none (splice.write page) [] := by
  obtain ⟨begun, old, rest, hsplit, hstart, hstop, hsmooth⟩ :=
    exists_isSmooth hanchors hlater hsplice
  rw [hsplit] at hpasses
  rw [Splice.write_eq hsplit hstart hstop]
  exact hsmooth.passes hsound hprecedes (List.append_nil rest).symm
    ((Splice.lacks_iff hsplit hstart hstop).mp hlacks) hpasses

/-- A settled change stays settled when a later one spares it. -/
theorem Change.Settled.write {earlier later : Change} {splice : Splice}
    (hanchors : PlainAnchors settings) (hsound : earlier.IsSound settings)
    (hlater : later.IsSound settings) (hprecedes : earlier.Precedes later)
    (hsplice : later.splice? settings page = some splice)
    (hspares : splice.Spares settings page earlier)
    (hsettled : earlier.Settled settings page) : earlier.Settled settings (splice.write page) := by
  obtain ⟨begun, old, rest, hsplit, hstart, hstop, hsmooth⟩ :=
    exists_isSmooth hanchors hlater hsplice
  have hlacks := fun finder => @Splice.lacks_iff page splice begun old rest finder hsplit hstart hstop
  cases earlier with
  | function record =>
    rcases hsettled with ⟨front, indent, after, hhangs⟩ | ⟨hpasses, hmarker⟩
    · exact .inl (hhangs.write hanchors hsound hlater hprecedes hsplice hspares)
    · have hextent : (Change.function record).extent? settings page = none := by
        rw [Change.extent?, findFunction_eq_none_of_passes hpasses]
        rfl
      rw [Splice.Spares, hextent] at hspares
      have hpiece := hspares _ (List.mem_cons_of_mem _ (List.mem_singleton.mpr rfl))
      refine .inr ⟨?_, ?_⟩
      · exact Change.passes_write hanchors hsound hlater hprecedes hsplice
          (hspares _ List.mem_cons_self) hpasses
      · rw [hlacks] at hpiece
        rw [hsplit, Finder.passes_append, List.append_nil] at hmarker
        rw [Splice.write_eq hsplit hstart hstop, Finder.passes_append, Finder.passes_append,
          List.append_nil]
        refine ⟨passes_occurrence hsmooth.marker hmarker.1, ?_, ?_⟩
        · rw [Option.or_none, List.append_nil]
          exact hpiece
        · exact (Finder.passes_append.mp hmarker.2).2
  | state record =>
    cases later with
    | function later => exact absurd hprecedes id
    | state later =>
      rcases hsettled with ⟨front, head, blanks, after, hdeclares⟩ | ⟨hpasses, hregion⟩
      · obtain ⟨front', after', hwrite⟩ :=
          hdeclares.write hanchors hsound hlater hprecedes hsplice hspares
        exact .inl ⟨front', head, blanks, after', hwrite⟩
      · have hextent : (Change.state record).extent? settings page = none := by
          simp only [Change.extent?, findInitialValue_eq_none.mp
            (findInitialValue_eq_none_of_passes.mpr hpasses), Option.bind_eq_bind,
            Option.bind_none]
        rw [Splice.Spares, hextent] at hspares
        refine .inr ⟨?_, ?_⟩
        · exact Change.passes_write hanchors hsound hlater hprecedes hsplice
            (hspares _ List.mem_cons_self) hpasses
        · rw [Splice.write_eq hsplit hstart hstop]
          rw [hsplit] at hregion
          refine hsmooth.region rfl ?_ hregion
          intro place hplace
          exact (hlacks place).mp (hspares place (List.mem_cons_of_mem _ hplace))

end PageGraft.Page
