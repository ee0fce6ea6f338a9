import PageGraft.Proofs.Change

/-!
# The seams of a splice

What a splice leaves as it is. A page is cut into a front part, what the splice takes out, and the
rest, and `IsSmooth` says what stays true when a piece goes in between: no word of another change
goes on from the front part into the piece, none begins behind it that did not begin before, and
neither statements, markers nor state regions change across the seams. Every splice that a change
makes is smooth (`exists_isSmooth`), whatever the page is.
-/

namespace PageGraft.Page

open PageGraft.Text PageGraft.Script PageGraft.Settings Patch

/-- The anchors of the settings have nothing in common with the characters at the seams of a
splice. -/
structure PlainAnchors (settings : PatcherSettings) : Prop where
  first : ∃ first rest, settings.insertionMarker.toList = first :: rest ∧
    first.isAlpha = false ∧ first ≠ '/' ∧ first ≠ '*'
  seam : ∀ character ∈ ['a', 'f', '=', ' ', '\t', '\n'],
    character ∉ settings.insertionMarker.toList
  words : regionWords settings ≠ []
  wordsStop : ∀ word ∈ regionWords settings, ∀ letter ∈ word, sameLetter letter '=' = false
  terminatorsStop : ∀ terminator ∈ regionTerminators settings, ∀ letter ∈ terminator,
    sameLetter letter '=' = false

theorem regionWords_default : regionWords {} = ["Global".toList, "state".toList] := by
  cbv

theorem plainAnchors_default : PlainAnchors {} := by
  have hflat : ∀ {pieces : List (List Char)},
      pieces.flatten.all (fun letter => !sameLetter letter '=') →
      ∀ piece ∈ pieces, ∀ letter ∈ piece, sameLetter letter '=' = false := by
    intro pieces hall piece hpiece letter hletter
    have hletters := List.all_eq_true.mp hall letter
      (List.mem_flatten.mpr ⟨piece, hpiece, hletter⟩)
    simpa using hletters
  refine ⟨⟨'<', "/script>".toList, by decide⟩, by simp, ?_, hflat ?_,
    hflat (by decide)⟩
  · rw [regionWords_default]
    exact List.cons_ne_nil _ _
  · rw [regionWords_default]
    decide

/-- A piece goes into a page between a front part and the rest, in the place of `old`. -/
structure IsSmooth (settings : PatcherSettings) (change : Change)
    (front old piece rest : List Char) : Prop where
  next : (∀ character ∈ rest.head?, character.isAlpha = false) ∨
    startsWord (front ++ old).getLast? ∧ startsWord (front ++ piece).getLast?
  anchor : ∀ {other : Change}, other.IsSound settings → other.Precedes change →
    other.anchor.Passes none front (old ++ rest) → other.anchor.Passes none front (piece ++ rest)
  marker : (∃ next ∈ (piece ++ rest).head?, next ∉ settings.insertionMarker.toList) ∨
    ∃ last ∈ front.getLast?, last ∉ settings.insertionMarker.toList
  ends : ∀ {record}, change = .state record → ∀ {begun tail}, front = begun ++ tail →
    (∃ last ∈ begun.getLast?, isBlank last = false ∧ last ≠ '=') →
    endsStatement ((tail ++ (old ++ rest)).dropWhile isBlank) →
    endsStatement ((tail ++ (piece ++ rest)).dropWhile isBlank)
  region : ∀ {record}, change = .state record →
    (∀ place ∈ change.places settings, place.Passes front.getLast? piece rest) →
    findStateRegion settings (front ++ (old ++ rest)) = none →
    findStateRegion settings (front ++ (piece ++ rest)) = none

variable {settings : PatcherSettings} {page : List Char}

/-! ## Functions -/

section

variable {record : FunctionRecord}

theorem startsWord_of_isCloser {closer : Char} (hcloser : isCloser closer) :
    startsWord (some closer) := by
  simp only [isCloser, Bool.or_eq_true, beq_iff_eq] at hcloser
  rcases hcloser with (rfl | rfl) | rfl <;> decide

/-- What stands alone ends with a closing bracket. -/
theorem StandsAlone.isCloser {balancedMatching : Bool} {name code : List Char}
    (halone : StandsAlone balancedMatching name code) :
    ∃ closer, code.getLast? = some closer ∧ isCloser closer := by
  obtain ⟨span, hfound, hstart, hstop⟩ := halone []
  obtain ⟨front, old, rest, closer, hsplit, hfront, hend, -, hlast, hcloser⟩ :=
    exists_of_findFunction hfound
  obtain rfl : front = [] := by
    rw [← List.length_eq_zero_iff, ← hfront, hstart]
  obtain rfl : rest = [] := by
    have hlength := congrArg List.length hsplit
    simp only [List.length_append, List.append_nil, List.nil_append] at hlength hend
    rw [← List.length_eq_zero_iff]
    omega
  obtain rfl : code = old := by simpa using hsplit
  exact ⟨closer, hlast, hcloser⟩

/-- No header of another function crosses the seam in front of a header. -/
theorem passes_header {earlier : FunctionRecord} {front gap rest tail head : List Char}
    (hearlier : IsPlain earlier.name.toList) (hname : IsPlain record.name.toList)
    (hnames : earlier.name.toList ≠ record.name.toList) (hgap : gap.all isSpace)
    (hheader : IsHeader record.name.toList head)
    (hpasses : (functionHeader earlier.name.toList).Passes none front rest) :
    (functionHeader earlier.name.toList).Passes none front (gap ++ (head ++ '(' :: tail)) := by
  have hgapParen : '(' ∉ gap := by
    intro hmem
    exact absurd (List.all_eq_true.mp hgap _ hmem) (by decide)
  refine (Finder.passes_append.mp ((functionHeader_marked hearlier.not_mem_paren).passes_append
    hpasses hgapParen (hheader.not_mem_paren hname.not_mem_paren) ?_)).1
  intro left right hright hsplit hword hlonger
  exact hnames (hheader.name_eq hname hearlier hlonger)

/-- A function in the place of its declaration. -/
theorem isSmooth_of_found {span : FunctionSpan} (hanchors : PlainAnchors settings)
    (hsound : (Change.function record).IsSound settings)
    (hfound : findFunction settings.balancedMatching page record.name.toList = some span) :
    ∃ front old rest, page = front ++ (old ++ rest) ∧ span.start = front.length ∧
      span.stop = (front ++ old).length ∧
      IsSmooth settings (.function record) front old
        (hang span.indent (functionCode record)) rest := by
  obtain ⟨hname, hcode⟩ := hsound
  obtain ⟨front, old, rest, closer, hsplit, hstart, hstop, -, hlast, hcloser⟩ :=
    exists_of_findFunction hfound
  have hindent : span.indent.all isBlank := by
    obtain ⟨-, -, -, -, -, hindent⟩ := findFunction_eq_some.mp hfound
    rw [hindent]
    exact all_leadingBlanks
  have halone := hcode span.indent hindent
  obtain ⟨head, tail, hheader, htext⟩ := halone.header
  obtain ⟨closer', hlast', hcloser'⟩ := halone.isCloser
  refine ⟨front, old, rest, hsplit, hstart, hstop, ?_, ?_, ?_, ?_, ?_⟩
  · refine .inr ⟨?_, ?_⟩
    · rw [List.getLast?_append, hlast, Option.some_or]
      exact startsWord_of_isCloser hcloser
    · rw [List.getLast?_append, hlast', Option.some_or]
      exact startsWord_of_isCloser hcloser'
  · intro other hother hprecedes hpasses
    cases other with
    | state earlier => exact absurd hprecedes id
    | function earlier =>
      have hgap : ([] : List Char).all isSpace := rfl
      rw [htext, List.append_assoc, List.cons_append, ← List.nil_append (head ++ _)]
      exact passes_header hother.1 hname hprecedes hgap hheader hpasses
  · refine .inl ?_
    rw [htext, List.append_assoc]
    rcases hheader.head?_mem with hhead | hhead
    · exact ⟨'a', by simp [hhead], hanchors.seam _ (by simp)⟩
    · exact ⟨'f', by simp [hhead], hanchors.seam _ (by simp)⟩
  · intro state hstate
    exact absurd hstate Change.noConfusion
  · intro state hstate
    exact absurd hstate Change.noConfusion

/-- A function in front of the insertion marker. -/
theorem isSmooth_of_marker {index : Nat} (hanchors : PlainAnchors settings)
    (hsound : (Change.function record).IsSound settings)
    (hmarker : insertionIndex page settings.insertionMarker.toList = some index) :
    ∃ front rest, page = front ++ rest ∧ index = front.length ∧
      IsSmooth settings (.function record) front []
        ('\n' :: indentLines (List.replicate settings.insertionIndent ' ') (functionCode record) ++
          ['\n', '\n']) rest := by
  obtain ⟨hname, hcode⟩ := hsound
  obtain ⟨first, marker, hfirst, hletter, -⟩ := hanchors.first
  rw [hfirst] at hmarker
  obtain ⟨hlength, next, behind, hbehind, hnext⟩ := exists_of_insertionIndex hmarker
  have hblanks : (List.replicate settings.insertionIndent ' ').all isBlank := by simp [isBlank]
  generalize List.replicate settings.insertionIndent ' ' = indent at hblanks
  obtain ⟨head, tail, hheader, htext⟩ := (hcode indent hblanks).header
  have hpiece : '\n' :: indentLines indent (functionCode record) ++ ['\n', '\n'] =
      ('\n' :: indent) ++ (head ++ '(' :: (tail ++ ['\n', '\n'])) := by
    rw [hcode.indentLines_eq, htext]
    simp
  refine ⟨page.take index, page.drop index, (List.take_append_drop index page).symm, ?_, ?_, ?_, ?_,
    ?_, ?_⟩
  · rw [List.length_take]
    omega
  · refine .inl ?_
    rw [hbehind]
    intro character hcharacter
    obtain rfl : next = character := by simpa using hcharacter
    rcases hnext with rfl | hspace
    · exact hletter
    · exact isAlpha_of_isSpace hspace
  · intro other hother hprecedes hpasses
    cases other with
    | state earlier => exact absurd hprecedes id
    | function earlier =>
      rw [hpiece, List.append_assoc, List.append_assoc]
      exact passes_header hother.1 hname hprecedes (isSpace_of_indent hblanks) hheader hpasses
  · exact .inl ⟨'\n', by simp, hanchors.seam _ (by simp)⟩
  · intro state hstate
    exact absurd hstate Change.noConfusion
  · intro state hstate
    exact absurd hstate Change.noConfusion

end

/-! ## State variables -/

section

variable {record : StateRecord}

/-- Neither kind of anchor goes on behind an equals sign. -/
theorem Change.marked {change : Change} (hsound : change.IsSound settings) :
    ∃ mark Spelled, change.anchor.Marked mark Spelled ∧ Finder.StopsAt mark Spelled '=' := by
  cases change with
  | function record =>
    refine ⟨_, _, functionHeader_marked hsound.1.not_mem_paren, .inr ?_⟩
    intro head hheader
    exact hheader.not_mem_equals hsound.1.not_mem_equals
  | state record => exact ⟨_, _, letHeader_marked hsound.1.not_mem_equals, .inl rfl⟩

theorem findStateRegion_eq_none :
    findStateRegion settings page = none ↔
      (stateRegion (regionWords settings) (regionTerminators settings)).Passes none page [] := by
  refine firstFound_eq_none ?_
  intro previous
  rw [stateRegion_eq_none]
  intro rest hrest
  rw [afterRegionComment_of_head (by simp)] at hrest
  exact absurd hrest List.not_mem_nil

/-- A new value in the place of the old one. -/
theorem isSmooth_of_value {start stop : Nat} (hanchors : PlainAnchors settings)
    (hfound : findInitialValue page record.reader.toList = some (start, stop)) :
    ∃ front old rest, page = front ++ (old ++ rest) ∧ start = front.length ∧
      stop = (front ++ old).length ∧
      IsSmooth settings (.state record) front old record.initialValue.toList rest := by
  obtain ⟨begun, head, blanks, value, rest, hdeclared, hsplit, hstart, hstop, hends⟩ :=
    exists_of_findInitialValue hfound
  have hfront : begun ++ (head ++ '=' :: blanks) = (begun ++ head) ++ '=' :: blanks := by simp
  rw [hfront] at hsplit hstart
  have hlast : ∃ last, ('=' :: blanks).getLast? = some last ∧ (last = '=' ∨ isBlank last) := by
    cases hblanks : blanks.getLast? with
    | none => exact ⟨'=', by simp [List.getLast?_cons, hblanks], .inl rfl⟩
    | some last =>
      refine ⟨last, by simp [List.getLast?_cons, hblanks], .inr ?_⟩
      exact List.all_eq_true.mp hdeclared.blanks last (List.mem_of_getLast? hblanks)
  obtain ⟨last, hlast, hkind⟩ := hlast
  refine ⟨_, value, rest, hsplit, hstart, ?_, .inl (isAlpha_head_of_endsStatement hends), ?_, ?_,
    ?_, ?_⟩
  · rw [hstop, hstart]
    exact List.length_append.symm
  · intro other hother hprecedes hpasses
    obtain ⟨mark, Spelled, hmarked, hstops⟩ := Change.marked hother
    refine hmarked.passes_of_stop hstops ?_ hpasses
    rw [List.all_cons, Bool.and_eq_true]
    refine ⟨by decide, List.all_eq_true.mpr ?_⟩
    intro character hcharacter
    have hblank := List.all_eq_true.mp hdeclared.blanks character hcharacter
    simp [isAlpha_of_isSpace (isSpace_of_isBlank hblank)]
  · refine .inr ⟨last, by simp [List.getLast?_append, hlast], hanchors.seam _ ?_⟩
    simp only [isBlank, Bool.or_eq_true, beq_iff_eq] at hkind
    rcases hkind with rfl | rfl | rfl <;> simp
  · rintro - - shown tail hshown ⟨final, hfinal, hnot, hequals⟩ hbefore
    -- the equals sign is in the tail, since no blank and no equals sign ends what is in front
    have htail : ∃ middle, tail = middle ++ '=' :: blanks := by
      rcases List.append_eq_append_iff.mp hshown with ⟨middle, rfl, hmiddle⟩ | ⟨middle, -, rfl⟩
      · rcases List.eq_nil_or_concat middle with rfl | ⟨more, final', rfl⟩
        · exact ⟨[], hmiddle.symm⟩
        · obtain rfl : final' = final := by simpa using hfinal
          have hmem : final' ∈ '=' :: blanks := by
            rw [hmiddle]
            simp
          rcases List.mem_cons.mp hmem with rfl | hblank
          · exact absurd rfl hequals
          · rw [List.all_eq_true.mp hdeclared.blanks _ hblank] at hnot
            exact absurd hnot.symm Bool.false_ne_true
      · exact ⟨middle, rfl⟩
    obtain ⟨middle, rfl⟩ := htail
    refine endsStatement_append hbefore (.inl ?_) ?_
    · rw [List.getLast?_append, hlast, Option.some_or]
      rintro ⟨⟩
      rcases hkind with hkind | hkind
      · exact absurd hkind (by decide)
      · exact absurd hkind (by decide)
    · intro hall
      exact absurd (List.all_eq_true.mp hall '=' (by simp)) (by decide)
  · rintro - - hlacks hnone
    have hcomment := hlacks (regionComment (regionWords settings)) (by simp [Change.places])
    have hend := hlacks (regionEnd (regionTerminators settings)) (by simp [Change.places])
    rw [findStateRegion_eq_none] at hnone ⊢
    exact stateRegion_passes_change (by decide) (by decide) hdeclared.blanks hanchors.words
      hanchors.wordsStop hanchors.terminatorsStop hcomment hend hnone

/-- A new line at the end of the state region. -/
theorem isSmooth_of_region {start stop : Nat} (hanchors : PlainAnchors settings)
    (hsound : (Change.state record).IsSound settings)
    (hregion : findStateRegion settings page = some (start, stop)) :
    ∃ front rest, page = front ++ rest ∧ stop = front.length ∧
      IsSmooth settings (.state record) front []
        ('\n' :: indentAt page start ++ (newDeclaration record ++
          (record.initialValue.toList ++ setterNote record))) rest := by
  obtain ⟨hreader, -⟩ := hsound
  obtain ⟨below, hbelow⟩ := drop_stop_of_findStateRegion hregion
  have hlength : stop ≤ page.length := by
    by_contra hlong
    rw [List.drop_eq_nil_of_le (by omega)] at hbelow
    simp at hbelow
  have hindent : (indentAt page start).all isBlank := all_leadingBlanks
  generalize indentAt page start = indent at hindent
  have hspaces := isSpace_of_indent hindent
  refine ⟨page.take stop, page.drop stop, (List.take_append_drop stop page).symm, ?_, ?_, ?_, ?_,
    ?_, ?_⟩
  · rw [List.length_take]
    omega
  · refine .inl ?_
    rw [hbelow]
    intro character hcharacter
    obtain rfl : '\n' = character := by simpa using hcharacter
    decide
  · intro other hother hprecedes hpasses
    have hgap : ∀ mark, isSpace mark = false → mark ∉ '\n' :: indent := by
      intro mark hmark hmem
      rw [List.all_eq_true.mp hspaces mark hmem] at hmark
      exact absurd hmark.symm Bool.false_ne_true
    have hpiece : ∀ rest, '\n' :: indent ++ (newDeclaration record ++
        (record.initialValue.toList ++ setterNote record)) ++ rest =
          ('\n' :: indent) ++ (("let ".toList ++ (record.reader.toList ++ [' '])) ++
            '=' :: (' ' :: (record.initialValue.toList ++ (setterNote record ++ rest)))) := by
      intro rest
      simp only [newDeclaration_append, List.append_assoc, List.cons_append, List.nil_append]
    rw [hpiece]
    cases other with
    | function earlier =>
      rw [← List.append_assoc]
      refine (functionHeader_marked hother.1.not_mem_paren).passes_append_stop ?_ (by decide)
        hpasses ?_
      · intro head hheader
        exact hheader.not_mem_equals hother.1.not_mem_equals
      · rw [List.mem_append, not_or]
        exact ⟨hgap '(' (by decide), by simp [hreader.not_mem_paren]⟩
    | state earlier =>
      have hheader : IsLetHeader record.reader.toList
          ("let ".toList ++ (record.reader.toList ++ [' '])) :=
        ⟨[' '], [' '], by simp, by decide, by decide, by simp⟩
      refine (Finder.passes_append.mp
        ((letHeader_marked hother.1.not_mem_equals).passes_append hpasses (hgap '=' (by decide))
          (hheader.not_mem_equals hreader.not_mem_equals) ?_)).1
      intro left right hright hsplit hword hlonger
      exact hprecedes (hheader.reader_eq hreader hother.1 hlonger)
  · exact .inl ⟨'\n', by simp, hanchors.seam _ (by simp)⟩
  · rintro - - shown tail - - hbefore
    refine endsStatement_append hbefore (.inr ?_) ?_
    · rw [hbelow]
      simp
    · intro _
      simp [endsStatement, isBlank]
  · rintro - - - hnone
    rw [List.nil_append, List.take_append_drop, hregion] at hnone
    simp at hnone

end

/-- Every splice that a change makes is smooth. -/
theorem exists_isSmooth {change : Change} {splice : Splice} (hanchors : PlainAnchors settings)
    (hsound : change.IsSound settings) (hsplice : change.splice? settings page = some splice) :
    ∃ front old rest, page = front ++ (old ++ rest) ∧ splice.start = front.length ∧
      splice.stop = (front ++ old).length ∧
      IsSmooth settings change front old splice.piece rest := by
  cases change with
  | function record =>
    cases hfound : findFunction settings.balancedMatching page record.name.toList with
    | some span =>
      obtain rfl := Option.some.inj ((splice?_of_found hfound).symm.trans hsplice)
      exact isSmooth_of_found hanchors hsound hfound
    | none =>
      cases hmarker : insertionIndex page settings.insertionMarker.toList with
      | some index =>
        obtain rfl := Option.some.inj ((splice?_of_marker hfound hmarker).symm.trans hsplice)
        obtain ⟨front, rest, hsplit, hindex, hsmooth⟩ :=
          isSmooth_of_marker hanchors hsound hmarker
        exact ⟨front, [], rest, hsplit, hindex, by simpa using hindex, hsmooth⟩
      | none =>
        rw [splice?_function_eq_none.mpr ⟨hfound, hmarker⟩] at hsplice
        simp at hsplice
  | state record =>
    cases hfound : findInitialValue page record.reader.toList with
    | some found =>
      obtain ⟨start, stop⟩ := found
      obtain rfl := Option.some.inj ((splice?_of_value hfound).symm.trans hsplice)
      exact isSmooth_of_value hanchors hfound
    | none =>
      cases hregion : findStateRegion settings page with
      | some found =>
        obtain ⟨start, stop⟩ := found
        obtain rfl := Option.some.inj ((splice?_of_region hfound hregion).symm.trans hsplice)
        obtain ⟨front, rest, hsplit, hindex, hsmooth⟩ :=
          isSmooth_of_region hanchors hsound hregion
        exact ⟨front, [], rest, hsplit, hindex, by simpa using hindex, hsmooth⟩
      | none =>
        rw [splice?_state_eq_none.mpr ⟨hfound, hregion⟩] at hsplice
        simp at hsplice

end PageGraft.Page
