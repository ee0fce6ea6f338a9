import PageGraft.Proofs.Accounts
import PageGraft.Proofs.Marker

/-!
# Insertions one after the other

Every insertion looks for the last marker again, in a page that the insertions before it have changed.
`isInsertionPoint_splice` says where it finds it: a block that ends with a newline, put in at the point
of insertion, moves the point right behind itself, whatever the block holds and whatever the marker is.
From this `patch_inserts_in_order` follows by induction over the functions: they stand in their order at
the point that the original page has.
-/

namespace PageGraft.Page

open PageGraft.Settings PageGraft.Text PageGraft.Script Patch

/-! ## The point of insertion -/

/-- New functions go in at a point of a page: where the line of the last marker begins if only white
space stands in front of the marker there, else at the marker. -/
def IsInsertionPoint (marker page : List Char) (point : Nat) : Prop :=
  ∃ last start, IsLast marker page last ∧ BeginsLine page start last ∧
    point = if isBlankLine ((page.take last).drop start) then start else last

/-- What stands between the point of insertion and the last marker is white space without newlines. -/
structure IsBlankBetween (page : List Char) (point last : Nat) : Prop where
  le : point ≤ last
  blank : isBlankLine ((page.take last).drop point)
  within : ∀ position, point ≤ position → position < last → page[position]? ≠ some '\n'

variable {marker page block : List Char} {point last : Nat}

theorem insertionIndex_eq_some :
    insertionIndex page marker = some point ↔ IsInsertionPoint marker page point := by
  rw [insertionIndex, Option.map_eq_some_iff]
  constructor
  · intro hindex
    obtain ⟨last, hlast, rfl⟩ := hindex
    have hlast := lastDistanceTo_eq_some.mp hlast
    exact ⟨last, lineStart page last, hlast, beginsLine_lineStart hlast.le, rfl⟩
  · intro hpoint
    obtain ⟨last, start, hlast, hstart, hpoint⟩ := hpoint
    refine ⟨last, lastDistanceTo_eq_some.mpr hlast, ?_⟩
    rw [hpoint, hstart.unique (beginsLine_lineStart hlast.le)]

theorem IsInsertionPoint.exists_isBlankBetween (hpoint : IsInsertionPoint marker page point) :
    ∃ last, IsLast marker page last ∧ IsBlankBetween page point last := by
  obtain ⟨last, start, hlast, hstart, hchoice⟩ := hpoint
  refine ⟨last, hlast, ?_⟩
  by_cases hblank : isBlankLine ((page.take last).drop start)
  · rw [if_pos hblank] at hchoice
    rw [hchoice]
    exact ⟨hstart.le, hblank, hstart.within⟩
  · rw [if_neg hblank] at hchoice
    rw [hchoice]
    refine ⟨Nat.le_refl _, ?_, fun position hle hlt => absurd hlt (Nat.not_lt.mpr hle)⟩
    rw [List.drop_of_length_le (List.length_take_le _ _)]
    rfl

/-! ## Blocks at the point of insertion -/

/-- A page with a block in it at some index. -/
def insertAt (page block : List Char) (index : Nat) : List Char :=
  page.take index ++ block ++ page.drop index

section

variable (hindex : point ≤ page.length)

include hindex

theorem length_take_append : (page.take point ++ block).length = point + block.length := by
  rw [List.length_append, List.length_take_of_le hindex]

theorem take_point_insertAt : (insertAt page block point).take point = page.take point := by
  unfold insertAt
  rw [List.append_assoc, List.take_left' (List.length_take_of_le hindex)]

theorem take_insertAt :
    (insertAt page block point).take (point + block.length) = page.take point ++ block := by
  unfold insertAt
  rw [← length_take_append hindex, List.take_left]

theorem drop_insertAt {index : Nat} (hbehind : point ≤ index) :
    (insertAt page block point).drop (index + block.length) = page.drop index := by
  have hlength := @length_take_append page block point hindex
  unfold insertAt
  rw [List.drop_append, List.drop_of_length_le (by omega), List.nil_append, List.drop_drop]
  congr 1
  omega

theorem getElem?_insertAt {index : Nat} (hbehind : point ≤ index) :
    (insertAt page block point)[index + block.length]? = page[index]? := by
  have hdrop := @drop_insertAt page block point hindex index hbehind
  rw [← Nat.add_zero (index + block.length), ← List.getElem?_drop, hdrop, List.getElem?_drop,
    Nat.add_zero]

end

/-- A block at the point of insertion moves the last marker by its length. -/
theorem IsLast.insertAt (hlast : IsLast marker page last) (hpoint : point ≤ last) :
    IsLast marker (insertAt page block point) (last + block.length) := by
  have hindex : point ≤ page.length := Nat.le_trans hpoint hlast.le
  have hlength : (Page.insertAt page block point).length = page.length + block.length := by
    unfold Page.insertAt
    rw [List.length_append, length_take_append hindex, List.length_drop]
    omega
  refine ⟨?_, ?_, ?_⟩
  · rw [hlength]
    exact Nat.add_le_add_right hlast.le _
  · rw [drop_insertAt hindex hpoint]
    exact hlast.stands
  · -- A marker behind it would be one behind the last marker of the page.
    intro later hlater hstands
    by_contra hbehind
    obtain ⟨index, rfl⟩ : ∃ index, later = index + block.length :=
      ⟨later - block.length, by omega⟩
    rw [drop_insertAt hindex (by omega)] at hstands
    have hle := hlast.last index (by omega) hstands
    omega

/-- A block that ends with a newline, at the point of insertion, moves the point right behind itself. -/
theorem isInsertionPoint_insertAt (hblock : block.getLast? = some '\n')
    (hpoint : IsInsertionPoint marker page point) :
    IsInsertionPoint marker (insertAt page block point) (point + block.length) := by
  obtain ⟨last, hlast, hbetween⟩ := hpoint.exists_isBlankBetween
  have hle := hbetween.le
  have hindex : point ≤ page.length := Nat.le_trans hle hlast.le
  have hpositive : 0 < block.length := by
    cases block with
    | nil => simp at hblock
    | cons first block => exact Nat.succ_pos _
  have hbegins : BeginsLine (insertAt page block point) (point + block.length)
      (last + block.length) := by
    refine ⟨by omega, ?_, ?_⟩
    · right
      rw [← List.getElem?_take_of_lt (show point + block.length - 1 < point + block.length by omega),
        take_insertAt hindex, ← length_take_append hindex, ← List.getLast?_eq_getElem?,
        List.getLast?_append, hblock]
      rfl
    · intro position hfrom hto
      obtain ⟨index, rfl⟩ : ∃ index, position = index + block.length :=
        ⟨position - block.length, by omega⟩
      rw [getElem?_insertAt hindex (by omega)]
      exact hbetween.within index (by omega) (by omega)
  have hblank : isBlankLine (((insertAt page block point).take (last + block.length)).drop
      (point + block.length)) := by
    rw [List.drop_take, drop_insertAt hindex (Nat.le_refl _), Nat.add_sub_add_right, ← List.drop_take]
    exact hbetween.blank
  exact ⟨_, _, hlast.insertAt hle, hbegins, (if_pos hblank).symm⟩

/-! ## Functions that are inserted -/

/-- The block of a function that goes into a page. -/
def insertion (settings : PatcherSettings) (record : FunctionRecord) : List Char :=
  '\n' :: indentLines (List.replicate settings.insertionIndent ' ') (functionCode record) ++
    ['\n', '\n']

theorem getLast?_insertion {settings : PatcherSettings} {record : FunctionRecord} :
    (insertion settings record).getLast? = some '\n' := by
  rw [insertion, List.getLast?_append]
  rfl

variable {settings : PatcherSettings} {patch : Patch} {record : FunctionRecord}
  {functions : List FunctionRecord}

theorem fate_function_eq_inserted
    (hfate : (Change.function record).fate settings page = .inserted) :
    findFunction settings.balancedMatching page record.name.toList = none ∧
      ∃ point, insertionIndex page settings.insertionMarker.toList = some point := by
  unfold Change.fate at hfate
  by_cases hfound : (findFunction settings.balancedMatching page record.name.toList).isSome
  · simp [hfound] at hfate
  · by_cases hmarker : (insertionIndex page settings.insertionMarker.toList).isSome
    · exact ⟨Option.not_isSome_iff_eq_none.mp hfound, Option.isSome_iff_exists.mp hmarker⟩
    · simp [hfound, hmarker] at hfate

/-- The event that confirms that a change went in. -/
def Change.insertedEvent : Change → Event
  | .function record => ⟨.functionInserted, record.name⟩
  | .state record => ⟨.stateInserted, record.reader⟩

theorem event?_inserted {change : Change} :
    change.event? .inserted = some change.insertedEvent := by
  cases change <;> rfl

theorem event?_updated_ne {change : Change} :
    change.event? .updated ≠ some change.insertedEvent := by
  cases change <;> simp [Change.event?, Change.insertedEvent]

/-- A patch that confirms only insertions, one for each change, inserts each of them. -/
theorem fates_eq_inserted {made : List Change}
    (hevents : (fates settings patch made).filterMap (fun (change, fate) => change.event? fate) =
      made.map Change.insertedEvent) :
    ∀ change ∈ fates settings patch made, change.2 = .inserted := by
  induction made generalizing patch with
  | nil => exact fun _ hmade => absurd hmade List.not_mem_nil
  | cons change made ih =>
    cases hfate : change.fate settings patch.text with
    | updated =>
      obtain ⟨event, hevent⟩ : ∃ event, change.event? .updated = some event := by
        cases change <;> exact ⟨_, rfl⟩
      simp only [fates, List.filterMap_cons, hfate, hevent, List.map_cons] at hevents
      rw [(List.cons.inj hevents).1] at hevent
      exact absurd hevent event?_updated_ne
    | inserted =>
      simp only [fates, List.filterMap_cons, hfate, event?_inserted, List.map_cons] at hevents
      intro later hlater
      rw [fates, List.mem_cons] at hlater
      rcases hlater with rfl | hlater
      · exact hfate
      · exact ih (List.cons.inj hevents).2 later hlater
    | skipped =>
      -- Then the later changes would have more confirmations than there are changes.
      have hskipped : change.event? .skipped = none := by cases change <;> rfl
      simp only [fates, List.filterMap_cons, hfate, hskipped, List.map_cons] at hevents
      have hcount := congrArg List.length hevents
      rw [List.length_cons, List.length_map] at hcount
      have hle := hcount.symm.trans_le (List.length_filterMap_le _ _)
      rw [length_fates] at hle
      omega

/-- A patch that confirms only insertions, one for each function, inserts each of them. -/
theorem fates_of_events
    (hevents : (fates settings patch (functions.map .function)).filterMap
        (fun (change, fate) => change.event? fate) =
      functions.map fun record => ⟨.functionInserted, record.name⟩) :
    ∀ made ∈ fates settings patch (functions.map .function), made.2 = .inserted := by
  apply fates_eq_inserted
  rw [hevents, List.map_map]
  rfl

/-- Functions that are all inserted stand one behind the other at the point of insertion. -/
theorem run_of_inserted
    (hinserted : ∀ made ∈ fates settings patch (functions.map .function), made.2 = .inserted)
    (hpoint : IsInsertionPoint settings.insertionMarker.toList patch.text point) :
    run settings patch.text (functions.map .function) =
      insertAt patch.text (functions.flatMap (insertion settings)) point := by
  induction functions generalizing patch point with
  | nil => simp [insertAt, run]
  | cons record functions ih =>
    rw [List.map_cons, fates, List.forall_mem_cons] at hinserted
    obtain ⟨hfirst, hlater⟩ := hinserted
    obtain ⟨hnone, -⟩ := fate_function_eq_inserted hfirst
    have hrun : run settings patch.text ((record :: functions).map .function) =
        run settings ((Change.function record).make settings patch).text (functions.map .function) := by
      rw [Change.make, updateFunction_text]
      rfl
    have htext : ((Change.function record).make settings patch).text =
        insertAt patch.text (insertion settings record) point :=
      updateFunction_text_of_marker hnone (insertionIndex_eq_some.mpr hpoint)
    -- The search for the next function begins where this one ends.
    have hnext := isInsertionPoint_insertAt (@getLast?_insertion settings record) hpoint
    rw [← htext] at hnext
    obtain ⟨last, hlast, hbetween⟩ := hpoint.exists_isBlankBetween
    have hindex : point ≤ patch.text.length := Nat.le_trans hbetween.le hlast.le
    rw [hrun, ih hlater hnext, htext, insertAt, take_insertAt hindex,
      drop_insertAt hindex (Nat.le_refl _), insertAt, List.flatMap_cons,
      List.append_assoc (patch.text.take point)]

/-- Insertions compose in order. A patch without state variables that inserts each of its functions puts
their blocks one behind the other, in the order of the functions, at the point of insertion of the
original page. -/
theorem patch_inserts_in_order {extraction : Extraction} (hstate : extraction.state = [])
    (hinserted : (Page.patch settings page extraction).events =
      extraction.functions.map fun record => ⟨.functionInserted, record.name⟩) :
    extraction.functions = [] ∧ (Page.patch settings page extraction).text = page ∨
      ∃ point, IsInsertionPoint settings.insertionMarker.toList page point ∧
        (Page.patch settings page extraction).text =
          page.take point ++ extraction.functions.flatMap (insertion settings) ++ page.drop point := by
  have hchanges : changes extraction = extraction.functions.map .function := by
    rw [changes, hstate, List.map_nil, List.append_nil]
  have haccounts := (accounts_patch settings page extraction).events
  rw [hinserted, hchanges] at haccounts
  have hfates := fates_of_events haccounts.symm
  rw [patch_text_eq_run, hchanges]
  cases hfunctions : extraction.functions with
  | nil => exact .inl ⟨rfl, rfl⟩
  | cons record functions =>
    right
    rw [hfunctions] at hfates
    obtain ⟨-, point, hpoint⟩ := fate_function_eq_inserted (hfates _ List.mem_cons_self)
    have hpoint := insertionIndex_eq_some.mp hpoint
    exact ⟨point, hpoint, run_of_inserted hfates hpoint⟩

/-- Two functions whose code holds the marker. -/
def markedFunctions : Extraction where
  functions := [
    { name := "f", text := "f(\"</script>\")" },
    { name := "g", text := "g(\"</script>\")" }]

/-- They stand in their order in front of the line of the page's own marker. -/
theorem patch_inserts_in_order_marked :
    markedFunctions.state = [] ∧
      (Page.patch {} "a\n  </script>".toList markedFunctions).events =
        markedFunctions.functions.map (fun record => ⟨.functionInserted, record.name⟩) ∧
      (Page.patch {} "a\n  </script>".toList markedFunctions).text =
        ("a\n\n        f(\"</script>\")\n\n\n        g(\"</script>\")\n\n" ++ "  </script>").toList := by
  have hevents : (Page.patch {} "a\n  </script>".toList markedFunctions).events =
      markedFunctions.functions.map (fun record => ⟨.functionInserted, record.name⟩) := by
    decide
  have hindex : insertionIndex "a\n  </script>".toList "</script>".toList = some 2 := by
    decide
  refine ⟨rfl, hevents, ?_⟩
  rcases patch_inserts_in_order rfl hevents with ⟨hnone, -⟩ | ⟨point, hpoint, htext⟩
  · exact absurd hnone (by simp [markedFunctions])
  · have hsame := (insertionIndex_eq_some.mpr hpoint).symm.trans hindex
    rw [htext, Option.some_inj.mp hsame]
    decide

end PageGraft.Page
