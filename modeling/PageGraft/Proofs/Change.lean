import PageGraft.Proofs.FunctionSplice
import PageGraft.Proofs.Marker
import PageGraft.Proofs.StateSplice

/-!
# A patch as a run of changes

A patch brings the records of an extraction into a page one by one. Each of them is a change, and a
change either does nothing or makes one splice, which depends on the page only (`Change.splice?`).
`patch_text_eq_run` says that the page after a patch is the page after the run of its changes.
-/

namespace PageGraft.Page

open PageGraft.Text PageGraft.Script PageGraft.Settings Patch

/-- A piece that goes in the place of the characters from one index to another. -/
structure Splice where
  start : Nat
  stop : Nat
  piece : List Char
deriving Repr, DecidableEq

/-- The page with the piece in it. -/
def Splice.write (splice : Splice) (page : List Char) : List Char :=
  page.take splice.start ++ splice.piece ++ page.drop splice.stop

/-- One record of an extraction that a patch brings into a page. -/
inductive Change where
  | function (record : FunctionRecord)
  | state (record : StateRecord)
deriving Repr, DecidableEq

namespace Change

/-- The extraction that holds the change alone. -/
def extraction : Change → Extraction
  | .function record => { functions := [record] }
  | .state record => { state := [record] }

variable (settings : PatcherSettings) (page : List Char)

/-- The splice that a change makes in a page, if there is a place for it. -/
def splice? : Change → Option Splice
  | .function record =>
    match findFunction settings.balancedMatching page record.name.toList with
    | some span => some ⟨span.start, span.stop, hang span.indent (functionCode record)⟩
    | none =>
      (insertionIndex page settings.insertionMarker.toList).map fun index =>
        ⟨index, index,
          '\n' :: indentLines (List.replicate settings.insertionIndent ' ') (functionCode record) ++
            ['\n', '\n']⟩
  | .state record =>
    match findInitialValue page record.reader.toList with
    | some (start, stop) => some ⟨start, stop, record.initialValue.toList⟩
    | none =>
      (findStateRegion settings page).map fun (start, stop) =>
        ⟨stop, stop,
          '\n' :: indentAt page start ++ (newDeclaration record ++
            (record.initialValue.toList ++ setterNote record))⟩

/-- The page after a change. -/
def apply (change : Change) : List Char :=
  ((change.splice? settings page).map (·.write page)).getD page

end Change

/-- The changes of an extraction in the order in which a patch makes them. -/
def changes (extraction : Extraction) : List Change :=
  extraction.functions.map .function ++ extraction.state.map .state

/-- The page after some changes. -/
def run (settings : PatcherSettings) (page : List Char) (made : List Change) : List Char :=
  made.foldl (fun page change => change.apply settings page) page

variable {settings : PatcherSettings} {page : List Char}

/-- A change without a place leaves the page as it is. -/
theorem Change.apply_of_none {change : Change} (hnone : change.splice? settings page = none) :
    change.apply settings page = page := by
  rw [apply, hnone]
  rfl

theorem Change.apply_of_some {change : Change} {splice : Splice}
    (hsplice : change.splice? settings page = some splice) :
    change.apply settings page = splice.write page := by
  rw [apply, hsplice]
  rfl

/-! ## The splices of each kind of change -/

section

variable {record : FunctionRecord}

theorem splice?_of_found {span : FunctionSpan}
    (hfound : findFunction settings.balancedMatching page record.name.toList = some span) :
    (Change.function record).splice? settings page =
      some ⟨span.start, span.stop, hang span.indent (functionCode record)⟩ := by
  simp only [Change.splice?, hfound]

theorem splice?_of_marker {index : Nat}
    (hnone : findFunction settings.balancedMatching page record.name.toList = none)
    (hmarker : insertionIndex page settings.insertionMarker.toList = some index) :
    (Change.function record).splice? settings page =
      some ⟨index, index, '\n' :: indentLines (List.replicate settings.insertionIndent ' ')
        (functionCode record) ++ ['\n', '\n']⟩ := by
  simp only [Change.splice?, hnone, hmarker, Option.map_some]

theorem splice?_function_eq_none :
    (Change.function record).splice? settings page = none ↔
      findFunction settings.balancedMatching page record.name.toList = none ∧
        insertionIndex page settings.insertionMarker.toList = none := by
  cases hfound : findFunction settings.balancedMatching page record.name.toList with
  | some span => simp [splice?_of_found hfound]
  | none => simp [Change.splice?, hfound]

theorem updateFunction_text {patch : Patch} :
    (updateFunction settings patch record).text =
      (Change.function record).apply settings patch.text := by
  cases hfound : findFunction settings.balancedMatching patch.text record.name.toList with
  | some span =>
    rw [updateFunction_text_of_found hfound, Change.apply_of_some (splice?_of_found hfound)]
    rfl
  | none =>
    cases hmarker : insertionIndex patch.text settings.insertionMarker.toList with
    | some index =>
      rw [updateFunction_text_of_marker hfound hmarker,
        Change.apply_of_some (splice?_of_marker hfound hmarker)]
      rfl
    | none =>
      rw [updateFunction_of_none hfound hmarker,
        Change.apply_of_none (splice?_function_eq_none.mpr ⟨hfound, hmarker⟩)]
      rfl

end

section

variable {record : StateRecord} {start stop : Nat}

theorem splice?_of_value
    (hfound : findInitialValue page record.reader.toList = some (start, stop)) :
    (Change.state record).splice? settings page =
      some ⟨start, stop, record.initialValue.toList⟩ := by
  simp only [Change.splice?, hfound]

theorem splice?_of_region
    (hnone : findInitialValue page record.reader.toList = none)
    (hregion : findStateRegion settings page = some (start, stop)) :
    (Change.state record).splice? settings page =
      some ⟨stop, stop, '\n' :: indentAt page start ++ (newDeclaration record ++
        (record.initialValue.toList ++ setterNote record))⟩ := by
  simp only [Change.splice?, hnone, hregion, Option.map_some]

theorem splice?_state_eq_none :
    (Change.state record).splice? settings page = none ↔
      findInitialValue page record.reader.toList = none ∧
        findStateRegion settings page = none := by
  cases hfound : findInitialValue page record.reader.toList with
  | some found => simp [splice?_of_value hfound]
  | none => simp [Change.splice?, hfound]

theorem updateState_text {patch : Patch} :
    (updateState settings patch record).text =
      (Change.state record).apply settings patch.text := by
  cases hfound : findInitialValue patch.text record.reader.toList with
  | some found =>
    rw [updateState_text_of_found hfound, Change.apply_of_some (splice?_of_value hfound)]
    rfl
  | none =>
    cases hregion : findStateRegion settings patch.text with
    | some found =>
      rw [updateState_text_of_region hfound hregion,
        Change.apply_of_some (splice?_of_region hfound hregion)]
      rfl
    | none =>
      rw [updateState_of_none hfound hregion,
        Change.apply_of_none (splice?_state_eq_none.mpr ⟨hfound, hregion⟩)]
      rfl

end

/-! ## The run of a patch -/

/-- A change does what a patch with its record alone does. -/
theorem patch_text_change {change : Change} :
    (patch settings page change.extraction).text = change.apply settings page := by
  cases change with
  | function record => exact updateFunction_text
  | state record => exact updateState_text

theorem foldl_updateFunction_text {patch : Patch} {functions : List FunctionRecord} :
    (functions.foldl (updateFunction settings) patch).text =
      run settings patch.text (functions.map .function) := by
  induction functions generalizing patch with
  | nil => rfl
  | cons record functions ih =>
    rw [List.foldl_cons, ih, updateFunction_text]
    rfl

theorem foldl_updateState_text {patch : Patch} {state : List StateRecord} :
    (state.foldl (updateState settings) patch).text =
      run settings patch.text (state.map .state) := by
  induction state generalizing patch with
  | nil => rfl
  | cons record state ih =>
    rw [List.foldl_cons, ih, updateState_text]
    rfl

/-- The page after a patch is the page after the run of its changes. -/
theorem patch_text_eq_run {extraction : Extraction} :
    (patch settings page extraction).text = run settings page (changes extraction) := by
  have hnote : ∀ (patch : Patch) (effects : List EffectRecord),
      (patch.noteEffects effects).text = patch.text := by
    intro patch effects
    unfold noteEffects
    split <;> rfl
  unfold patch
  rw [hnote, foldl_updateState_text, foldl_updateFunction_text, changes, run, run, run,
    List.foldl_append]

/-- Changes that each leave a page as it is leave it so together. -/
theorem run_eq_self {made : List Change}
    (hmade : ∀ change ∈ made, change.apply settings page = page) :
    run settings page made = page := by
  induction made with
  | nil => rfl
  | cons change made ih =>
    have hfirst := hmade change List.mem_cons_self
    have hrest : ∀ later ∈ made, later.apply settings page = page := by
      intro later hlater
      exact hmade later (List.mem_cons_of_mem _ hlater)
    rw [run, List.foldl_cons, hfirst]
    exact ih hrest

/-! ## What changes look for -/

/-- The words of the comment that begins the state region. -/
def regionWords (settings : PatcherSettings) : List (List Char) :=
  wordsOf settings.stateRegionComment.toList

/-- The pieces that a line after the state region begins with. -/
def regionTerminators (settings : PatcherSettings) : List (List Char) :=
  (settings.regionTerminators ++ [settings.insertionMarker]).map String.toList

namespace Change

/-- Finds the declarations that a change could replace. -/
def anchor : Change → Finder
  | .function record => functionHeader record.name.toList
  | .state record => letHeader record.reader.toList

/-- Find the places at which a change without a declaration in the page could go in. -/
def places (settings : PatcherSettings) : Change → List Finder
  | .function _ => [occurrence settings.insertionMarker.toList]
  | .state _ => [regionComment (regionWords settings), regionEnd (regionTerminators settings)]

/-- The declaration of a change in a page, from its first word to the end of its code or value. -/
def extent? (settings : PatcherSettings) (page : List Char) : Change → Option (Nat × Nat)
  | .function record =>
    (findFunction settings.balancedMatching page record.name.toList).map fun span =>
      (span.start, span.stop)
  | .state record => do
    let (start, _) ← firstFound (letHeader record.reader.toList) none page
    let (_, stop) ← findInitialValue page record.reader.toList
    pure (start, stop)

/-- The text of a change in a line with an indentation. -/
def text (indent : List Char) : Change → List Char
  | .function record => hang indent (functionCode record)
  | .state record => record.initialValue.toList

/-- The record of a change is one that the search can read: its name is in one piece, its code is
found whole wherever it stands, its value is a literal. -/
def IsSound (settings : PatcherSettings) : Change → Prop
  | .function record =>
    IsPlain record.name.toList ∧
      SelfLocating settings.balancedMatching record.name.toList (functionCode record)
  | .state record => IsPlain record.reader.toList ∧ InitialLiteral record.initialValue.toList

/-- A change comes before another one in a patch and has a name of its own. -/
def Precedes : Change → Change → Prop
  | .function earlier, .function later => earlier.name.toList ≠ later.name.toList
  | .function _, .state _ => True
  | .state earlier, .state later => earlier.reader.toList ≠ later.reader.toList
  | .state _, .function _ => False

end Change

end PageGraft.Page
