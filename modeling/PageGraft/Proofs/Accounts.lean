import PageGraft.Proofs.Change
import PageGraft.Proofs.Run

/-!
# The accounts of a patch

A change of a patch either updates the declaration that the page has, or goes in where the page has a
place for it, or is skipped (`Change.fate`). Each of them leaves one trace: an event that names the
record, or a warning that names it. `make_cases` says once what a change does to a patch. `Accounts` is
the invariant that a run of changes keeps by it: every change that was made stands in the outcome and
the events, once and in order.

`accounts_complete` is what this comes to for a patch, and for the report of a run.
-/

namespace PageGraft.Page

open PageGraft.Settings Patch

/-! ## What becomes of a change -/

inductive Fate where
  | updated
  | inserted
  | skipped
deriving Repr, DecidableEq

namespace Change

/-- What becomes of a change depends on what is found in the page. A place to go in counts only if there
is no declaration. -/
def fate (settings : PatcherSettings) (page : List Char) : Change → Fate
  | .function record =>
    if (findFunction settings.balancedMatching page record.name.toList).isSome then .updated
    else if (insertionIndex page settings.insertionMarker.toList).isSome then .inserted
    else .skipped
  | .state record =>
    if (findInitialValue page record.reader.toList).isSome then .updated
    else if (findStateRegion settings page).isSome then .inserted
    else .skipped

/-- The event by which a change is confirmed, if it is not skipped. -/
def event? : Change → Fate → Option Event
  | .function record, .updated => some ⟨.functionUpdated, record.name⟩
  | .function record, .inserted => some ⟨.functionInserted, record.name⟩
  | .state record, .updated => some ⟨.stateUpdated, record.reader⟩
  | .state record, .inserted => some ⟨.stateInserted, record.reader⟩
  | _, .skipped => none

/-- The warning that a skipped change leaves. -/
def warning? : Change → Fate → Option String
  | .function record, .skipped =>
    some s!"Could not find insertion point for function: {record.name}"
  | .state record, .skipped => some s!"Could not update state variable: {record.reader}"
  | _, _ => none

/-- The patch after a change. -/
def make (settings : PatcherSettings) (patch : Patch) : Change → Patch
  | .function record => updateFunction settings patch record
  | .state record => updateState settings patch record

end Change

/-- Changes that are made in a patch one after the other, and what becomes of each of them in the page
that those before it have left. -/
def fates (settings : PatcherSettings) (patch : Patch) : List Change → List (Change × Fate)
  | [] => []
  | change :: later =>
    (change, change.fate settings patch.text) :: fates settings (change.make settings patch) later

section

variable {settings : PatcherSettings} {page : List Char} {patch : Patch}

@[simp]
theorem length_fates {made : List Change} : (fates settings patch made).length = made.length := by
  induction made generalizing patch with
  | nil => rfl
  | cons change later ih => rw [fates, List.length_cons, ih, List.length_cons]

/-! ## What a change does to a patch -/

/-- A patch that has one event more, and the update that it confirms. -/
structure Confirms (before after : Patch) (event : Event) : Prop where
  updated : after.outcome.updated = before.outcome.updated + 1
  skipped : after.outcome.skipped = before.outcome.skipped
  warnings : after.outcome.warnings = before.outcome.warnings
  events : after.events = before.events ++ [event]

/-- A patch that has one warning more, and a page that is as it was. -/
structure Complains (before after : Patch) (warning : String) : Prop where
  text : after.text = before.text
  updated : after.outcome.updated = before.outcome.updated
  skipped : after.outcome.skipped = before.outcome.skipped + 1
  warnings : after.outcome.warnings = before.outcome.warnings ++ [warning]
  events : after.events = before.events

theorem confirms_splice {start stop : Nat} {piece : List Char} {event : Event} :
    Confirms patch (patch.splice start stop piece event) event :=
  ⟨rfl, rfl, rfl, rfl⟩

theorem complains_skip {warning : String} : Complains patch (patch.skip warning) warning :=
  ⟨rfl, rfl, rfl, rfl, rfl⟩

/-- A change either is confirmed or leaves a warning, by what becomes of it. -/
theorem make_cases (settings : PatcherSettings) (patch : Patch) (change : Change) :
    (∃ event, change.event? (change.fate settings patch.text) = some event ∧
        change.warning? (change.fate settings patch.text) = none ∧
        Confirms patch (change.make settings patch) event) ∨
      ∃ warning, change.event? (change.fate settings patch.text) = none ∧
        change.warning? (change.fate settings patch.text) = some warning ∧
        Complains patch (change.make settings patch) warning := by
  cases change with
  | function record =>
    simp only [Change.make, updateFunction, Change.fate]
    cases findFunction settings.balancedMatching patch.text record.name.toList with
    | some span => exact .inl ⟨_, rfl, rfl, rfl, rfl, rfl, rfl⟩
    | none =>
      cases insertionIndex patch.text settings.insertionMarker.toList with
      | some index => exact .inl ⟨_, rfl, rfl, confirms_splice⟩
      | none => exact .inr ⟨_, rfl, rfl, complains_skip⟩
  | state record =>
    simp only [Change.make, updateState, Change.fate]
    cases findInitialValue patch.text record.reader.toList with
    | some value => exact .inl ⟨_, rfl, rfl, confirms_splice⟩
    | none =>
      cases findStateRegion settings patch.text with
      | some region => exact .inl ⟨_, rfl, rfl, confirms_splice⟩
      | none => exact .inr ⟨_, rfl, rfl, complains_skip⟩

/-! ## The accounts of a run of changes -/

/-- The accounts of a patch of a page after some changes. -/
structure Accounts (page : List Char) (made : List (Change × Fate)) (patch : Patch) : Prop where
  total : patch.outcome.updated + patch.outcome.skipped = made.length
  warnings : patch.outcome.warnings = made.filterMap fun (change, fate) => change.warning? fate
  skipped : patch.outcome.warnings.length = patch.outcome.skipped
  events : patch.events = made.filterMap fun (change, fate) => change.event? fate
  updated : patch.events.length = patch.outcome.updated
  text : patch.outcome.updated = 0 → patch.text = page

theorem accounts_nil : Accounts page [] { text := page } :=
  ⟨rfl, rfl, rfl, rfl, rfl, fun _ => rfl⟩

section

variable {made : List (Change × Fate)} {after : Patch} {change : Change} {fate : Fate}

theorem Accounts.confirm {event : Event} (haccounts : Accounts page made patch)
    (hconfirms : Confirms patch after event) (hevent : change.event? fate = some event)
    (hwarning : change.warning? fate = none) : Accounts page (made ++ [(change, fate)]) after where
  total := by
    rw [hconfirms.updated, hconfirms.skipped, Nat.add_right_comm, haccounts.total,
      List.length_append, List.length_singleton]
  warnings := by
    rw [hconfirms.warnings, haccounts.warnings, List.filterMap_append]
    simp [hwarning]
  skipped := by
    rw [hconfirms.warnings, hconfirms.skipped, haccounts.skipped]
  events := by
    rw [hconfirms.events, haccounts.events, List.filterMap_append]
    simp [hevent]
  updated := by
    rw [hconfirms.events, hconfirms.updated, List.length_append, haccounts.updated,
      List.length_singleton]
  text := by
    intro hnone
    rw [hconfirms.updated] at hnone
    omega

theorem Accounts.complain {warning : String} (haccounts : Accounts page made patch)
    (hcomplains : Complains patch after warning) (hevent : change.event? fate = none)
    (hwarning : change.warning? fate = some warning) :
    Accounts page (made ++ [(change, fate)]) after where
  total := by
    rw [hcomplains.updated, hcomplains.skipped, ← Nat.add_assoc, haccounts.total,
      List.length_append, List.length_singleton]
  warnings := by
    rw [hcomplains.warnings, haccounts.warnings, List.filterMap_append]
    simp [hwarning]
  skipped := by
    rw [hcomplains.warnings, hcomplains.skipped, List.length_append, haccounts.skipped,
      List.length_singleton]
  events := by
    rw [hcomplains.events, haccounts.events, List.filterMap_append]
    simp [hevent]
  updated := by
    rw [hcomplains.events, hcomplains.updated, haccounts.updated]
  text := by
    intro hnone
    rw [hcomplains.updated] at hnone
    rw [hcomplains.text]
    exact haccounts.text hnone

end

/-- One more change brings one more entry. -/
theorem Accounts.make {made : List (Change × Fate)} (haccounts : Accounts page made patch)
    (settings : PatcherSettings) (change : Change) :
    Accounts page (made ++ [(change, change.fate settings patch.text)])
      (change.make settings patch) := by
  rcases make_cases settings patch change with
    ⟨event, hevent, hwarning, hconfirms⟩ | ⟨warning, hevent, hwarning, hcomplains⟩
  · exact haccounts.confirm hconfirms hevent hwarning
  · exact haccounts.complain hcomplains hevent hwarning

theorem Accounts.foldl_make {made : List (Change × Fate)} {later : List Change}
    (haccounts : Accounts page made patch) :
    Accounts page (made ++ fates settings patch later)
      (later.foldl (Change.make settings) patch) := by
  induction later generalizing made patch with
  | nil =>
    rw [fates, List.append_nil]
    exact haccounts
  | cons change later ih =>
    have hnext := ih (haccounts.make settings change)
    rw [List.append_assoc] at hnext
    exact hnext

end

/-- A patch makes its changes one after the other. -/
theorem patch_eq_foldl_make {settings : PatcherSettings} {page : List Char} {extraction : Extraction} :
    patch settings page extraction =
      ((changes extraction).foldl (Change.make settings) { text := page }).noteEffects
        extraction.effects := by
  rw [changes, List.foldl_append, List.foldl_map, List.foldl_map]
  rfl

theorem accounts_patch (settings : PatcherSettings) (page : List Char) (extraction : Extraction) :
    Accounts page (fates settings { text := page } (changes extraction))
      (patch settings page extraction) := by
  have hrun : Accounts page ([] ++ fates settings { text := page } (changes extraction)) _ :=
    accounts_nil.foldl_make
  rw [List.nil_append] at hrun
  rw [patch_eq_foldl_make, noteEffects]
  split
  · exact hrun
  · exact ⟨hrun.total, hrun.warnings, hrun.skipped, hrun.events, hrun.updated, hrun.text⟩

end PageGraft.Page

namespace PageGraft.Sync

open PageGraft.Component PageGraft.File PageGraft.Page PageGraft.Settings PageGraft.Syntax
  PageGraft.Text

/-! ## The accounts of a run -/

/-- The extraction and the page that a run reads at its two paths. -/
def Reads (parser : Parser) (settings : SyncSettings) (store : Store) (source target : String)
    (extraction : Extraction) (page : List Char) : Prop :=
  ∃ component root text, HasTree parser store source component root ∧ HasText store target text ∧
    extraction = (extractTree settings.extractor settings.transform component root).extraction ∧
    page = universalNewlines text

/-- Only what a run has read and patched is in its report. -/
theorem exists_reads_of_report {parser : Parser} {settings : SyncSettings} {earlier : State}
    {store : Store} {source target : String} {report : Report}
    (hreport : (runWith parser settings earlier store source target).result = .ok report) :
    ∃ extraction page, Reads parser settings store source target extraction page ∧
      report = .of source target extraction (patch settings.patcher page extraction).outcome
        ((patch settings.patcher page extraction).text ≠ page) := by
  rcases runWith_cases parser settings earlier store source target with
    ⟨file, entry, component, root, text, hfile, hsource, hentry, htarget, hroot, htext, hcompletion⟩ |
    ⟨failure, hcause, hfailure⟩
  · rw [hcompletion.result] at hreport
    exact ⟨_, _, ⟨component, root, text, ⟨file, hfile, hsource, hroot⟩,
      ⟨entry, hentry, htarget, htext⟩, rfl, rfl⟩, (Except.ok.inj hreport).symm⟩
  · rw [hfailure.result] at hreport
    exact absurd hreport (by nofun)

/-- Nothing is lost in the accounts. Each record of an extraction is updated, inserted or skipped, in the
order of processing and by what is found in the page that the records before it have left. The records
that are not skipped are counted as updates and have one event each; those that are skipped are counted
as such and have one warning each. A page without updates is as it was. The report of a run says the
same of what the run has read, and it is clean exactly if it has no warning. -/
theorem accounts_complete (settings : PatcherSettings) (page : List Char) (extraction : Extraction) :
    let made := fates settings { text := page } (changes extraction)
    let patched := patch settings page extraction
    patched.outcome.updated + patched.outcome.skipped =
        extraction.functions.length + extraction.state.length ∧
      patched.outcome.warnings = made.filterMap (fun (change, fate) => change.warning? fate) ∧
      patched.outcome.warnings.length = patched.outcome.skipped ∧
      patched.events = made.filterMap (fun (change, fate) => change.event? fate) ∧
      patched.events.length = patched.outcome.updated ∧
      (patched.outcome.updated = 0 → patched.text = page) ∧
      ∀ (parser : Parser) (all : SyncSettings) (earlier : State) (store : Store)
        (source target : String) (report : Report),
        (runWith parser all earlier store source target).result = .ok report →
          ∃ read original, Reads parser all store source target read original ∧
            report.functions = read.functions.length ∧ report.state = read.state.length ∧
            report.updated + report.skipped = report.functions + report.state ∧
            report.warnings = read.warnings ++ (patch all.patcher original read).outcome.warnings ∧
            (report.isClean = true ↔ report.warnings = []) := by
  have hcount : ∀ read : Extraction,
      (changes read).length = read.functions.length + read.state.length := by
    intro read
    rw [changes, List.length_append, List.length_map, List.length_map]
  have hpage := accounts_patch settings page extraction
  refine ⟨?_, hpage.warnings, hpage.skipped, hpage.events, hpage.updated, hpage.text, ?_⟩
  · rw [hpage.total, length_fates, hcount]
  · intro parser all earlier store source target report hreport
    obtain ⟨read, original, hreads, rfl⟩ := exists_reads_of_report hreport
    refine ⟨read, original, hreads, rfl, rfl, ?_⟩
    have hread := accounts_patch all.patcher original read
    have htotal := hread.total
    rw [length_fates, hcount] at htotal
    generalize patch all.patcher original read = patched at hread htotal ⊢
    refine ⟨?_, rfl, ?_⟩
    · show (patched.outcome.updated : Int) + patched.outcome.skipped =
        read.functions.length + read.state.length
      exact_mod_cast htotal
    · -- A skip leaves a warning, so that a report without warnings has no skip either.
      rw [Report.isClean, Bool.and_eq_true, decide_eq_true_iff, List.isEmpty_iff]
      constructor
      · exact And.right
      · intro hnone
        have hskipped := hread.skipped
        rw [(List.append_eq_nil_iff.mp hnone).2] at hskipped
        exact ⟨congrArg Int.ofNat hskipped.symm, hnone⟩

/-- The source of one state variable. -/
def toggle : Source :=
  .ofText "const [n, setN] = useState(true);".toList

/-- The tree of that source. -/
def toggleTree : Node where
  type := "program"
  stop := ⟨33, 0, 33⟩
  children := [
    { type := "lexical_declaration", stop := ⟨33, 0, 33⟩
      children := [
        { type := "const", named := false, stop := ⟨5, 0, 5⟩ },
        { type := "variable_declarator", start := ⟨6, 0, 6⟩, stop := ⟨32, 0, 32⟩
          children := [
            { type := "array_pattern", role := "name", start := ⟨6, 0, 6⟩, stop := ⟨15, 0, 15⟩
              children := [
                { type := "identifier", start := ⟨7, 0, 7⟩, stop := ⟨8, 0, 8⟩ },
                { type := "identifier", start := ⟨10, 0, 10⟩, stop := ⟨14, 0, 14⟩ }] },
            { type := "call_expression", role := "value", start := ⟨18, 0, 18⟩, stop := ⟨32, 0, 32⟩
              children := [
                { type := "identifier", role := "function"
                  start := ⟨18, 0, 18⟩, stop := ⟨26, 0, 26⟩ },
                { type := "arguments", role := "arguments"
                  start := ⟨26, 0, 26⟩, stop := ⟨32, 0, 32⟩
                  children := [
                    { type := "true", start := ⟨27, 0, 27⟩, stop := ⟨31, 0, 31⟩ }] }] }] }] }]

/-- The state variable that is found there. -/
def toggleRecord : StateRecord where
  reader := "n"
  writer := "setN"
  initialValue := "true"
  text := "let n = true;\nfunction setN(newValue) \x7b n = newValue; \x7d"

/-- The tree, whatever the source is. -/
def toggleParser : Parser := fun _ => .ok toggleTree

/-- A store with that source and a page that has no place for it. -/
def toggleStore : Store :=
  { files := [(["page.js"], ⟨toggle.octets, 0⟩), (["index.html"], ⟨[0x61], 0⟩)] }

/-- The report of a run on these files. -/
def toggleReport : Report where
  source := "page.js"
  target := "index.html"
  functions := 0
  state := 1
  effects := 0
  updated := 0
  skipped := 1
  warnings := ["Could not update state variable: n"]

theorem extraction_toggleTree :
    (extractTree {} {} toggle toggleTree).extraction = { state := [toggleRecord] } := by
  decide +kernel

theorem extractComponent_toggle :
    extractComponent toggleParser {} toggle.octets = .ok (extractTree {} {} toggle toggleTree) := by
  have hdecode : decode toggle.octets = .ok "const [n, setN] = useState(true);".toList :=
    decode_eq_ok.mpr rfl
  unfold extractComponent
  rw [hdecode]
  rfl

theorem result_toggle :
    (runWith toggleParser {} .idle toggleStore "page.js" "index.html").result = .ok toggleReport := by
  have hfiles : findFiles toggleStore "page.js" "index.html" = .ok () := by
    decide
  have hsource : HasFile toggleStore "page.js" ⟨toggle.octets, 0⟩ := by
    unfold HasFile
    decide
  have htarget : HasFile toggleStore "index.html" ⟨[0x61], 0⟩ := by
    unfold HasFile
    decide
  have hcomponent : readComponent toggleParser {} toggleStore "page.js" =
      .ok (extractTree {} {} toggle toggleTree) := by
    rw [readComponent_of_readable hsource (by unfold IsReadable; decide), extractComponent_toggle]
  have hpage : readPage toggleStore "index.html" = .ok ['a'] := by
    rw [readPage_of_readable htarget (by unfold IsReadable; decide)]
    cbv
  rw [(runWith_of_ok hfiles htarget hcomponent hpage).result, extraction_toggleTree]
  decide

/-- What `accounts_complete` says of that run. -/
theorem accounts_complete_toggle :
    ∃ read original, Reads toggleParser {} toggleStore "page.js" "index.html" read original ∧
      toggleReport.functions = read.functions.length ∧ toggleReport.state = read.state.length ∧
      toggleReport.updated + toggleReport.skipped = toggleReport.functions + toggleReport.state ∧
      toggleReport.warnings = read.warnings ++ (patch {} original read).outcome.warnings ∧
      (toggleReport.isClean = true ↔ toggleReport.warnings = []) :=
  (accounts_complete {} [] {}).2.2.2.2.2.2 _ _ _ _ _ _ _ result_toggle

end PageGraft.Sync
