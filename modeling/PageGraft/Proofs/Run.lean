import PageGraft.Proofs.Store
import PageGraft.Proofs.Utf8
import PageGraft.Sync.Run

/-!
# How a run ends

A run goes through its states in order until something is in its way. There are four ways through it
(`runWith_of_files`, `runWith_of_component`, `runWith_of_page` and `runWith_of_ok`), and what stands at
the two paths decides which of them it takes. Only the last one writes: a run that fails leaves every
file as it was.
-/

namespace PageGraft.Sync

open PageGraft.Component PageGraft.File PageGraft.Settings PageGraft.Syntax PageGraft.Text

/-! ## Progress -/

namespace Progress

variable {progress : Progress}

@[simp]
theorem entered_note {level : Log.Level} {message : String} :
    (progress.note level message).entered = progress.entered := rfl

@[simp]
theorem entered_append {log : List Log.Entry} : (progress.append log).entered = progress.entered :=
  rfl

@[simp]
theorem entered_enter {state : State} :
    (progress.enter state).entered = progress.entered ++ [state] := rfl

@[simp]
theorem state_enter {state : State} : (progress.enter state).state = state := rfl

theorem entered_foldl_note {level : Log.Level} {α : Type} {message : α → String} {notes : List α} :
    (notes.foldl (fun progress a => progress.note level (message a)) progress).entered =
      progress.entered := by
  induction notes generalizing progress with
  | nil => rfl
  | cons first notes ih => rw [List.foldl_cons, ih, entered_note]

@[simp]
theorem entered_confirm {events : List Event} :
    (progress.confirm events).entered = progress.entered :=
  entered_foldl_note

@[simp]
theorem entered_complain {source : String} {diagnostics : List String} :
    (progress.complain source diagnostics).entered = progress.entered :=
  entered_foldl_note

end Progress

/-! ## What stands at the two paths -/

/-- A file is found at a path. -/
def HasFile (store : Store) (path : String) (file : Entry) : Prop :=
  store.find (.ofText path) = .ok file

/-- The file system refuses to look for a file at a path. -/
def IsOutOfReach (store : Store) (path : String) (obstacle : Obstacle) : Prop :=
  store.find (.ofText path) = .error obstacle ∧ obstacle.isRaised = true

/-- There is no file at a path at which one can be looked for. -/
def IsMissing (store : Store) (path : String) : Prop :=
  ∃ obstacle, store.find (.ofText path) = .error obstacle ∧ obstacle.isRaised = false

/-- The file system refuses to give what is in the file at a path. -/
def IsBarred (store : Store) (path : String) (obstacle : Obstacle) : Prop :=
  store.barrier? (.ofText path) = some obstacle

def IsReadable (store : Store) (path : String) : Prop :=
  store.barrier? (.ofText path) = none

/-- The tree of a component in octets. -/
def IsComponent (parser : Parser) (octets : List UInt8) (source : Source) (root : Node) : Prop :=
  ∃ text, encode text = octets ∧ source = .ofText (universalNewlines text) ∧ parser source = .ok root

/-- The file at a path can be read and holds a component with a tree. -/
def HasTree (parser : Parser) (store : Store) (path : String) (component : Source) (root : Node) : Prop :=
  ∃ file, HasFile store path file ∧ IsReadable store path ∧ IsComponent parser file.octets component root

/-- The file at a path can be read and holds a text. -/
def HasText (store : Store) (path : String) (text : List Char) : Prop :=
  ∃ file, HasFile store path file ∧ IsReadable store path ∧ encode text = file.octets

section

variable {store : Store} {path : String} {missing failure : Failure} {file : Entry} {obstacle : Obstacle}

theorem HasFile.unique {other : Entry} (hfile : HasFile store path file) (hother : HasFile store path other) :
    file = other :=
  Except.ok.inj (hfile.symm.trans hother)

theorem HasFile.not_outOfReach (hfile : HasFile store path file) : ¬ IsOutOfReach store path obstacle := by
  rintro ⟨hfind, -⟩
  exact absurd (hfile.symm.trans hfind) nofun

theorem HasFile.not_missing (hfile : HasFile store path file) : ¬ IsMissing store path := by
  rintro ⟨obstacle, hfind, -⟩
  exact absurd (hfile.symm.trans hfind) nofun

theorem IsOutOfReach.not_missing (hreach : IsOutOfReach store path obstacle) : ¬ IsMissing store path := by
  rintro ⟨other, hfind, hother⟩
  obtain rfl : obstacle = other := Except.error.inj (hreach.1.symm.trans hfind)
  exact absurd (hreach.2.symm.trans hother) nofun

theorem IsBarred.not_readable (hbarred : IsBarred store path obstacle) : ¬ IsReadable store path := by
  intro hreadable
  exact absurd (hbarred.symm.trans hreadable) nofun

theorem IsReadable.read (hreadable : IsReadable store path) (hfile : HasFile store path file) :
    store.read (.ofText path) = .ok file :=
  Store.read_eq_ok.mpr ⟨hfile, hreadable⟩

theorem isReadable_or_exists_isBarred (store : Store) (path : String) :
    IsReadable store path ∨ ∃ obstacle, IsBarred store path obstacle := by
  unfold IsReadable IsBarred
  cases store.barrier? (.ofText path) with
  | none => exact .inl rfl
  | some obstacle => exact .inr ⟨obstacle, rfl⟩

theorem findFile_of_hasFile (hfile : HasFile store path file) : findFile store path missing = .ok () := by
  unfold findFile
  rw [show store.find (.ofText path) = .ok file from hfile]

theorem findFile_of_outOfReach (hreach : IsOutOfReach store path obstacle) :
    findFile store path missing = .error (.unreachable obstacle path) := by
  unfold findFile
  simp only [hreach.1, hreach.2, if_true]

theorem findFile_of_missing (hmissing : IsMissing store path) :
    findFile store path missing = .error missing := by
  obtain ⟨obstacle, hfind, hquiet⟩ := hmissing
  unfold findFile
  simp only [hfind, hquiet, Bool.false_eq_true, if_false]

/-- A file is found at a path, or the file system refuses to look for one, or there is none. -/
theorem stands_cases (store : Store) (path : String) :
    (∃ file, HasFile store path file) ∨ (∃ obstacle, IsOutOfReach store path obstacle) ∨
      IsMissing store path := by
  unfold HasFile IsOutOfReach IsMissing
  cases store.find (.ofText path) with
  | ok file => exact .inl ⟨file, rfl⟩
  | error obstacle =>
    cases hraised : obstacle.isRaised with
    | true => exact .inr (.inl ⟨obstacle, rfl, hraised⟩)
    | false => exact .inr (.inr ⟨obstacle, rfl, hraised⟩)

theorem findFile_eq_ok : findFile store path missing = .ok () ↔ ∃ file, HasFile store path file := by
  refine ⟨fun hfind => ?_, fun ⟨file, hfile⟩ => findFile_of_hasFile hfile⟩
  rcases stands_cases store path with hfile | ⟨obstacle, hreach⟩ | hmissing
  · exact hfile
  · rw [findFile_of_outOfReach hreach] at hfind
    exact absurd hfind nofun
  · rw [findFile_of_missing hmissing] at hfind
    exact absurd hfind nofun

theorem findFile_eq_error :
    findFile store path missing = .error failure ↔
      (∃ obstacle, IsOutOfReach store path obstacle ∧ failure = .unreachable obstacle path) ∨
        IsMissing store path ∧ failure = missing := by
  constructor
  · intro hfind
    rcases stands_cases store path with ⟨file, hfile⟩ | ⟨obstacle, hreach⟩ | hmissing
    · rw [findFile_of_hasFile hfile] at hfind
      exact absurd hfind nofun
    · rw [findFile_of_outOfReach hreach] at hfind
      exact .inl ⟨obstacle, hreach, (Except.error.inj hfind).symm⟩
    · rw [findFile_of_missing hmissing] at hfind
      exact .inr ⟨hmissing, (Except.error.inj hfind).symm⟩
  · rintro (⟨obstacle, hreach, rfl⟩ | ⟨hmissing, rfl⟩)
    · exact findFile_of_outOfReach hreach
    · exact findFile_of_missing hmissing

/-- Both files are found, or the first of the two paths that has none decides. -/
theorem findFiles_cases (store : Store) (source target : String) :
    (∃ file page, HasFile store source file ∧ HasFile store target page ∧
      findFiles store source target = .ok ()) ∨
    ∃ failure, findFiles store source target = .error failure ∧
      ((∃ obstacle, IsOutOfReach store source obstacle ∧ failure = .unreachable obstacle source) ∨
        IsMissing store source ∧ failure = .sourceMissing source ∨
        (∃ file, HasFile store source file) ∧
          ((∃ obstacle, IsOutOfReach store target obstacle ∧ failure = .unreachable obstacle target) ∨
            IsMissing store target ∧ failure = .targetMissing target)) := by
  rw [findFiles]
  cases hsource : findFile store source (.sourceMissing source) with
  | error failure =>
    refine .inr ⟨failure, rfl, ?_⟩
    rcases findFile_eq_error.mp hsource with houtside | hmissing
    · exact .inl houtside
    · exact .inr (.inl hmissing)
  | ok found =>
    obtain ⟨file, hfile⟩ := findFile_eq_ok.mp hsource
    cases htarget : findFile store target (.targetMissing target) with
    | error failure =>
      exact .inr ⟨failure, rfl, .inr (.inr ⟨⟨file, hfile⟩, findFile_eq_error.mp htarget⟩)⟩
    | ok found =>
      obtain ⟨page, hpage⟩ := findFile_eq_ok.mp htarget
      exact .inl ⟨file, page, hfile, hpage, rfl⟩

end

/-! ## The failures of each step -/

/-- The errors that a caller can tell apart; the first one is that of the file system. -/
inductive FailureKind where
  | unreachable
  | missing
  | component
  | page
deriving Repr, DecidableEq

def Failure.kind : Failure → FailureKind
  | .sourceMissing _ | .targetMissing _ => .missing
  | .unreachable _ _ => .unreachable
  | .sourceUndecodable _ | .sourceUnparsable _ => .component
  | .targetUndecodable _ => .page

/-- A component is extracted exactly if it has a tree. -/
theorem extractComponent_cases (parser : Parser) (settings : SyncSettings) (octets : List UInt8) :
    (∃ source root, IsComponent parser octets source root ∧
      extractComponent parser settings octets =
        .ok (extractTree settings.extractor settings.transform source root)) ∨
    ∃ failure, extractComponent parser settings octets = .error failure ∧
      failure.kind = .component ∧ ∀ source root, ¬ IsComponent parser octets source root := by
  rw [extractComponent]
  cases htext : decode octets with
  | error fault =>
    refine .inr ⟨.sourceUndecodable (.undecodable fault), rfl, rfl, ?_⟩
    rintro source root ⟨text, hoctets, -⟩
    rw [decode_eq_ok.mpr hoctets] at htext
    exact absurd htext (by nofun)
  | ok text =>
    have hoctets := decode_eq_ok.mp htext
    cases hroot : parser (.ofText (universalNewlines text)) with
    | error fault =>
      refine .inr ⟨.sourceUnparsable fault, ?_, rfl, ?_⟩
      · simp only [Except.mapError, bind, Except.bind, extractWith, hroot, Except.map]
      · rintro source root ⟨text', hoctets', rfl, hroot'⟩
        obtain rfl := Except.ok.inj (htext.symm.trans (decode_eq_ok.mpr hoctets'))
        rw [hroot] at hroot'
        exact absurd hroot' (by nofun)
    | ok root =>
      refine .inl ⟨_, root, ⟨text, hoctets, rfl, hroot⟩, ?_⟩
      simp only [Except.mapError, bind, Except.bind, extractWith, hroot, Except.map]

theorem pageText_cases (octets : List UInt8) :
    (∃ text, encode text = octets ∧ pageText octets = .ok (universalNewlines text)) ∨
    ∃ failure, pageText octets = .error failure ∧ failure.kind = .page ∧
      ∀ text, encode text ≠ octets := by
  rw [pageText]
  cases htext : decode octets with
  | error fault =>
    refine .inr ⟨.targetUndecodable fault, rfl, rfl, ?_⟩
    intro text hoctets
    rw [decode_eq_ok.mpr hoctets] at htext
    exact absurd htext (by nofun)
  | ok text => exact .inl ⟨text, decode_eq_ok.mp htext, rfl⟩

section

variable {parser : Parser} {settings : SyncSettings} {store : Store} {path : String} {file : Entry}
  {obstacle : Obstacle}

theorem readComponent_of_readable (hfile : HasFile store path file) (hreadable : IsReadable store path) :
    readComponent parser settings store path = extractComponent parser settings file.octets := by
  unfold readComponent
  rw [hreadable.read hfile]

theorem readComponent_of_barred (hfile : HasFile store path file) (hbarred : IsBarred store path obstacle) :
    readComponent parser settings store path =
      .error (.sourceUndecodable (.unopened (.obstacle obstacle path))) := by
  unfold readComponent
  rw [Store.read_of_barrier hfile hbarred]

theorem readPage_of_readable (hfile : HasFile store path file) (hreadable : IsReadable store path) :
    readPage store path = pageText file.octets := by
  unfold readPage
  rw [hreadable.read hfile]

theorem readPage_of_barred (hfile : HasFile store path file) (hbarred : IsBarred store path obstacle) :
    readPage store path = .error (.unreachable obstacle path) := by
  unfold readPage
  rw [Store.read_of_barrier hfile hbarred]

/-- A component that was found is extracted exactly if it can be read and has a tree. -/
theorem readComponent_cases (parser : Parser) (settings : SyncSettings) (hfile : HasFile store path file) :
    (∃ component root, IsReadable store path ∧ IsComponent parser file.octets component root ∧
      readComponent parser settings store path =
        .ok (extractTree settings.extractor settings.transform component root)) ∨
    ∃ failure, readComponent parser settings store path = .error failure ∧
      failure.kind = .component ∧ ∀ component root, ¬ HasTree parser store path component root := by
  rcases isReadable_or_exists_isBarred store path with hreadable | ⟨obstacle, hbarred⟩
  · rw [readComponent_of_readable hfile hreadable]
    rcases extractComponent_cases parser settings file.octets with
      ⟨component, root, hroot, hextract⟩ | ⟨failure, hextract, hkind, hnone⟩
    · exact .inl ⟨component, root, hreadable, hroot, hextract⟩
    · refine .inr ⟨failure, hextract, hkind, ?_⟩
      rintro component root ⟨other, hother, -, hroot⟩
      obtain rfl := hfile.unique hother
      exact hnone component root hroot
  · refine .inr ⟨_, readComponent_of_barred hfile hbarred, rfl, ?_⟩
    rintro component root ⟨-, -, hreadable, -⟩
    exact hbarred.not_readable hreadable

/-- A page that was found has a text, or it cannot be read, or its octets are no text. -/
theorem readPage_cases (hfile : HasFile store path file) :
    (∃ text, IsReadable store path ∧ encode text = file.octets ∧
      readPage store path = .ok (universalNewlines text)) ∨
    (∃ obstacle, IsBarred store path obstacle ∧ readPage store path = .error (.unreachable obstacle path)) ∨
    ∃ failure, readPage store path = .error failure ∧ failure.kind = .page ∧ IsReadable store path ∧
      ∀ text, encode text ≠ file.octets := by
  rcases isReadable_or_exists_isBarred store path with hreadable | ⟨obstacle, hbarred⟩
  · rw [readPage_of_readable hfile hreadable]
    rcases pageText_cases file.octets with ⟨text, htext, hread⟩ | ⟨failure, hread, hkind, hnone⟩
    · exact .inl ⟨text, hreadable, htext, hread⟩
    · exact .inr (.inr ⟨failure, hread, hkind, hreadable, hnone⟩)
  · exact .inr (.inl ⟨obstacle, hbarred, readPage_of_barred hfile hbarred⟩)

end

/-! ## The ways through a run -/

/-- The states of a run that comes to its end. -/
def State.course : List State :=
  [.idle, .validatingPaths, .extracting, .patching, .reporting, .done]

/-- A run that has failed on its way: it ends in the failed state, and no file is changed. -/
structure Outcome.IsFailure (outcome : Outcome) (store : Store) (failure : Failure) : Prop where
  result : outcome.result = .error failure
  store : outcome.store = store
  state : outcome.state = .failed
  entered : ∃ front, front <+: State.course ∧ outcome.progress.entered = front ++ [.failed]

/-- A run that has come to its end with a page of some text, from which a tree has made another. -/
structure Outcome.IsCompletion (outcome : Outcome) (settings : SyncSettings) (store : Store)
    (source target : String) (extraction : Extraction) (page : List Char) : Prop where
  result : outcome.result = .ok (.of source target extraction
    (Page.patch settings.patcher page extraction).outcome
    ((Page.patch settings.patcher page extraction).text ≠ page))
  store : store.OnlyWrites outcome.store (.ofText target)
    (encode (Page.patch settings.patcher page extraction).text)
  state : outcome.state = .done
  entered : outcome.progress.entered = State.course

section

variable {parser : Parser} {settings : SyncSettings} {earlier : State} {store : Store}
  {source target : String} {failure : Failure}

theorem runWith_of_files (hfiles : findFiles store source target = .error failure) :
    (runWith parser settings earlier store source target).IsFailure store failure := by
  unfold runWith
  simp only [hfiles]
  exact ⟨rfl, rfl, rfl, [.idle, .validatingPaths], by decide, rfl⟩

theorem runWith_of_component (hfiles : findFiles store source target = .ok ())
    (hcomponent : readComponent parser settings store source = .error failure) :
    (runWith parser settings earlier store source target).IsFailure store failure := by
  unfold runWith
  simp only [hfiles, hcomponent]
  refine ⟨rfl, rfl, rfl, [.idle, .validatingPaths, .extracting], by decide, ?_⟩
  simp [Outcome.failed]

theorem runWith_of_page {findings : Findings} (hfiles : findFiles store source target = .ok ())
    (hcomponent : readComponent parser settings store source = .ok findings)
    (hpage : readPage store target = .error failure) :
    (runWith parser settings earlier store source target).IsFailure store failure := by
  unfold runWith finish
  simp only [hfiles, hcomponent, hpage]
  refine ⟨rfl, rfl, rfl, [.idle, .validatingPaths, .extracting], by decide, ?_⟩
  simp [Outcome.failed]

theorem runWith_of_ok {file : Entry} {findings : Findings} {page : List Char}
    (hfiles : findFiles store source target = .ok ()) (htarget : HasFile store target file)
    (hcomponent : readComponent parser settings store source = .ok findings)
    (hpage : readPage store target = .ok page) :
    (runWith parser settings earlier store source target).IsCompletion settings store source target
      findings.extraction page := by
  unfold runWith finish
  simp only [hfiles, hcomponent, hpage]
  refine ⟨rfl, Store.onlyWrites_write htarget, rfl, ?_⟩
  simp [State.course]

/-- Why a run fails with a failure: its files cannot be looked for or are missing, the component has no
tree that can be read, or the page cannot be read or is no text. The first of these that holds decides. -/
inductive Cause (parser : Parser) (store : Store) (source target : String) : Failure → Prop where
  | sourceOutOfReach {obstacle : Obstacle} (hsource : IsOutOfReach store source obstacle) :
      Cause parser store source target (.unreachable obstacle source)
  | sourceMissing (hsource : IsMissing store source) :
      Cause parser store source target (.sourceMissing source)
  | targetOutOfReach {file : Entry} {obstacle : Obstacle} (hsource : HasFile store source file)
      (htarget : IsOutOfReach store target obstacle) :
      Cause parser store source target (.unreachable obstacle target)
  | targetMissing {file : Entry} (hsource : HasFile store source file)
      (htarget : IsMissing store target) :
      Cause parser store source target (.targetMissing target)
  | component {file page : Entry} {failure : Failure} (hsource : HasFile store source file)
      (htarget : HasFile store target page)
      (hnone : ∀ component root, ¬ HasTree parser store source component root)
      (hkind : failure.kind = .component) : Cause parser store source target failure
  | targetBarred {page : Entry} {component : Source} {root : Node} {obstacle : Obstacle}
      (hroot : HasTree parser store source component root) (htarget : HasFile store target page)
      (hbarred : IsBarred store target obstacle) :
      Cause parser store source target (.unreachable obstacle target)
  | page {page : Entry} {component : Source} {root : Node} {failure : Failure}
      (hroot : HasTree parser store source component root) (htarget : HasFile store target page)
      (hreadable : IsReadable store target) (hnone : ∀ text, encode text ≠ page.octets)
      (hkind : failure.kind = .page) : Cause parser store source target failure

/-- A run either completes or fails, and what stands at the two paths decides which. -/
theorem runWith_cases (parser : Parser) (settings : SyncSettings) (earlier : State) (store : Store)
    (source target : String) :
    (∃ file page component root text, HasFile store source file ∧ IsReadable store source ∧
      HasFile store target page ∧ IsReadable store target ∧
      IsComponent parser file.octets component root ∧ encode text = page.octets ∧
      (runWith parser settings earlier store source target).IsCompletion settings store source target
        (extractTree settings.extractor settings.transform component root).extraction
        (universalNewlines text)) ∨
    ∃ failure, Cause parser store source target failure ∧
      (runWith parser settings earlier store source target).IsFailure store failure := by
  rcases findFiles_cases store source target with ⟨file, page, hfile, hpage, hfiles⟩ |
    ⟨failure, hfiles, hcause⟩
  · rcases readComponent_cases parser settings hfile with
      ⟨component, root, hsource, hroot, hcomponent⟩ | ⟨failure, hcomponent, hkind, hnone⟩
    · have htree : HasTree parser store source component root := ⟨file, hfile, hsource, hroot⟩
      rcases readPage_cases hpage with ⟨text, htarget, htext, hread⟩ | ⟨obstacle, hbarred, hread⟩ |
        ⟨failure, hread, hkind, htarget, hnone⟩
      · exact .inl ⟨file, page, component, root, text, hfile, hsource, hpage, htarget, hroot, htext,
          runWith_of_ok hfiles hpage hcomponent hread⟩
      · exact .inr ⟨_, .targetBarred htree hpage hbarred, runWith_of_page hfiles hcomponent hread⟩
      · exact .inr ⟨failure, .page htree hpage htarget hnone hkind,
          runWith_of_page hfiles hcomponent hread⟩
    · exact .inr ⟨failure, .component hfile hpage hnone hkind,
        runWith_of_component hfiles hcomponent⟩
  · refine .inr ⟨failure, ?_, runWith_of_files hfiles⟩
    rcases hcause with ⟨obstacle, hsource, rfl⟩ | ⟨hsource, rfl⟩ |
      ⟨⟨file, hsource⟩, ⟨obstacle, htarget, rfl⟩ | ⟨htarget, rfl⟩⟩
    · exact .sourceOutOfReach hsource
    · exact .sourceMissing hsource
    · exact .targetOutOfReach hsource htarget
    · exact .targetMissing hsource htarget

end

end PageGraft.Sync
