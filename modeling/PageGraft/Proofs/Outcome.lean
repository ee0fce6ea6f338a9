import PageGraft.Proofs.Run

/-!
# All or nothing

A run completes or leaves every file as it was, and the files decide how it fails (`InTheWay`,
`runWith_classified`). Where the file system refuses to look for a file, because a name is too long or a
directory is closed, the file is not said to be missing: the run fails with the error of the file
system (`run_of_longName`). So does a run that is refused the octets of the page, while a component that
cannot be read counts as one without a tree.
-/

namespace PageGraft.Sync

open PageGraft.Component PageGraft.File PageGraft.Settings PageGraft.Syntax PageGraft.Text

/-- A run ends with an error of some kind. -/
def Outcome.Fails (outcome : Outcome) (kind : FailureKind) : Prop :=
  ∃ failure, outcome.result = .error failure ∧ failure.kind = kind

/-- What is in the way of a run, by the kind of error that it makes. What stands at the source counts
first, and whether a file is there counts before what is in it. -/
def InTheWay (parser : Parser) (store : Store) (source target : String) : FailureKind → Prop
  | .unreachable =>
    (∃ obstacle, IsOutOfReach store source obstacle) ∨
      (∃ file, HasFile store source file) ∧ (∃ obstacle, IsOutOfReach store target obstacle) ∨
      (∃ component root, HasTree parser store source component root) ∧
        (∃ page, HasFile store target page) ∧ ∃ obstacle, IsBarred store target obstacle
  | .missing =>
    IsMissing store source ∨ (∃ file, HasFile store source file) ∧ IsMissing store target
  | .component =>
    (∃ file, HasFile store source file) ∧ (∃ page, HasFile store target page) ∧
      ∀ component root, ¬ HasTree parser store source component root
  | .page =>
    (∃ component root, HasTree parser store source component root) ∧
      (∃ page, HasFile store target page) ∧ IsReadable store target ∧ ∀ text, ¬ HasText store target text

section

variable {parser : Parser} {settings : SyncSettings} {earlier : State} {store : Store}
  {source target : String} {failure : Failure} {kind : FailureKind} {file page : Entry}

theorem Cause.inTheWay (hcause : Cause parser store source target failure) :
    InTheWay parser store source target failure.kind := by
  cases hcause with
  | sourceOutOfReach hsource => exact .inl ⟨_, hsource⟩
  | sourceMissing hsource => exact .inl hsource
  | targetOutOfReach hsource htarget => exact .inr (.inl ⟨⟨_, hsource⟩, _, htarget⟩)
  | targetMissing hsource htarget => exact .inr ⟨⟨_, hsource⟩, htarget⟩
  | component hsource htarget hnone hkind =>
    rw [hkind]
    exact ⟨⟨_, hsource⟩, ⟨_, htarget⟩, hnone⟩
  | targetBarred hroot htarget hbarred =>
    exact .inr (.inr ⟨⟨_, _, hroot⟩, ⟨_, htarget⟩, _, hbarred⟩)
  | page hroot htarget hreadable hnone hkind =>
    rw [hkind]
    refine ⟨⟨_, _, hroot⟩, ⟨_, htarget⟩, hreadable, ?_⟩
    rintro text ⟨other, hother, -, htext⟩
    rw [← htarget.unique hother] at htext
    exact hnone text htext

/-! ## What is in the way makes a run fail -/

theorem Outcome.IsFailure.fails {outcome : Outcome} (hfailure : outcome.IsFailure store failure) :
    outcome.Fails failure.kind :=
  ⟨failure, hfailure.result, rfl⟩

theorem findFiles_of_source (hsource : findFile store source (.sourceMissing source) = .error failure) :
    findFiles store source target = .error failure := by
  rw [findFiles, hsource]
  rfl

theorem findFiles_of_target (hsource : HasFile store source file)
    (htarget : findFile store target (.targetMissing target) = .error failure) :
    findFiles store source target = .error failure := by
  rw [findFiles, findFile_of_hasFile hsource, htarget]
  rfl

theorem findFiles_of_files (hsource : HasFile store source file) (htarget : HasFile store target page) :
    findFiles store source target = .ok () := by
  rw [findFiles, findFile_of_hasFile hsource, findFile_of_hasFile htarget]
  rfl

theorem exists_readComponent_of_hasTree (settings : SyncSettings) {component : Source} {root : Node}
    (hroot : HasTree parser store source component root) :
    ∃ findings, readComponent parser settings store source = .ok findings := by
  obtain ⟨file, hfile, -, -⟩ := id hroot
  rcases readComponent_cases parser settings hfile with ⟨_, _, -, -, hread⟩ | ⟨_, -, -, hnone⟩
  · exact ⟨_, hread⟩
  · exact absurd hroot (hnone component root)

/-- What is in the way of a run makes it fail with an error of its kind. -/
theorem InTheWay.fails (hway : InTheWay parser store source target kind) :
    (runWith parser settings earlier store source target).Fails kind := by
  cases kind with
  | unreachable =>
    rcases hway with ⟨obstacle, hsource⟩ | ⟨⟨file, hsource⟩, obstacle, htarget⟩ |
      ⟨⟨component, root, hroot⟩, ⟨page, hpage⟩, obstacle, hbarred⟩
    · exact (runWith_of_files (findFiles_of_source (findFile_of_outOfReach hsource))).fails
    · exact (runWith_of_files (findFiles_of_target hsource (findFile_of_outOfReach htarget))).fails
    · obtain ⟨findings, hcomponent⟩ := exists_readComponent_of_hasTree settings hroot
      obtain ⟨file, hfile, -, -⟩ := hroot
      exact (runWith_of_page (findFiles_of_files hfile hpage) hcomponent
        (readPage_of_barred hpage hbarred)).fails
  | missing =>
    rcases hway with hsource | ⟨⟨file, hsource⟩, htarget⟩
    · exact (runWith_of_files (findFiles_of_source (findFile_of_missing hsource))).fails
    · exact (runWith_of_files (findFiles_of_target hsource (findFile_of_missing htarget))).fails
  | component =>
    obtain ⟨⟨file, hfile⟩, ⟨page, hpage⟩, hnone⟩ := hway
    rcases readComponent_cases parser settings hfile with
      ⟨component, root, hreadable, hroot, -⟩ | ⟨failure, hread, hkind, -⟩
    · exact absurd ⟨file, hfile, hreadable, hroot⟩ (hnone component root)
    · rw [← hkind]
      exact (runWith_of_component (findFiles_of_files hfile hpage) hread).fails
  | page =>
    obtain ⟨⟨component, root, hroot⟩, ⟨page, hpage⟩, hreadable, hnone⟩ := hway
    obtain ⟨findings, hcomponent⟩ := exists_readComponent_of_hasTree settings hroot
    obtain ⟨file, hfile, -, -⟩ := hroot
    rcases readPage_cases hpage with ⟨text, -, htext, -⟩ | ⟨obstacle, hbarred, -⟩ |
      ⟨failure, hread, hkind, -⟩
    · exact absurd ⟨page, hpage, hreadable, htext⟩ (hnone text)
    · exact absurd hreadable hbarred.not_readable
    · rw [← hkind]
      exact (runWith_of_page (findFiles_of_files hfile hpage) hcomponent hread).fails

/-! ## How a run ends -/

theorem fails_iff :
    (runWith parser settings earlier store source target).Fails kind ↔
      InTheWay parser store source target kind := by
  refine ⟨?_, InTheWay.fails⟩
  rintro ⟨failure, hresult, rfl⟩
  rcases runWith_cases parser settings earlier store source target with
    ⟨_, _, _, _, _, -, -, -, -, -, -, hcompletion⟩ | ⟨other, hcause, hfailure⟩
  · rw [hcompletion.result] at hresult
    exact absurd hresult nofun
  · obtain rfl := Except.error.inj (hfailure.result.symm.trans hresult)
    exact hcause.inTheWay

/-- A run reports exactly if nothing is in its way. -/
theorem reports_iff :
    (∃ report, (runWith parser settings earlier store source target).result = .ok report) ↔
      (∃ component root, HasTree parser store source component root) ∧ ∃ text, HasText store target text := by
  constructor
  · rintro ⟨report, hresult⟩
    rcases runWith_cases parser settings earlier store source target with
      ⟨file, page, component, root, text, hfile, hsource, hpage, htarget, hroot, htext, -⟩ |
        ⟨failure, -, hfailure⟩
    · exact ⟨⟨component, root, file, hfile, hsource, hroot⟩, text, page, hpage, htarget, htext⟩
    · rw [hfailure.result] at hresult
      exact absurd hresult nofun
  · rintro ⟨⟨component, root, hroot⟩, text, page, hpage, hreadable, htext⟩
    obtain ⟨findings, hcomponent⟩ := exists_readComponent_of_hasTree settings hroot
    obtain ⟨file, hfile, -, -⟩ := hroot
    rcases readPage_cases hpage with ⟨other, -, -, hread⟩ | ⟨obstacle, hbarred, -⟩ | ⟨-, -, -, -, hnone⟩
    · exact ⟨_, (runWith_of_ok (findFiles_of_files hfile hpage) hpage hcomponent hread).result⟩
    · exact absurd hreadable hbarred.not_readable
    · exact absurd htext (hnone text)

/-- The source is looked for first. -/
theorem sourceMissing_iff :
    (runWith parser settings earlier store source target).result = .error (.sourceMissing source) ↔
      IsMissing store source := by
  constructor
  · intro hresult
    rcases runWith_cases parser settings earlier store source target with
      ⟨_, _, _, _, _, -, -, -, -, -, -, hcompletion⟩ | ⟨failure, hcause, hfailure⟩
    · rw [hcompletion.result] at hresult
      exact absurd hresult nofun
    · obtain rfl := Except.error.inj (hfailure.result.symm.trans hresult)
      cases hcause with
      | sourceMissing hsource => exact hsource
      | component _ _ _ hkind => exact absurd hkind nofun
      | page _ _ _ _ hkind => exact absurd hkind nofun
  · intro hsource
    exact (runWith_of_files (findFiles_of_source (findFile_of_missing hsource))).result

/-- A run completes or changes no file, whatever the earlier runs were, and the files decide which
error it ends with: that of the file system if it refuses to look for a file or to give the page, a missing
file, a component that cannot be read or has no tree, or a page that is no text. Whether the files are
there is decided first, and the source comes before the target. -/
theorem runWith_classified (parser : Parser) (settings : SyncSettings) (earlier : State)
    (store : Store) (source target : String) :
    let outcome := runWith parser settings earlier store source target
    (outcome.Fails .unreachable ↔
      (∃ obstacle, IsOutOfReach store source obstacle) ∨
        (∃ file, HasFile store source file) ∧ (∃ obstacle, IsOutOfReach store target obstacle) ∨
        (∃ component root, HasTree parser store source component root) ∧
          (∃ page, HasFile store target page) ∧ ∃ obstacle, IsBarred store target obstacle) ∧
    (outcome.Fails .missing ↔
      IsMissing store source ∨ (∃ file, HasFile store source file) ∧ IsMissing store target) ∧
    (outcome.result = .error (.sourceMissing source) ↔ IsMissing store source) ∧
    (outcome.Fails .component ↔
      (∃ file, HasFile store source file) ∧ (∃ page, HasFile store target page) ∧
        ∀ component root, ¬ HasTree parser store source component root) ∧
    (outcome.Fails .page ↔
      (∃ component root, HasTree parser store source component root) ∧
        (∃ page, HasFile store target page) ∧ IsReadable store target ∧
        ∀ text, ¬ HasText store target text) ∧
    ((∃ report, outcome.result = .ok report) ↔
      (∃ component root, HasTree parser store source component root) ∧
        ∃ text, HasText store target text) ∧
    ((∃ failure, outcome.IsFailure store failure) ∨
      ∃ component root text, HasTree parser store source component root ∧ HasText store target text ∧
        outcome.IsCompletion settings store source target
          (extractTree settings.extractor settings.transform component root).extraction
          (universalNewlines text)) := by
  refine ⟨fails_iff, fails_iff, sourceMissing_iff, fails_iff, fails_iff, reports_iff, ?_⟩
  rcases runWith_cases parser settings earlier store source target with
    ⟨file, page, component, root, text, hfile, hsource, hpage, htarget, hroot, htext, hcompletion⟩ |
      ⟨failure, -, hfailure⟩
  · exact .inr ⟨component, root, text, ⟨file, hfile, hsource, hroot⟩, ⟨page, hpage, htarget, htext⟩,
      hcompletion⟩
  · exact .inl ⟨failure, hfailure⟩

end

/-- A name that is one character too long for the file system. -/
def longName : String :=
  String.ofList (List.replicate 256 'a')

theorem isOutOfReach_longName : IsOutOfReach {} longName .nameTooLong := by
  have hpath : Path.ofText longName = ⟨"", [longName]⟩ := by
    have hcharacters : longName.toList = List.replicate 256 'a' := String.toList_ofList
    rw [Path.ofText, hcharacters]
    decide +kernel
  have htext : Path.toText ⟨"", [longName]⟩ = longName := by
    simp [Path.toText, String.intercalate_singleton]
  have hsize : String.utf8ByteSize longName = 256 := by
    have hcharacters : String.utf8Len (List.replicate 256 'a') = 256 := by decide +kernel
    exact (String.utf8ByteSize_ofList _).trans hcharacters
  have hlocate : Store.locate {} ⟨"", [longName]⟩ = .error .nameTooLong := by
    have hpathLimit : ¬ Store.pathLimit ≤ 256 := by decide
    have hnameLimit : Store.nameLimit < 256 := by decide
    have hnull : ¬ longName.toList.contains '\x00' := by
      have hcharacters : longName.toList = List.replicate 256 'a' := String.toList_ofList
      rw [hcharacters, List.contains_iff_mem, List.mem_replicate]
      exact fun h => absurd h.2 (by decide)
    rw [Store.locate, htext, hsize, if_neg hnull, if_neg hpathLimit, if_pos rfl, Store.follow]
    simp only [hsize, hnameLimit, if_true, Store.hasDirectory]
    rfl
  rw [IsOutOfReach, Store.find, hpath, hlocate]
  exact ⟨rfl, rfl⟩

/-- Nothing is a file at a path that is too long, and a run that is given one as its source does not
say that the file is missing. -/
theorem run_of_longName :
    Store.isFile {} (.ofText longName) = false ∧
      ¬ (run {} .idle {} longName "index.html").Fails .missing := by
  have hreach := isOutOfReach_longName
  refine ⟨?_, ?_⟩
  · rw [Store.isFile, hreach.1]
    rfl
  · intro hmissing
    rcases fails_iff.mp hmissing with hsource | ⟨⟨file, hfile⟩, -⟩
    · exact hreach.not_missing hsource
    · exact hfile.not_outOfReach hreach

end PageGraft.Sync
