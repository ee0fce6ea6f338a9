import PageGraft.Proofs.Utf8
import PageGraft.Proofs.Validity
import PageGraft.Settings.Load

/-!
# How loading settings ends

Documents are loaded and their properties are checked by a library, and nothing is said here of how it
does that. With a check that makes valid settings or finds problems, loading answers valid settings or an
error of the settings that says what is wrong (`Documented`), unless the path holds a null character or the
loader fails with a fault of another kind (`Escapes`). A loader whose faults are all foreseen leaves one
way out of a file: an error of the decoder, which it comes upon in octets that are no text (`BreaksOff`).
`load_documented_iff` says both.
-/

namespace PageGraft.Settings

open PageGraft.Data PageGraft.File PageGraft.Text

/-! ## What is assumed of a library -/

/-- The check makes valid settings, or it finds problems. -/
def Library.ChecksSettings (library : Library) : Prop :=
  ∀ entries, (library.check entries).Ensures SyncSettings.IsValid fun _ => True

/-- The faults of the loader are those that are foreseen: the text is no document, or it cannot be read to
its end, because the operating system does not give it or because it breaks off. -/
def Library.LoadsTexts (library : Library) : Prop :=
  ∀ stream fault, library.load stream = .error fault →
    fault.kind = .format ∨ fault.kind = .system ∨
      ∃ error, fault = .undecodable error ∧ stream.error.isSome

/-- The check of this program is one. -/
theorem Library.checksSettings_own : Library.own.ChecksSettings := by
  intro entries
  exact (ensures_readSync entries).imp fun _ hvalid => hvalid

/-! ## Opening a file -/

section

variable {store : Store} {path : Path} {entry : Entry} {obstacle : Obstacle}

theorem openText_of_null (hnull : '\x00' ∈ path.toText.toList) : store.openText path = .error .notPath := by
  unfold Store.openText
  rw [if_pos (by simpa using hnull)]

theorem openText_of_obstacle (hpath : '\x00' ∉ path.toText.toList)
    (hread : store.read path = .error obstacle) :
    store.openText path = .error (.obstacle obstacle path.toText) := by
  unfold Store.openText
  rw [if_neg (by simpa using hpath), hread]

theorem openText_of_entry (hpath : '\x00' ∉ path.toText.toList) (hread : store.read path = .ok entry) :
    store.openText path = .ok (.ofOctets entry.octets) := by
  unfold Store.openText
  rw [if_neg (by simpa using hpath), hread]

end

/-! ## Endings -/

/-- The entries of a document; an empty one has none. -/
inductive HasEntries (value : Value) : List (Value × Value) → Prop
  | empty (hvalue : value.opened = .null) : HasEntries value []
  | mapping {entries : List (Value × Value)} (hvalue : value.opened = .mapping entries) :
      HasEntries value entries

/-- The endings that are documented: valid settings, or an error of the settings by its cause. -/
inductive Documented (library : Library) (store : Store) :
    Option Path → Except LoadError SyncSettings → Prop
  | defaults (hvalid : ({} : SyncSettings).IsValid) : Documented library store none (.ok {})
  | loaded {path : Path} {entry : Entry} {value : Value} {entries : List (Value × Value)}
      {settings : SyncSettings} (hread : store.read path = .ok entry)
      (hvalue : library.load (.ofOctets entry.octets) = .ok value) (hentries : HasEntries value entries)
      (hsettings : library.check entries = .ok settings) (hvalid : settings.IsValid) :
      Documented library store (some path) (.ok settings)
  | unopened {path : Path} {obstacle : Obstacle} (hread : store.read path = .error obstacle) :
      Documented library store (some path)
        (.error (.settings (.unreadable path.toText (obstacle.message path.toText))))
  | unreadable {path : Path} {entry : Entry} {fault : Yaml.Fault} (hread : store.read path = .ok entry)
      (hfault : library.load (.ofOctets entry.octets) = .error fault) (hkind : fault.kind = .system) :
      Documented library store (some path) (.error (.settings (.unreadable path.toText fault.message)))
  | unparsable {path : Path} {entry : Entry} {fault : Yaml.Fault} (hread : store.read path = .ok entry)
      (hfault : library.load (.ofOctets entry.octets) = .error fault) (hkind : fault.kind = .format) :
      Documented library store (some path) (.error (.settings (.unparsable path.toText)))
  | notMapping {path : Path} {entry : Entry} {value : Value} (hread : store.read path = .ok entry)
      (hvalue : library.load (.ofOctets entry.octets) = .ok value)
      (hentries : ∀ entries, ¬ HasEntries value entries) :
      Documented library store (some path) (.error (.settings (.notMapping path.toText)))
  | invalid {path : Path} {entry : Entry} {value : Value} {entries : List (Value × Value)}
      {problems : List Problem} (hread : store.read path = .ok entry)
      (hvalue : library.load (.ofOctets entry.octets) = .ok value) (hentries : HasEntries value entries)
      (hsettings : library.check entries = .error problems) (hsome : problems ≠ []) :
      Documented library store (some path) (.error (.settings (.invalid "SyncConfig" problems)))

/-- What makes another error escape. -/
inductive Escapes (library : Library) (store : Store) (path : Path) : Prop
  | notPath (hnull : '\x00' ∈ path.toText.toList)
  | faulty {entry : Entry} {fault : Yaml.Fault} (hpath : '\x00' ∉ path.toText.toList)
      (hread : store.read path = .ok entry)
      (hfault : library.load (.ofOctets entry.octets) = .error fault)
      (hformat : fault.kind ≠ .format) (hsystem : fault.kind ≠ .system)

/-- The loader comes upon octets that are no text. -/
def BreaksOff (library : Library) (store : Store) (path : Path) : Prop :=
  ∃ entry error, store.read path = .ok entry ∧ (∀ text, encode text ≠ entry.octets) ∧
    library.load (.ofOctets entry.octets) = .error (.undecodable error)

section

variable {library : Library} {store : Store} {path : Path} {entry : Entry} {value : Value}
  {entries : List (Value × Value)} {fault : Yaml.Fault} {error : LoadError}

/-- An error that is none of the settings is no ending that is documented. -/
theorem not_documented {chosen : Option Path} (herror : ∀ other, error ≠ .settings other) :
    ¬ Documented library store chosen (.error error) := by
  intro hdocumented
  cases hdocumented <;> exact herror _ rfl

theorem escapes_iff_of_entry (hpath : '\x00' ∉ path.toText.toList) (hread : store.read path = .ok entry) :
    Escapes library store path ↔ ∃ fault, library.load (.ofOctets entry.octets) = .error fault ∧
      fault.kind ≠ .format ∧ fault.kind ≠ .system := by
  constructor
  · intro hescapes
    cases hescapes with
    | notPath hnull => exact absurd hnull hpath
    | faulty _ hother hfault hformat hsystem =>
      obtain rfl := Except.ok.inj (hread.symm.trans hother)
      exact ⟨_, hfault, hformat, hsystem⟩
  · rintro ⟨fault, hfault, hformat, hsystem⟩
    exact .faulty hpath hread hfault hformat hsystem

theorem loadFile_of_error (hvalue : loadValue library.load store path = .error error) :
    (loadFile library store path).1 = .error error := by
  have hproperties : loadProperties library.load store path = .error error := by
    rw [loadProperties, hvalue]
    rfl
  rw [loadFile, hproperties]

theorem loadFile_of_properties (hproperties : loadProperties library.load store path = .ok entries) :
    (loadFile library store path).1 =
      ((library.check entries).orInvalid "SyncConfig").mapError .settings := by
  rw [loadFile, hproperties]

/-- A document that is loaded has entries, or loading says that it has none. -/
theorem loadFile_of_value (hvalue : loadValue library.load store path = .ok value) :
    (∃ entries, HasEntries value entries ∧ (loadFile library store path).1 =
        ((library.check entries).orInvalid "SyncConfig").mapError .settings) ∨
      (∀ entries, ¬ HasEntries value entries) ∧
        (loadFile library store path).1 = .error (.settings (.notMapping path.toText)) := by
  cases hopened : value.opened with
  | null =>
    refine .inl ⟨[], .empty hopened, loadFile_of_properties ?_⟩
    simp only [loadProperties, hvalue, bind, Except.bind, hopened]
    rfl
  | mapping entries =>
    refine .inl ⟨entries, .mapping hopened, loadFile_of_properties ?_⟩
    simp only [loadProperties, hvalue, bind, Except.bind, hopened]
    rfl
  | _ =>
    have hproperties : loadProperties library.load store path =
        .error (.settings (.notMapping path.toText)) := by
      simp only [loadProperties, hvalue, bind, Except.bind, hopened]
      rfl
    rw [loadFile, hproperties]
    refine .inr ⟨fun entries hentries => ?_, rfl⟩
    cases hentries with
    | empty hnull => simp [hopened] at hnull
    | mapping hmapping => simp [hopened] at hmapping

/-- Whatever the entries of a document are, the check makes valid settings of them or finds problems. -/
theorem documented_of_entries (hcheck : library.ChecksSettings) (hread : store.read path = .ok entry)
    (hvalue : library.load (.ofOctets entry.octets) = .ok value) (hentries : HasEntries value entries) :
    Documented library store (some path)
      (((library.check entries).orInvalid "SyncConfig").mapError .settings) := by
  have hensures := hcheck entries
  cases hsettings : library.check entries with
  | ok settings =>
    rw [hsettings] at hensures
    exact .loaded hread hvalue hentries hsettings hensures
  | error problems =>
    rw [hsettings] at hensures
    exact .invalid hread hvalue hentries hsettings hensures.1

/-- A fault of a document makes an error of the settings exactly if it is one of the format or the
system. -/
theorem documented_of_fault (hread : store.read path = .ok entry)
    (hfault : library.load (.ofOctets entry.octets) = .error fault) :
    Documented library store (some path) (.error (.ofFault path.toText fault)) ↔
      fault.kind = .format ∨ fault.kind = .system := by
  by_cases hformat : fault.kind = .format
  · have herror : LoadError.ofFault path.toText fault = .settings (.unparsable path.toText) := by
      cases fault <;> simp_all [LoadError.ofFault, Yaml.Fault.kind]
    rw [herror]
    exact iff_of_true (.unparsable hread hfault hformat) (.inl hformat)
  by_cases hsystem : fault.kind = .system
  · have herror : LoadError.ofFault path.toText fault =
        .settings (.unreadable path.toText fault.message) := by
      cases fault <;> simp_all [LoadError.ofFault, Yaml.Fault.kind]
    rw [herror]
    exact iff_of_true (.unreadable hread hfault hsystem) (.inr hsystem)
  · refine iff_of_false (not_documented ?_) (by simp [hformat, hsystem])
    intro other
    unfold LoadError.ofFault
    split
    · nofun
    · split <;> simp_all

/-- Loading a file ends as documented unless something escapes. -/
theorem documented_loadFile_iff (hcheck : library.ChecksSettings) (store : Store) (path : Path) :
    Documented library store (some path) (loadFile library store path).1 ↔
      ¬ Escapes library store path := by
  by_cases hpath : '\x00' ∈ path.toText.toList
  · have hload : (loadFile library store path).1 = .error .notPath :=
      loadFile_of_error (by rw [loadValue, openText_of_null hpath])
    rw [hload, iff_not_comm]
    exact iff_of_true (.notPath hpath) (not_documented nofun)
  cases hread : store.read path with
  | error obstacle =>
    have hload : (loadFile library store path).1 =
        .error (.settings (.unreadable path.toText (obstacle.message path.toText))) :=
      loadFile_of_error (by rw [loadValue, openText_of_obstacle hpath hread])
    rw [hload]
    refine iff_of_true (.unopened hread) fun hescapes => ?_
    cases hescapes with
    | notPath hnull => exact hpath hnull
    | faulty _ hother => exact absurd (hread.symm.trans hother) nofun
  | ok entry =>
    have hopen := openText_of_entry hpath hread
    rw [escapes_iff_of_entry hpath hread]
    cases hvalue : library.load (.ofOctets entry.octets) with
    | ok value =>
      have hload : loadValue library.load store path = .ok value := by
        rw [loadValue, hopen]
        simp only [hvalue, Except.mapError]
      refine iff_of_true ?_ (by simp)
      rcases loadFile_of_value hload with ⟨entries, hentries, heq⟩ | ⟨hentries, heq⟩
      · rw [heq]
        exact documented_of_entries hcheck hread hvalue hentries
      · rw [heq]
        exact .notMapping hread hvalue hentries
    | error fault =>
      have hload : (loadFile library store path).1 = .error (.ofFault path.toText fault) := by
        refine loadFile_of_error ?_
        rw [loadValue, hopen]
        simp only [hvalue, Except.mapError]
      rw [hload, documented_of_fault hread hvalue]
      simp only [Except.error.injEq, exists_eq_left']
      tauto

/-- With a loader whose faults are foreseen, nothing else can escape than an error of the decoder. -/
theorem escapes_iff_of_loadsTexts (hload : library.LoadsTexts) :
    Escapes library store path ↔
      '\x00' ∈ path.toText.toList ∨ BreaksOff library store path := by
  constructor
  · intro hescapes
    cases hescapes with
    | notPath hnull => exact .inl hnull
    | @faulty entry _ _ hread hfault hformat hsystem =>
      rcases hload _ _ hfault with hkind | hkind | ⟨error, rfl, hbroken⟩
      · exact absurd hkind hformat
      · exact absurd hkind hsystem
      · refine .inr ⟨entry, error, hread, fun text htext => ?_, hfault⟩
        rw [error_ofOctets.mpr ⟨text, htext⟩] at hbroken
        exact absurd hbroken nofun
  · rintro (hnull | ⟨entry, error, hread, -, hfault⟩)
    · exact .notPath hnull
    · by_cases hpath : '\x00' ∈ path.toText.toList
      · exact .notPath hpath
      · exact .faulty hpath hread hfault nofun nofun

end

/-- Loading ends as documented, whatever is asked for, whatever the environment says and whatever is in the
file, except where the path that is chosen makes another error escape. With a loader whose faults are
foreseen, this is a path with a null character, or one of a file in which the loader comes upon octets that
are no text. -/
theorem load_documented_iff {library : Library} (hcheck : library.ChecksSettings) (store : Store)
    (environment : Environment) (asked : Option String) :
    let chosen := settingsPath? environment asked
    let answer := (loadWith library store environment asked).1
    (Documented library store chosen answer ↔ ∀ path ∈ chosen, ¬ Escapes library store path) ∧
      (library.LoadsTexts → (Documented library store chosen answer ↔
        ∀ path ∈ chosen, '\x00' ∉ path.toText.toList ∧ ¬ BreaksOff library store path)) := by
  intro chosen answer
  have hdocumented : Documented library store chosen answer ↔
      ∀ path ∈ chosen, ¬ Escapes library store path := by
    unfold chosen answer
    rw [loadWith]
    cases settingsPath? environment asked with
    | none => exact iff_of_true (.defaults .default) (by simp)
    | some path =>
      rw [documented_loadFile_iff hcheck store path]
      simp
  refine ⟨hdocumented, fun hload => ?_⟩
  simp only [hdocumented, escapes_iff_of_loadsTexts hload, not_or]

/-- The loader and the check of this program, with every other fault of the loader for one of the format. -/
def Library.strict : Library where
  load stream :=
    match stream.error with
    | some error => .error (.undecodable error)
    | none => (Yaml.load stream.text).mapError fun _ => .malformed
  check := Library.own.check

theorem Library.loadsTexts_strict : Library.strict.LoadsTexts := by
  intro stream fault hfault
  cases herror : stream.error with
  | some error =>
    simp only [strict, herror] at hfault
    exact .inr (.inr ⟨error, (Except.error.inj hfault).symm, rfl⟩)
  | none =>
    simp only [strict, herror] at hfault
    cases hvalue : Yaml.load stream.text with
    | ok value =>
      rw [hvalue] at hfault
      exact absurd hfault nofun
    | error other =>
      rw [hvalue] at hfault
      obtain rfl := Except.error.inj hfault
      exact .inl rfl

/-- Settings in a file of one octet that begins no character. -/
def undecodableStore : Store where
  files := [(["page-sync.yaml"], ⟨[0xFF], 0⟩)]

theorem openText_undecodable : undecodableStore.openText (.ofText "page-sync.yaml") =
    .ok { text := [], error := some ⟨0, 0xFF, 1, .invalidStart⟩ } := by
  decide +kernel

/-- Such a file ends loading with an error of the decoder. -/
theorem not_documented_undecodable :
    (load undecodableStore {} (some "page-sync.yaml")).1 =
        .error (.undecodable ⟨0, 0xFF, 1, .invalidStart⟩) ∧
      ¬ Documented .own undecodableStore (settingsPath? {} (some "page-sync.yaml"))
        (load undecodableStore {} (some "page-sync.yaml")).1 := by
  have hload : (load undecodableStore {} (some "page-sync.yaml")).1 =
      .error (.undecodable ⟨0, 0xFF, 1, .invalidStart⟩) :=
    loadFile_of_error (by rw [loadValue, openText_undecodable]; rfl)
  refine ⟨hload, ?_⟩
  rw [hload]
  exact not_documented nofun

/-- Settings in an empty file. -/
def emptyStore : Store where
  files := [(["page-sync.yaml"], ⟨[], 0⟩)]

/-- What `load_documented_iff` says of these two files. -/
theorem load_documented_iff_octets :
    Library.strict.ChecksSettings ∧ Library.strict.LoadsTexts ∧
      ¬ Documented .strict undecodableStore (settingsPath? {} (some "page-sync.yaml"))
        (loadWith .strict undecodableStore {} (some "page-sync.yaml")).1 ∧
      Documented .strict emptyStore (settingsPath? {} (some "page-sync.yaml"))
        (loadWith .strict emptyStore {} (some "page-sync.yaml")).1 := by
  have hcheck : Library.strict.ChecksSettings := Library.checksSettings_own
  have hload := Library.loadsTexts_strict
  have hbroken : BreaksOff .strict undecodableStore (.ofText "page-sync.yaml") := by
    refine ⟨⟨[0xFF], 0⟩, ⟨0, 0xFF, 1, .invalidStart⟩, by decide +kernel, ?_, ?_⟩
    · intro text
      rw [ne_eq, ← decode_eq_ok]
      cbv
      intro hdecoded
      cases hdecoded
    · cbv
  have hwhole : ¬ BreaksOff .strict emptyStore (.ofText "page-sync.yaml") := by
    rintro ⟨entry, error, hread, hoctets, -⟩
    have hentry : emptyStore.read (.ofText "page-sync.yaml") = .ok ⟨[], 0⟩ := by decide +kernel
    obtain rfl := Except.ok.inj (hentry.symm.trans hread)
    exact hoctets [] rfl
  refine ⟨hcheck, hload, ?_, ?_⟩
  · rw [(load_documented_iff hcheck undecodableStore {} (some "page-sync.yaml")).2 hload]
    intro hall
    exact (hall _ rfl).2 hbroken
  · rw [(load_documented_iff hcheck emptyStore {} (some "page-sync.yaml")).2 hload]
    intro path hpath
    obtain rfl : Path.ofText "page-sync.yaml" = path := Option.some.inj hpath
    exact ⟨by decide, hwhole⟩

end PageGraft.Settings
