import PageGraft.Proofs.LevelOverride

/-!
# Thresholds that settings give to loggers

Applying settings goes through the loggers that they name, and through the root last. Settings at one level
give this level to all of them: `loggersAt_of_apply` says so of every way in which settings are applied
without a problem, whether they describe everything or change thresholds only.

Two things carry the proof. The settings stay the same while they are applied (`UsesSettings`). And a logger
that has the level keeps it (`HasThreshold`): the only steps that change thresholds set the same level again,
or are about loggers that the settings do not name.
-/

namespace PageGraft.Log

open PageGraft.Data

/-! ## Looking loggers up -/

namespace Loggers

variable {loggers : Loggers} {name other : String} {logger : Logger}

theorem lookup_put {α : Type} {entries : List (String × α)} {value : α} :
    (put entries name value).lookup other = if other = name then some value else entries.lookup other := by
  induction entries with
  | nil => grind [put]
  | cons first entries ih => grind [put]

/-- Two names mean the same logger: they are equal, or both mean the root. -/
def SameLogger (name other : String) : Prop :=
  name = other ∨ isRoot name ∧ isRoot other

theorem get_set_of_same (hsame : SameLogger name other) : (loggers.set name logger).get other = logger := by
  by_cases hroot : isRoot name
  · have hother : isRoot other := by
      rcases hsame with rfl | ⟨-, hother⟩
      · exact hroot
      · exact hother
    rw [set, if_pos hroot, get, if_pos hother]
  · obtain rfl : name = other := hsame.resolve_right fun hroots => hroot hroots.1
    rw [set, if_neg hroot, get, if_neg hroot, lookup_put, if_pos rfl, Option.getD_some]

theorem get_set_of_not_same (hother : ¬ SameLogger name other) :
    (loggers.set name logger).get other = loggers.get other := by
  by_cases hroot : isRoot name
  · have hnot : ¬ isRoot other := fun hotherRoot => hother (.inr ⟨hroot, hotherRoot⟩)
    rw [set, if_pos hroot, get, get, if_neg hnot, if_neg hnot]
  · have hne : other ≠ name := fun heq => hother (.inl heq.symm)
    rw [set, if_neg hroot, get, get, lookup_put, if_neg hne]

theorem get_of_same (hsame : SameLogger name other) : loggers.get name = loggers.get other := by
  rcases hsame with rfl | ⟨hname, hother⟩
  · rfl
  · rw [get, get, if_pos hname, if_pos hother]

/-- Loggers that keep what they have under a name are looked up with it. -/
theorem get_map (change : String → Logger → Logger) (hchange : ∀ logger, change name logger = logger) :
    get { loggers with named := loggers.named.map fun entry => (entry.1, change entry.1 entry.2) } name =
      loggers.get name := by
  have hlookup : ∀ named : List (String × Logger),
      (named.map fun entry => (entry.1, change entry.1 entry.2)).lookup name = named.lookup name := by
    intro named
    induction named with
    | nil => rfl
    | cons first named ih => grind
  by_cases hroot : isRoot name
  · rw [get, get, if_pos hroot, if_pos hroot]
  · rw [get, get, if_neg hroot, if_neg hroot, hlookup]

end Loggers

/-! ## Reading settings -/

section

variable {scope : Scope} {entries : List (Value × Value)} {key word : String} {level : Level}

theorem read_mapping : scope.read (.mapping entries) = .ok (.value (.mapping entries)) := rfl

/-- A text that is no reference stands for itself. -/
theorem read_text (hscheme : scheme? word = none) :
    scope.read (.text word) = .ok (.value (.text word)) := by
  rw [Scope.read, Scope.depth, Scope.readWithin]
  simp only [Value.opened, hscheme]

theorem scheme?_of_level (hlevel : Level.ofName? word = some level) : scheme? word = none := by
  obtain ⟨front, behind, heq, -⟩ := List.lookup_eq_some_iff.mp hlevel
  have hmem : word ∈ ["CRITICAL", "FATAL", "ERROR", "WARNING", "WARN", "INFO", "DEBUG", "NOTSET"] := by
    have hword : (word, level) ∈ front ++ (word, level) :: behind := by simp
    rw [← heq] at hword
    exact List.mem_map_of_mem (f := Prod.fst) hword
  have hall : ∀ name ∈ ["CRITICAL", "FATAL", "ERROR", "WARNING", "WARN", "INFO", "DEBUG", "NOTSET"],
      scheme? name = none := by decide
  exact hall word hmem

theorem read?_of_get {value : Value} (hget : Value.get? entries key = some value) :
    scope.read? entries key = (scope.read value).map some := by
  rw [Scope.read?, hget]
  show (do return some (← scope.read value)) = _
  cases scope.read value <;> rfl

/-- A part that says a level. -/
def SaysLevel (word : String) (part : Value) : Prop :=
  ∃ entries, part = .mapping entries ∧ Value.get? entries "level" = some (.text word)

theorem SetsLevel.saysLevel {before after : Value} (hset : SetsLevel word before after) :
    SaysLevel word after := by
  obtain ⟨_, changed, -, rfl, hlevel, -⟩ := hset
  exact ⟨changed, rfl, hlevel⟩

/-- The level that a part says is read from it. -/
theorem get?_level {part : Part} (hpart : Value.get? part.entries "level" = some (.text word))
    (hlevel : Level.ofName? word = some level) :
    part.get? "level" = some (some (.value (.text word))) := by
  rw [Part.get?, read?_of_get hpart, read_text (scheme?_of_level hlevel)]
  rfl

end

namespace Configure

variable {configuration final : Configuration} {settings parts : List (Value × Value)} {key word : String}
  {name other : String} {level : Level} {P : Configuration → Prop} {problem : Problem} {part : Part}
  {supplies : Supplies} {occasion : Occasion}

/-! ## Work that only reads -/

theorem run_section? (key : String) (configuration : Configuration) :
    (section? key).run configuration =
      ((configuration.scope.read? configuration.scope.settings key).mapError .reference,
        configuration) := by
  have hget : (get : Configuring Configuration).run configuration = (.ok configuration, configuration) := rfl
  rw [section?, run_bind_of_ok hget]
  dsimp only
  cases configuration.scope.read? configuration.scope.settings key <;> rfl

theorem keeps_section? : Keeps P (section? key) := by
  refine keeps_of_ok fun state value final hrun hstate => ?_
  rw [run_section?] at hrun
  exact (Prod.mk.inj hrun).2 ▸ hstate

theorem keeps_flag {default : Bool} : Keeps P (flag key default) :=
  keeps_section?.bind fun _ => keeps_pure _

theorem keeps_namesIn : Keeps P (namesIn key) := by
  refine keeps_section?.bind fun found => ?_
  split
  · exact keeps_pure _
  · split
    · exact keeps_pure _
    · exact keeps_throw trivial

theorem keeps_require {α : Type} {found : Option α} : Keeps P (require problem found) := by
  cases found with
  | none => exact keeps_throw trivial
  | some value => exact keeps_pure value

theorem run_require_eq_ok {α : Type} {found : Option α} {value : α} :
    (require problem found).run configuration = (.ok value, final) ↔
      found = some value ∧ final = configuration := by
  cases found with
  | none => exact ⟨fun hrun => absurd (Prod.mk.inj hrun).1 (by nofun), fun hfound => absurd hfound.1 (by nofun)⟩
  | some other =>
    constructor
    · intro hrun
      obtain ⟨hvalue, hfinal⟩ := Prod.mk.inj hrun
      exact ⟨congrArg some (Except.ok.inj hvalue), hfinal.symm⟩
    · intro hfound
      obtain ⟨hvalue, rfl⟩ := hfound
      obtain rfl := Option.some.inj hvalue
      rfl

/-- The part of a name, as it is read in a scope. -/
def partIn (scope : Scope) (key : String) (name : Value) : Option Part := do
  let section_ ← (scope.read? scope.settings key).toOption
  let value ← lookup? (← (← section_).entries?) name
  Part.ofNamed? scope (← (scope.read value).toOption)

theorem run_part? (key : String) (name : Value) (configuration : Configuration) :
    (part? key name).run configuration = (.ok (partIn configuration.scope key name), configuration) :=
  rfl

theorem keeps_part? {name : Value} : Keeps P (part? key name) := by
  refine keeps_of_ok fun state value final hrun hstate => ?_
  rw [run_part?] at hrun
  exact (Prod.mk.inj hrun).2 ▸ hstate

/-! ## The settings in use -/

/-- Settings are applied from these. -/
def UsesSettings (settings : List (Value × Value)) (configuration : Configuration) : Prop :=
  configuration.scope.settings = settings

theorem keeps_readParts {α : Type} {read? : Part → Option α} {problem : String → Problem} :
    Keeps (UsesSettings settings) (readParts key read? problem) := by
  refine keeps_namesIn.bind fun names => keeps_mapM fun name _ => ?_
  refine keeps_part?.bind fun part => ?_
  split
  · exact keeps_throw trivial
  · refine KeepsUnless.bind (keeps_modify ?_) fun _ => keeps_pure _
    exact fun _ huses => huses

theorem keeps_addHandler {name : Value} {made : Made} : Keeps (UsesSettings settings) (addHandler name made) :=
  keeps_modifyGet fun _ huses => huses

theorem keeps_makeHandler {name : Value} :
    Keeps (UsesSettings settings) (makeHandler occasion supplies name) := by
  refine keeps_part?.bind fun part => ?_
  dsimp only
  split
  · exact keeps_addHandler.bind fun _ => keeps_pure _
  · exact keeps_pure _
  · exact keeps_throw trivial

theorem keeps_makeHandlers : Keeps (UsesSettings settings) (makeHandlers occasion supplies) := by
  refine keeps_namesIn.bind fun names => ?_
  refine (keeps_liftM fun _ _ => trivial).bind fun sorted => ?_
  refine KeepsUnless.bind (keeps_foldlM (fun _ _ _ => keeps_makeHandler.bind fun _ => keeps_pure _) _) fun made => ?_
  refine keeps_foldlM (fun _ _ _ => keeps_makeHandler.bind fun found => ?_) _
  split
  · exact keeps_pure _
  · exact keeps_throw trivial

theorem keeps_endAll : Keeps (UsesSettings settings) (endAll occasion) := by
  refine keeps_get_bind fun state huses => ?_
  exact KeepsUnless.bind (keeps_modifyGet fun _ _ => huses) fun _ => keeps_liftM fun _ _ => trivial

/-! ## Loggers at a level -/

/-- Settings are applied from these, and a logger has a level. -/
def HasThreshold (settings : List (Value × Value)) (name : String) (level : Level)
    (configuration : Configuration) : Prop :=
  UsesSettings settings configuration ∧ (configuration.loggers.get name).threshold = { level }

/-- Something that is true while settings are applied stays true where a logger changes, if a logger that has
the level keeps it. -/
structure StaysAt (settings : List (Value × Value)) (level : Level) (P : Configuration → Prop) : Prop where
  uses : ∀ configuration, P configuration → UsesSettings settings configuration
  change : ∀ name (change : Logger → Logger),
    (∀ logger, logger.threshold = { level } → (change logger).threshold = { level }) →
      Keeps P (changeLogger name change)

theorem run_changeLogger (name : String) (change : Logger → Logger) (configuration : Configuration) :
    (changeLogger name change).run configuration = (.ok (), { configuration with
      loggers := configuration.loggers.set name (change (configuration.loggers.get name)) }) := rfl

theorem staysAt_usesSettings : StaysAt settings level (UsesSettings settings) where
  uses := fun _ huses => huses
  change := fun _ _ _ => keeps_modify fun _ huses => huses

theorem staysAt_hasThreshold : StaysAt settings level (HasThreshold settings other level) where
  uses := fun _ hthreshold => hthreshold.1
  change := by
    intro name change hchange
    refine keeps_modify fun state hstate => ⟨hstate.1, ?_⟩
    show ((state.loggers.set name (change (state.loggers.get name))).get other).threshold = { level }
    by_cases hsame : Loggers.SameLogger name other
    · rw [Loggers.get_set_of_same hsame]
      apply hchange
      rw [Loggers.get_of_same hsame]
      exact hstate.2
    · rw [Loggers.get_set_of_not_same hsame]
      exact hstate.2

/-- A part at a level sets this level. -/
theorem applyLevel_eq (hpart : part.get? "level" = some (some (.value (.text word))))
    (hlevel : Level.ofName? word = some level) :
    applyLevel problem name part = changeLogger name fun logger => { logger with threshold := { level } } := by
  have hthreshold : (Named.value (.text word)).threshold? = some { level } := by
    rw [Named.threshold?, hlevel]
    rfl
  rw [applyLevel, hpart]
  show (do
    let threshold ← require problem (Named.value (.text word)).threshold?
    changeLogger name fun logger => { logger with threshold } : Configuring Unit) = _
  rw [hthreshold]
  rfl

/-- What a part gives a logger besides its threshold. -/
def equip (problem : Problem) (supplies : Supplies) (name : String) (part : Part) : Configuring Unit := do
  changeLogger name fun logger => { logger with handlers := [] }
  match ← require problem (part.getTrue? "handlers") with
  | none => pure ()
  | some named =>
    let names ← require problem (named.value?.bind elements?)
    names.forM fun handler => do attach name (← require problem (lookup? supplies.handlers handler))
  let added ← require problem (part.named? supplies.filters "filters")
  changeLogger name fun logger => { logger with filters := logger.filters ++ added }

theorem applyPart_eq :
    applyPart problem supplies name part =
      applyLevel problem name part >>= fun _ => equip problem supplies name part :=
  rfl

section

variable (hP : StaysAt settings level P)
include hP

theorem keeps_attach {place : Nat} : Keeps P (attach name place) := by
  refine hP.change name _ fun logger hlogger => ?_
  split
  · exact hlogger
  · exact hlogger

theorem keeps_equip : Keeps P (equip problem supplies name part) := by
  refine KeepsUnless.bind (hP.change name _ fun _ hlogger => hlogger) fun _ => ?_
  refine keeps_require.bind fun found => ?_
  have hadd : Keeps P (do
      let added ← require problem (part.named? supplies.filters "filters")
      changeLogger name fun logger => { logger with filters := logger.filters ++ added }) :=
    keeps_require.bind fun _ => hP.change name _ fun _ hlogger => hlogger
  split
  · exact hadd
  · refine keeps_require.bind fun names => ?_
    refine KeepsUnless.bind (keeps_forM fun _ _ => ?_) fun _ => hadd
    exact keeps_require.bind fun _ => keeps_attach hP

theorem keeps_applyState : Keeps P (applyState problem name part) := by
  refine KeepsUnless.bind (hP.change name _ fun _ hlogger => hlogger) fun _ => ?_
  refine keeps_require.bind fun found => ?_
  split
  · exact keeps_pure _
  · exact keeps_pure _
  · exact hP.change name _ fun _ hlogger => hlogger

theorem keeps_applyLevel (hpart : Value.get? part.entries "level" = some (.text word))
    (hlevel : Level.ofName? word = some level) : Keeps P (applyLevel problem name part) := by
  rw [applyLevel_eq (get?_level hpart hlevel) hlevel]
  exact hP.change name _ fun _ _ => rfl

theorem keeps_applyPart (hpart : Value.get? part.entries "level" = some (.text word))
    (hlevel : Level.ofName? word = some level) : Keeps P (applyPart problem supplies name part) := by
  rw [applyPart_eq]
  exact (keeps_applyLevel hP hpart hlevel).bind fun _ => keeps_equip hP

end

theorem hasThreshold_of_applyLevel (hpart : Value.get? part.entries "level" = some (.text word))
    (hlevel : Level.ofName? word = some level) (huses : UsesSettings settings configuration)
    (hrun : (applyLevel problem name part).run configuration = (.ok (), final)) :
    HasThreshold settings name level final := by
  rw [applyLevel_eq (get?_level hpart hlevel) hlevel, run_changeLogger] at hrun
  obtain rfl := (Prod.mk.inj hrun).2
  refine ⟨huses, ?_⟩
  rw [Loggers.get_set_of_same (.inl rfl)]

theorem hasThreshold_of_applyPart (hpart : Value.get? part.entries "level" = some (.text word))
    (hlevel : Level.ofName? word = some level) (huses : UsesSettings settings configuration)
    (hrun : (applyPart problem supplies name part).run configuration = (.ok (), final)) :
    HasThreshold settings name level final := by
  rw [applyPart_eq] at hrun
  obtain ⟨_, middle, hfirst, hrest⟩ := run_bind_eq_ok.mp hrun
  have hset := hasThreshold_of_applyLevel hpart hlevel huses hfirst
  exact (keeps_equip staysAt_hasThreshold).of_ok hrest hset

/-! ## Settings that say one level -/

/-- All loggers in the settings, and the root, say a level. -/
structure SaysLevels (word : String) (settings : List (Value × Value)) : Prop where
  loggers : ∀ section_, Value.get? settings "loggers" = some section_ →
    ∃ parts, section_ = .mapping parts ∧ ∀ entry ∈ parts, SaysLevel word entry.2
  root : ∀ root, Value.get? settings "root" = some root → SaysLevel word root

theorem get?_level_of_partIn {key : Value} (hlevels : SaysLevels word settings)
    (huses : UsesSettings settings configuration)
    (hpart : partIn configuration.scope "loggers" key = some part) :
    Value.get? part.entries "level" = some (.text word) := by
  rw [partIn, huses] at hpart
  cases hsection : Value.get? settings "loggers" with
  | none =>
    have hread : configuration.scope.read? settings "loggers" = .ok none := by
      rw [Scope.read?, hsection]
      rfl
    rw [hread] at hpart
    exact absurd hpart (by nofun)
  | some section_ =>
    obtain ⟨parts, rfl, hparts⟩ := hlevels.loggers section_ hsection
    have hread : configuration.scope.read? settings "loggers" = .ok (some (.value (.mapping parts))) := by
      rw [read?_of_get hsection, read_mapping]
      rfl
    rw [hread] at hpart
    replace hpart : ((lookup? parts key).bind fun value =>
        (configuration.scope.read value).toOption.bind (Part.ofNamed? configuration.scope)) = some part :=
      hpart
    obtain ⟨value, hlookup, hfound⟩ := Option.bind_eq_some_iff.mp hpart
    obtain ⟨entry, hfind, rfl⟩ := Option.map_eq_some_iff.mp hlookup
    obtain ⟨entries, hentries, hlevel⟩ := hparts entry (List.mem_of_find?_eq_some hfind)
    rw [hentries, read_mapping] at hfound
    obtain rfl := Option.some.inj hfound
    exact hlevel

/-! ## Each logger in turn -/

/-- Does something with the part of a logger that the settings name, and with its name. -/
def onLogger {α : Type} (key : Value) (work : String → Part → Configuring α) : Configuring α := do
  let part ← require (.logger key.quoted) (← part? "loggers" key)
  let name ← require (.logger key.quoted) (loggerName? key)
  work name part

theorem applyLogger_eq {key : Value} :
    applyLogger supplies key = onLogger key fun name part => do
      applyPart (.logger key.quoted) supplies name part
      applyState (.logger key.quoted) name part
      return name :=
  rfl

section

variable {α : Type} {key : Value} {work : String → Part → Configuring α} {value : α}

theorem exists_of_onLogger (hrun : (onLogger key work).run configuration = (.ok value, final)) :
    ∃ part name, partIn configuration.scope "loggers" key = some part ∧ loggerName? key = some name ∧
      (work name part).run configuration = (.ok value, final) := by
  obtain ⟨found, middle, hfound, hfirst⟩ := run_bind_eq_ok.mp hrun
  obtain ⟨hvalue, rfl⟩ := Prod.mk.inj hfound
  obtain rfl := Except.ok.inj hvalue
  obtain ⟨part, last, hrequire, hsecond⟩ := run_bind_eq_ok.mp hfirst
  obtain ⟨hpart, rfl⟩ := run_require_eq_ok.mp hrequire
  obtain ⟨name, last, hrequire, hthird⟩ := run_bind_eq_ok.mp hsecond
  obtain ⟨hname, rfl⟩ := run_require_eq_ok.mp hrequire
  exact ⟨part, name, hpart, hname, hthird⟩

/-- The part that is worked on says the level. -/
theorem keeps_onLogger (hlevels : SaysLevels word settings) (hP : StaysAt settings level P)
    (hwork : ∀ name part, Value.get? part.entries "level" = some (.text word) → Keeps P (work name part)) :
    Keeps P (onLogger key work) := by
  refine keeps_of_ok fun state value final hrun hstate => ?_
  obtain ⟨part, name, hpart, -, hthen⟩ := exists_of_onLogger hrun
  exact (hwork name part (get?_level_of_partIn hlevels (hP.uses state hstate) hpart)).of_ok hthen hstate

end

/-- Sets the threshold of a logger that the settings name. -/
def changeLevel (key : Value) : Configuring Unit :=
  onLogger key fun name part => do
    applyLevel (.logger key.quoted) name part
    applyState (.logger key.quoted) name part

/-- The logger of a key has the level. -/
def IsSet (settings : List (Value × Value)) (level : Level) (key : Value) (name : String)
    (configuration : Configuration) : Prop :=
  loggerName? key = some name ∧ HasThreshold settings name level configuration

section

variable {key : Value} (hlevels : SaysLevels word settings) (hlevel : Level.ofName? word = some level)
include hlevels hlevel

theorem keeps_applyLogger (hP : StaysAt settings level P) : Keeps P (applyLogger supplies key) := by
  rw [applyLogger_eq]
  refine keeps_onLogger hlevels hP fun name part hpart => ?_
  refine (keeps_applyPart hP hpart hlevel).bind fun _ => ?_
  exact (keeps_applyState hP).bind fun _ => keeps_pure _

theorem isSet_of_applyLogger (huses : UsesSettings settings configuration)
    (hrun : (applyLogger supplies key).run configuration = (.ok name, final)) :
    IsSet settings level key name final := by
  rw [applyLogger_eq] at hrun
  obtain ⟨part, found, hpart, hname, hthen⟩ := exists_of_onLogger hrun
  obtain ⟨_, middle, hfirst, hrest⟩ := run_bind_eq_ok.mp hthen
  obtain ⟨_, last, hsecond, hreturn⟩ := run_bind_eq_ok.mp hrest
  obtain ⟨hvalue, rfl⟩ := Prod.mk.inj hreturn
  obtain rfl := Except.ok.inj hvalue
  have hset := hasThreshold_of_applyPart (get?_level_of_partIn hlevels huses hpart) hlevel huses hfirst
  exact ⟨hname, (keeps_applyState staysAt_hasThreshold).of_ok hsecond hset⟩

theorem keeps_changeLevel (hP : StaysAt settings level P) : Keeps P (changeLevel key) := by
  refine keeps_onLogger hlevels hP fun name part hpart => ?_
  exact (keeps_applyLevel hP hpart hlevel).bind fun _ => keeps_applyState hP

theorem isSet_of_changeLevel (huses : UsesSettings settings configuration)
    (hrun : (changeLevel key).run configuration = (.ok (), final)) :
    ∃ name, IsSet settings level key name final := by
  obtain ⟨part, name, hpart, hname, hthen⟩ := exists_of_onLogger hrun
  obtain ⟨_, middle, hfirst, hrest⟩ := run_bind_eq_ok.mp hthen
  have hset := hasThreshold_of_applyLevel (get?_level_of_partIn hlevels huses hpart) hlevel huses hfirst
  exact ⟨name, hname, (keeps_applyState staysAt_hasThreshold).of_ok hrest hset⟩

end

/-! ## All loggers that the settings name -/

theorem eq_of_namesIn {names : List Value} (huses : UsesSettings settings configuration)
    (hsection : Value.get? settings key = some (.mapping parts))
    (hrun : (namesIn key).run configuration = (.ok names, final)) : names = parts.map Prod.fst := by
  obtain ⟨found, middle, hfirst, hrest⟩ := run_bind_eq_ok.mp hrun
  rw [run_section?, huses, read?_of_get hsection, read_mapping] at hfirst
  obtain rfl := Except.ok.inj (Prod.mk.inj hfirst).1
  exact (Except.ok.inj (Prod.mk.inj hrest).1).symm

/-- All loggers that the settings name have the level, and their names are among some. -/
def AllSet (settings : List (Value × Value)) (level : Level) (names : List String)
    (configuration : Configuration) : Prop :=
  UsesSettings settings configuration ∧
    ∀ parts, Value.get? settings "loggers" = some (.mapping parts) → ∀ entry ∈ parts,
      ∃ name ∈ names, IsSet settings level entry.1 name configuration

theorem keeps_allSet {α : Type} {names : List String} {work : Configuring α}
    (huses : Keeps (UsesSettings settings) work)
    (hwork : ∀ name ∈ names, Keeps (HasThreshold settings name level) work) :
    Keeps (AllSet settings level names) work := by
  refine keeps_of_ok fun state value final hrun hstate => ?_
  refine ⟨huses.of_ok hrun hstate.1, fun parts hparts entry hentry => ?_⟩
  obtain ⟨name, hmem, hname, hset⟩ := hstate.2 parts hparts entry hentry
  exact ⟨name, hmem, hname, (hwork name hmem).of_ok hrun hset⟩

theorem staysAt_allSet {names : List String} : StaysAt settings level (AllSet settings level names) where
  uses := fun _ hset => hset.1
  change := fun name change hchange => keeps_allSet (staysAt_usesSettings.change name change hchange)
    fun _ _ => staysAt_hasThreshold.change name change hchange

/-- The loggers that the settings name are named once all of them are applied. -/
theorem allSet_of_mapM {keys : List Value} {names : List String} (hlevels : SaysLevels word settings)
    (hlevel : Level.ofName? word = some level) (huses : UsesSettings settings configuration)
    (hkeys : ∀ parts, Value.get? settings "loggers" = some (.mapping parts) → keys = parts.map Prod.fst)
    (hrun : (keys.mapM (applyLogger supplies)).run configuration = (.ok names, final)) :
    AllSet settings level names final := by
  have hset : List.Forall₂ (fun key name => IsSet settings level key name final) keys names :=
    forall₂_of_mapM (fun _ => keeps_applyLogger hlevels hlevel staysAt_usesSettings)
      (fun _ _ _ _ huses hrun => isSet_of_applyLogger hlevels hlevel huses hrun)
      (fun key name other => keeps_of_ok fun state _ last hrun hset =>
        ⟨hset.1, (keeps_applyLogger hlevels hlevel staysAt_hasThreshold).of_ok hrun hset.2⟩) huses hrun
  have hfinal : Keeps (UsesSettings settings) (keys.mapM (applyLogger supplies)) :=
    keeps_mapM fun _ _ => keeps_applyLogger hlevels hlevel staysAt_usesSettings
  refine ⟨hfinal.of_ok hrun huses, fun parts hparts entry hentry => ?_⟩
  apply exists_mem_of_forall₂ hset
  rw [hkeys parts hparts]
  exact List.mem_map_of_mem hentry

/-! ## The root -/

/-- Does something with the part of the root, if there is one. -/
def onRoot (work : Part → Configuring Unit) : Configuring Unit := do
  match ← rootPart? with
  | none => return ()
  | some part => work part

section

variable {work : Part → Configuring Unit} {root : Value}

theorem run_trueSection? (key : String) (configuration : Configuration) :
    (trueSection? key).run configuration =
      (((configuration.scope.read? configuration.scope.settings key).mapError .reference).map
        (Option.filter (·.isTrue)), configuration) := by
  show (section? key >>= fun found => pure (found.filter (·.isTrue)) : Configuring (Option Named)).run
    configuration = _
  have hrun := run_section? key configuration
  cases hread : configuration.scope.read? configuration.scope.settings key with
  | error fault =>
    rw [hread] at hrun
    rw [run_bind_of_error hrun]
    rfl
  | ok found =>
    rw [hread] at hrun
    rw [run_bind_of_ok hrun]
    rfl

theorem run_rootPart?_of_none (huses : UsesSettings settings configuration)
    (hroot : Value.get? settings "root" = none) :
    rootPart?.run configuration = (.ok none, configuration) := by
  have hread : configuration.scope.read? settings "root" = .ok none := by
    rw [Scope.read?, hroot]
    rfl
  have hsection := run_trueSection? "root" configuration
  rw [huses, hread] at hsection
  rw [rootPart?, run_bind_of_ok hsection]
  rfl

theorem run_rootPart?_of_some {entries : List (Value × Value)} (huses : UsesSettings settings configuration)
    (hroot : Value.get? settings "root" = some (.mapping entries)) (hentries : entries ≠ []) :
    rootPart?.run configuration = (.ok (some ⟨configuration.scope, entries⟩), configuration) := by
  have hsection := run_trueSection? "root" configuration
  have htrue : (Named.value (.mapping entries)).isTrue := by
    simpa [Named.isTrue, Value.isTrue] using hentries
  rw [huses, read?_of_get hroot, read_mapping] at hsection
  replace hsection : (trueSection? "root").run configuration =
      (.ok (some (.value (.mapping entries))), configuration) := by
    rw [hsection]
    show (Except.ok (Option.filter (·.isTrue) (some (Named.value (.mapping entries)))), configuration) = _
    rw [Option.filter_some, if_pos htrue]
  rw [rootPart?, run_bind_of_ok hsection]
  rfl

/-- There is no root in the settings, or work is done on its part, which says the level. -/
theorem onRoot_cases (hlevels : SaysLevels word settings) (huses : UsesSettings settings configuration)
    (hrun : (onRoot work).run configuration = (.ok (), final)) :
    Value.get? settings "root" = none ∧ final = configuration ∨
      ∃ part : Part, Value.get? part.entries "level" = some (.text word) ∧
        (work part).run configuration = (.ok (), final) := by
  cases hroot : Value.get? settings "root" with
  | none =>
    rw [onRoot, run_bind_of_ok (run_rootPart?_of_none huses hroot)] at hrun
    exact .inl ⟨rfl, (Prod.mk.inj hrun).2.symm⟩
  | some root =>
    obtain ⟨entries, rfl, hlevel⟩ := hlevels.root root hroot
    have hentries : entries ≠ [] := by
      intro hnil
      rw [hnil] at hlevel
      exact absurd hlevel (by nofun)
    rw [onRoot, run_bind_of_ok (run_rootPart?_of_some huses hroot hentries)] at hrun
    exact .inr ⟨⟨configuration.scope, entries⟩, hlevel, hrun⟩

theorem keeps_onRoot (hlevels : SaysLevels word settings) (hP : StaysAt settings level P)
    (hwork : ∀ part : Part, Value.get? part.entries "level" = some (.text word) → Keeps P (work part)) :
    Keeps P (onRoot work) := by
  refine keeps_of_ok fun state value final hrun hstate => ?_
  rcases onRoot_cases hlevels (hP.uses state hstate) hrun with ⟨-, rfl⟩ | ⟨part, hpart, hdone⟩
  · exact hstate
  · exact (hwork part hpart).of_ok hdone hstate

end

/-- The root has the level if it is in the settings. -/
def RootSet (settings : List (Value × Value)) (level : Level) (configuration : Configuration) : Prop :=
  (Value.get? settings "root").isSome → HasThreshold settings "" level configuration

/-- Everything that the settings name has the level. -/
def LevelsSet (settings : List (Value × Value)) (level : Level) (configuration : Configuration) : Prop :=
  ∃ names, AllSet settings level names configuration ∧ RootSet settings level configuration

/-- The root is set last, which keeps the level of all others. -/
theorem levelsSet_of_onRoot {names : List String} {work : Part → Configuring Unit}
    (hlevels : SaysLevels word settings) (hset : AllSet settings level names configuration)
    (hkeeps : ∀ part : Part, Value.get? part.entries "level" = some (.text word) →
      Keeps (AllSet settings level names) (work part))
    (hwork : ∀ (part : Part) final, Value.get? part.entries "level" = some (.text word) →
      (work part).run configuration = (.ok (), final) → HasThreshold settings "" level final)
    (hrun : (onRoot work).run configuration = (.ok (), final)) : LevelsSet settings level final := by
  refine ⟨names, (keeps_onRoot hlevels staysAt_allSet hkeeps).of_ok hrun hset, ?_⟩
  intro hroot
  rcases onRoot_cases hlevels hset.1 hrun with ⟨hnone, -⟩ | ⟨part, hpart, hdone⟩
  · rw [hnone] at hroot
    exact absurd hroot (by decide)
  · exact hwork part final hpart hdone

/-! ## Settings that describe everything -/

/-- The loggers that were there already are settled, as far as they are not named. -/
def settleAll (existing named : List String) (disable : Bool) (configuration : Configuration) :
    Configuration :=
  { configuration with
    loggers.named := configuration.loggers.named.map fun (name, logger) =>
      (name, if existing.contains name then settle named disable name logger else logger) }

theorem keeps_settleAll {existing names : List String} {disable : Bool} :
    Keeps (AllSet settings level names) (modify (settleAll existing names disable) : Configuring PUnit) := by
  refine keeps_allSet (keeps_modify fun _ huses => huses) fun name hname => ?_
  refine keeps_modify fun state hstate => ⟨hstate.1, ?_⟩
  have hget : (settleAll existing names disable state).loggers.get name = state.loggers.get name := by
    refine Loggers.get_map (fun name logger =>
      if existing.contains name then settle names disable name logger else logger) fun logger => ?_
    rw [settle, if_pos (List.contains_iff_mem.mpr hname), ite_self]
  rw [hget]
  exact hstate.2

/-- Gives all loggers their parts, the root last. -/
def applyLoggers (supplies : Supplies) (disable : Bool) : Configuring Unit := do
  let existing := (← get).loggers.named.map (·.1)
  let named ← (← namesIn "loggers").mapM (applyLogger supplies)
  modify (settleAll existing named disable)
  onRoot (applyPart .root supplies "")

theorem applyWhole_eq (occasion : Occasion) : applyWhole occasion = (do
    let disable ← flag "disable_existing_loggers" true
    endAll occasion
    let layouts ← readParts "formatters" Part.layout? .formatter
    let filters ← readParts "filters" Part.filter? .filter
    let supplies ← makeHandlers occasion { layouts, filters }
    applyLoggers supplies disable) :=
  rfl

section

variable (hlevels : SaysLevels word settings) (hlevel : Level.ofName? word = some level)
  (huses : UsesSettings settings configuration)
include hlevels hlevel huses

theorem levelsSet_of_applyLoggers {disable : Bool}
    (hrun : (applyLoggers supplies disable).run configuration = (.ok (), final)) :
    LevelsSet settings level final := by
  obtain ⟨start, middle, hget, hrest⟩ := run_bind_eq_ok.mp hrun
  obtain ⟨-, rfl⟩ := Prod.mk.inj hget
  obtain ⟨keys, middle, hkeys, hrest⟩ := run_bind_eq_ok.mp hrest
  obtain ⟨names, named, hnames, hrest⟩ := run_bind_eq_ok.mp hrest
  obtain ⟨_, settled, hsettle, hroot⟩ := run_bind_eq_ok.mp hrest
  have hset := allSet_of_mapM hlevels hlevel (keeps_namesIn.of_ok hkeys huses)
    (fun parts hparts => eq_of_namesIn huses hparts hkeys) hnames
  have hsettled := keeps_settleAll.of_ok hsettle hset
  refine levelsSet_of_onRoot hlevels hsettled (fun part hpart => ?_) (fun part final hpart hdone => ?_) hroot
  · exact keeps_applyPart staysAt_allSet hpart hlevel
  · exact hasThreshold_of_applyPart hpart hlevel hsettled.1 hdone

theorem levelsSet_of_applyWhole (hrun : (applyWhole occasion).run configuration = (.ok (), final)) :
    LevelsSet settings level final := by
  rw [applyWhole_eq] at hrun
  obtain ⟨disable, flagged, hflag, hrun⟩ := run_bind_eq_ok.mp hrun
  obtain ⟨_, ended, hended, hrun⟩ := run_bind_eq_ok.mp hrun
  obtain ⟨layouts, read, hlayouts, hrun⟩ := run_bind_eq_ok.mp hrun
  obtain ⟨filters, filtered, hfilters, hrun⟩ := run_bind_eq_ok.mp hrun
  obtain ⟨supplies, made, hmade, hrun⟩ := run_bind_eq_ok.mp hrun
  refine levelsSet_of_applyLoggers hlevels hlevel ?_ hrun
  have hread := keeps_readParts.of_ok hlayouts (keeps_endAll.of_ok hended (keeps_flag.of_ok hflag huses))
  exact keeps_makeHandlers.of_ok hmade (keeps_readParts.of_ok hfilters hread)

end

/-! ## Settings that change thresholds only -/

theorem keeps_changeHandler {name : Value} : Keeps (UsesSettings settings) (changeHandler name) := by
  refine KeepsUnless.bind (keeps_modifyGet fun _ huses => huses) fun state => ?_
  refine keeps_require.bind fun place => ?_
  refine keeps_part?.bind fun found => ?_
  refine keeps_require.bind fun part => ?_
  refine keeps_require.bind fun named => ?_
  split
  · exact keeps_pure _
  · exact keeps_require.bind fun threshold => keeps_modify fun _ huses => huses

theorem applyChange_eq : applyChange = (do
    (← namesIn "handlers").forM changeHandler
    (← namesIn "loggers").forM changeLevel
    onRoot (applyLevel .root "")) :=
  rfl

section

variable (hlevels : SaysLevels word settings) (hlevel : Level.ofName? word = some level)
  (huses : UsesSettings settings configuration)
include hlevels hlevel huses

/-- The loggers that the settings name are set once the levels of all of them are changed. -/
theorem allSet_of_forM {keys : List Value}
    (hkeys : ∀ parts, Value.get? settings "loggers" = some (.mapping parts) → keys = parts.map Prod.fst)
    (hrun : (keys.forM changeLevel).run configuration = (.ok (), final)) :
    AllSet settings level (keys.filterMap loggerName?) final := by
  have hset : ∀ key ∈ keys, ∃ name, IsSet settings level key name final :=
    forall_of_forM (fun _ => keeps_changeLevel hlevels hlevel staysAt_usesSettings)
      (fun _ _ _ huses hrun => isSet_of_changeLevel hlevels hlevel huses hrun)
      (fun key other => keeps_of_ok fun state _ last hrun hset => by
        obtain ⟨name, hname, hthreshold⟩ := hset
        exact ⟨name, hname, (keeps_changeLevel hlevels hlevel staysAt_hasThreshold).of_ok hrun hthreshold⟩)
      huses hrun
  have hfinal : Keeps (UsesSettings settings) (keys.forM changeLevel) :=
    keeps_forM fun _ _ => keeps_changeLevel hlevels hlevel staysAt_usesSettings
  refine ⟨hfinal.of_ok hrun huses, fun parts hparts entry hentry => ?_⟩
  have hkey : entry.1 ∈ keys := by
    rw [hkeys parts hparts]
    exact List.mem_map_of_mem hentry
  obtain ⟨name, hname, hthreshold⟩ := hset entry.1 hkey
  exact ⟨name, List.mem_filterMap.mpr ⟨entry.1, hkey, hname⟩, hname, hthreshold⟩

theorem levelsSet_of_applyChange (hrun : applyChange.run configuration = (.ok (), final)) :
    LevelsSet settings level final := by
  rw [applyChange_eq] at hrun
  obtain ⟨handlers, named, hhandlers, hrun⟩ := run_bind_eq_ok.mp hrun
  obtain ⟨_, changed, hchanged, hrun⟩ := run_bind_eq_ok.mp hrun
  obtain ⟨keys, middle, hkeys, hrun⟩ := run_bind_eq_ok.mp hrun
  obtain ⟨_, leveled, hleveled, hroot⟩ := run_bind_eq_ok.mp hrun
  have hnamed := keeps_namesIn.of_ok hhandlers huses
  have hstart : UsesSettings settings changed :=
    (keeps_forM fun _ _ => keeps_changeHandler).of_ok hchanged hnamed
  have hset := allSet_of_forM hlevels hlevel (keeps_namesIn.of_ok hkeys hstart)
    (fun parts hparts => eq_of_namesIn hstart hparts hkeys) hleveled
  refine levelsSet_of_onRoot hlevels hset (fun part hpart => ?_) (fun part final hpart hdone => ?_) hroot
  · exact keeps_applyLevel staysAt_allSet hpart hlevel
  · exact hasThreshold_of_applyLevel hpart hlevel hset.1 hdone

/-- Settings that are applied without a problem set all the levels that they say. -/
theorem levelsSet_of_apply (hrun : (apply occasion).run configuration = (.ok (), final)) :
    LevelsSet settings level final := by
  obtain ⟨found, first, hfound, hrun⟩ := run_bind_eq_ok.mp hrun
  obtain ⟨version, second, hversion, hrun⟩ := run_bind_eq_ok.mp hrun
  have hstart := keeps_require.of_ok hversion (keeps_section?.of_ok hfound huses)
  split at hrun
  · obtain ⟨_, _, hthrow, -⟩ := run_bind_eq_ok.mp hrun
    exact absurd (Prod.mk.inj hthrow).1 (by nofun)
  · obtain ⟨incremental, middle, hflag, hrun⟩ := run_bind_eq_ok.mp hrun
    have hmiddle := keeps_flag.of_ok hflag hstart
    split at hrun
    · exact levelsSet_of_applyChange hlevels hlevel hmiddle hrun
    · exact levelsSet_of_applyWhole hlevels hlevel hmiddle hrun

end

end Configure

/-! ## Loggers at the level that was asked for -/

/-- All loggers that settings name, and the root if they have one, are at a level. -/
structure LoggersAt (level : Level) (entries : List (Value × Value)) (loggers : Loggers) : Prop where
  named : ∀ value parts, Value.get? entries "loggers" = some value → value.opened = .mapping parts →
    ∀ entry ∈ parts, ∃ name, Configure.loggerName? entry.1 = some name ∧
      (loggers.get name).threshold = { level }
  root : (Value.get? entries "root").isSome → loggers.root.threshold = { level }

section

variable {word : String} {level : Level} {entries settings : List (Value × Value)}

theorem AtLevel.saysLevels (hat : AtLevel word level entries settings) :
    Configure.SaysLevels word settings := by
  constructor
  · intro section_ hsection
    have hloggers := hat.loggers
    rw [hsection] at hloggers
    obtain ⟨_, parts, changed, -, -, rfl, hparts⟩ := hloggers.exists_of_after
    refine ⟨changed, rfl, fun after hafter => ?_⟩
    obtain ⟨before, -, -, hset⟩ := exists_mem_of_forall₂ hparts.flip hafter
    exact hset.saysLevel
  · intro root hroot
    obtain ⟨_, -, hset⟩ := hat.exists_root_before hroot
    exact hset.saysLevel

/-- Settings at a level that are applied without a problem leave all their loggers at this level. -/
theorem loggersAt_of_apply {occasion : Occasion} {loggers : Loggers} {final : Configuration}
    (hlevel : Level.ofName? word = some level) (hat : AtLevel word level entries settings)
    (hrun : (Configure.apply occasion).run { scope := { settings }, loggers } = (.ok (), final)) :
    LoggersAt level entries final.loggers := by
  have huses : Configure.UsesSettings settings { scope := { settings }, loggers } := rfl
  obtain ⟨names, hset, hroot⟩ := Configure.levelsSet_of_apply hat.saysLevels hlevel huses hrun
  constructor
  · intro value parts hsection hopened entry hentry
    have hloggers := hat.loggers
    rw [hsection] at hloggers
    obtain ⟨changed, hchanged, hparts⟩ := hloggers.exists_of_before hopened
    obtain ⟨found, hfound, hkey, -⟩ := exists_mem_of_forall₂ hparts hentry
    obtain ⟨name, -, hname, -, hthreshold⟩ := hset.2 changed hchanged found hfound
    exact ⟨name, hkey ▸ hname, hthreshold⟩
  · intro hsome
    refine (hroot ?_).2
    obtain ⟨root, hbefore⟩ := Option.isSome_iff_exists.mp hsome
    obtain ⟨after, hafter, -⟩ := hat.exists_root_after hbefore
    rw [hafter]
    rfl

end

end PageGraft.Log
