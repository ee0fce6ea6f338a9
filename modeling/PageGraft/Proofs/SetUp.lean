import PageGraft.Proofs.Handing
import PageGraft.Proofs.Thresholds

/-!
# How setting up the log ends

Set-up applies the settings of the file, at the level that is asked for, or falls back to basic settings
(`Settles`). Both are said of the loggers that there are in the end: the first ones are those that applying
the settings leaves, at the level that counts, and the second ones all write to the standard error output in
the fixed layout.

A problem that is not foreseen ends set-up in neither way. `setUp_settles_iff` says for every loader that this
happens exactly in the cases of `Escapes`; those that the file and the level make are in `Unread`.
-/

namespace PageGraft.Log

open PageGraft.Data PageGraft.File PageGraft.Text

variable {loggers : Loggers} {state final : Loggers × List Output} {level : Level} {time : Moment}
  {problem : Problem} {word : String} {fault : WriteFault}

/-! ## Falling back -/

/-- All loggers write what has some level to the standard error output, in the fixed layout. -/
structure IsBasic (level : Level) (loggers : Loggers) : Prop where
  threshold : loggers.root.threshold = { level }
  handler : ∃ place, loggers.root.handlers = [place] ∧ loggers.handlers[place]? = some { layout := plainLayout }

theorem LoggersFrom.isBasic (hfrom : LoggersFrom loggers state) (hbasic : IsBasic level loggers) :
    IsBasic level state.1 := by
  obtain ⟨place, hplace, hhandler⟩ := hbasic.handler
  obtain ⟨after, hafter, hfollows⟩ := hfrom.handlers.exists_after hhandler
  refine ⟨by rw [hfrom.root, hbasic.threshold], place, by rw [hfrom.root, hplace], ?_⟩
  rw [← hfollows.eq_of_none rfl]
  exact hafter

theorem loggersFrom_self (state : Loggers × List Output) : LoggersFrom state.1 state :=
  ⟨rfl, rfl, handlersFrom_self _ _⟩

/-- The loggers with basic settings in place of those of the root, some of whose handlers have ended. -/
def basic (level : Level) (ended : List Nat) (loggers : Loggers) : Loggers :=
  { loggers with
    root := { loggers.root with threshold := { level }, handlers := [loggers.handlers.length] }
    handlers := loggers.handlers ++ [{ layout := plainLayout }]
    known := loggers.known.filter fun (_, place) => !ended.contains place }

theorem isBasic_basic (level : Level) (ended : List Nat) (loggers : Loggers) :
    IsBasic level (basic level ended loggers) := by
  refine ⟨rfl, loggers.handlers.length, rfl, ?_⟩
  exact List.getElem?_concat_length

/-- The handler of basic settings does not refuse records. -/
theorem refused_of_basic {ended : List Nat} (hrefused : Refused (basic level ended loggers).handlers fault) :
    Refused loggers.handlers fault := by
  obtain ⟨handler, hmem, hrefuses⟩ := hrefused
  rcases List.mem_append.mp hmem with hmem | hmem
  · exact ⟨handler, hmem, hrefuses⟩
  · obtain rfl := List.mem_singleton.mp hmem
    cases hrefuses with
    | writesNothing hkind => exact absurd hkind (by decide)
    | unordered hbacklog => exact absurd hbacklog (by nofun)

/-- Ending the handlers of the root is all that can fail. -/
theorem run_fallBack (level : Level) (time : Moment) (state : Loggers × List Output) :
    (fallBack level time).run state =
      match (Logging.onHandlers (endHandlers time state.1.root.handlers)).run state with
      | (.ok (), middle) => (.ok (), basic level state.1.root.handlers middle.1, middle.2)
      | (.error fault, middle) => (.error fault, middle) := by
  show ((Logging.onHandlers (endHandlers time state.1.root.handlers) >>= fun _ =>
    modify fun middle => (basic level state.1.root.handlers middle.1, middle.2)) :
      Logging Unit).run state = _
  cases hend : (Logging.onHandlers (endHandlers time state.1.root.handlers)).run state with
  | mk result middle =>
    cases result with
    | ok => rw [run_bind_of_ok hend]; rfl
    | error fault => rw [run_bind_of_error hend]

theorem keeps_endHandlers_root (time : Moment) (state : Loggers × List Output) :
    KeepsUnless (Refused state.1.handlers) (LoggersFrom state.1)
      (Logging.onHandlers (endHandlers time state.1.root.handlers)) :=
  Logging.keeps_onHandlers keeps_endHandlers

theorem exists_of_fallBack (hrun : (fallBack level time).run state = (.ok (), final)) :
    ∃ ended middle, LoggersFrom state.1 middle ∧ final = (basic level ended middle.1, middle.2) := by
  rw [run_fallBack] at hrun
  cases hend : (Logging.onHandlers (endHandlers time state.1.root.handlers)).run state with
  | mk result middle =>
    rw [hend] at hrun
    cases result with
    | ok =>
      have hmiddle := (keeps_endHandlers_root time state).of_ok hend (loggersFrom_self state)
      exact ⟨_, middle, hmiddle, (Prod.mk.inj hrun).2.symm⟩
    | error fault => exact absurd (Prod.mk.inj hrun).1 (by nofun)

theorem refused_of_fallBack (hrun : (fallBack level time).run state = (.error fault, final)) :
    Refused state.1.handlers fault := by
  rw [run_fallBack] at hrun
  cases hend : (Logging.onHandlers (endHandlers time state.1.root.handlers)).run state with
  | mk result middle =>
    rw [hend] at hrun
    cases result with
    | ok => exact absurd (Prod.mk.inj hrun).1 (by nofun)
    | error other =>
      obtain rfl := Except.error.inj (Prod.mk.inj hrun).1
      exact (keeps_endHandlers_root time state).of_error hend (loggersFrom_self state)

/-- Falls back because of a problem, and tells of it. The level is given by its word; one that is none counts
as information. -/
def recover (time : Moment) (problem : Problem) (word : String) : Logging Unit := do
  fallBack ((Level.ofWord? word).getD Level.info) time
  Logging.write time (problemRecord problem word)

theorem isBasic_of_recover (hrun : (recover time problem word).run state = (.ok (), final)) :
    IsBasic ((Level.ofWord? word).getD Level.info) final.1 := by
  obtain ⟨_, fallen, hfall, hwrite⟩ := run_bind_eq_ok.mp hrun
  obtain ⟨ended, middle, -, rfl⟩ := exists_of_fallBack hfall
  have hfinal := (Logging.keeps_write _).of_ok hwrite (loggersFrom_self _)
  exact hfinal.isBasic (isBasic_basic _ ended middle.1)

/-- Falling back fails only where a handler refuses records. -/
theorem refused_of_recover (hrun : (recover time problem word).run state = (.error fault, final)) :
    Refused state.1.handlers fault := by
  cases hfall : (fallBack ((Level.ofWord? word).getD Level.info) time).run state with
  | mk result fallen =>
    cases result with
    | error other =>
      rw [recover, run_bind_of_error hfall] at hrun
      obtain rfl := Except.error.inj (Prod.mk.inj hrun).1
      exact refused_of_fallBack hfall
    | ok =>
      rw [recover, run_bind_of_ok hfall] at hrun
      obtain ⟨ended, middle, hfrom, rfl⟩ := exists_of_fallBack hfall
      have hrefused := (Logging.keeps_write _).of_error hrun (loggersFrom_self _)
      exact hfrom.handlers.refused (refused_of_basic hrefused)

/-- Loggers that stay as they are stay at a level. -/
theorem LoggersFrom.loggersAt {entries : List (Value × Value)} (hfrom : LoggersFrom loggers state)
    (hat : LoggersAt level entries loggers) : LoggersAt level entries state.1 := by
  have hget : ∀ name, state.1.get name = loggers.get name := by
    intro name
    rw [Loggers.get, Loggers.get, hfrom.root, hfrom.named]
  constructor
  · intro value parts hsection hopened entry hentry
    obtain ⟨name, hname, hthreshold⟩ := hat.named value parts hsection hopened entry hentry
    exact ⟨name, hname, by rw [hget, hthreshold]⟩
  · intro hroot
    rw [hfrom.root]
    exact hat.root hroot

/-! ## Settings that are asked for -/

section

variable {loader : Yaml.Loader} {store : Store} {environment : Environment} {resources : String}
  {request : Request} {origin : Origin} {entries settings : List (Value × Value)}

/-- Where the settings are from: the path that is asked for, or else what the environment or the program
gives. -/
def chooseOrigin (store : Store) (environment : Environment) (resources : String) (request : Request) :
    Except Problem Origin :=
  match request.path with
  | some path => .ok (.file (.ofText path))
  | none => findOrigin store environment resources none

/-- Settings at the level that is asked for, if there is one. -/
def atRequest (asked : Option String) (entries : List (Value × Value)) :
    Except Problem (List (Value × Value)) :=
  match asked with
  | none => .ok entries
  | some word => withLevel word entries

theorem requestedSettings_eq (loader : Yaml.Loader) (store : Store) (environment : Environment)
    (resources : String) (request : Request) :
    requestedSettings loader store environment resources request =
      (chooseOrigin store environment resources request).bind fun origin =>
        (loadSettingsWith loader store origin).bind fun entries =>
          (atRequest (request.level? environment) entries).map fun settings => (origin, settings) := by
  unfold requestedSettings chooseOrigin atRequest
  cases request.path <;> cases request.level? environment <;> rfl

/-- What is applied of the entries of a file: these, or these at the level that is asked for. -/
inductive IsRequested (asked : Option String) (entries : List (Value × Value)) :
    List (Value × Value) → Prop
  | unchanged (hasked : asked = none) : IsRequested asked entries entries
  | atLevel {word : String} {level : Level} {settings : List (Value × Value)} (hasked : asked = some word)
      (hlevel : Level.ofWord? word = some level) (hat : AtLevel (Level.capitals word) level entries settings) :
      IsRequested asked entries settings

theorem isRequested_of_atRequest {asked : Option String} (hsettings : atRequest asked entries = .ok settings) :
    IsRequested asked entries settings := by
  cases asked with
  | none =>
    obtain rfl := Except.ok.inj hsettings
    exact .unchanged rfl
  | some word =>
    obtain ⟨level, hlevel, hat⟩ := atLevel_of_withLevel hsettings
    exact .atLevel rfl hlevel hat

/-! ## Problems that are not foreseen -/

/-- Reading settings ends with a problem that is not foreseen: a path that cannot be looked up, a fault of the
loader of a kind that nobody expects, or, where a level is asked for, a section without parts. -/
inductive Unread (loader : Yaml.Loader) (store : Store) (environment : Environment) (resources : String)
    (request : Request) : Prop
  | unreachable {obstacle : Obstacle} {path : String}
      (horigin : chooseOrigin store environment resources request = .error (.unreachable obstacle path))
  | faulty {origin : Origin} {stream : TextStream} {fault : Yaml.Fault}
      (horigin : chooseOrigin store environment resources request = .ok origin)
      (hopen : openOrigin store origin = .ok stream) (hfault : loader stream = .error fault)
      (hkind : fault.kind = .other)
  | noParts {origin : Origin} {entries : List (Value × Value)} {word : String}
      (horigin : chooseOrigin store environment resources request = .ok origin)
      (hentries : loadSettingsWith loader store origin = .ok entries)
      (hword : request.level? environment = some word)
      (hlevel : (Level.ofWord? word).isSome) (hparts : MeetsNoParts entries)

theorem isForeseen_of_packagedOrigin {name : String}
    (horigin : packagedOrigin resources name = .error problem) : problem.isForeseen := by
  rcases ite_eq_iff.mp horigin with ⟨-, hfound⟩ | ⟨-, hmissing⟩
  · exact absurd hfound (by nofun)
  · obtain rfl := Except.error.inj hmissing
    rfl

theorem unreachable_of_chooseOrigin
    (horigin : chooseOrigin store environment resources request = .error problem)
    (hproblem : problem.isForeseen = false) : ∃ obstacle path, problem = .unreachable obstacle path := by
  have hunforeseen : ¬ problem.isForeseen := by simp [hproblem]
  unfold chooseOrigin at horigin
  split at horigin
  · exact absurd horigin (by nofun)
  · rcases ite_eq_iff.mp horigin with ⟨-, hpackaged⟩ | ⟨-, hnamed⟩
    · exact absurd (isForeseen_of_packagedOrigin hpackaged) hunforeseen
    · generalize Path.ofText _ = path at hnamed
      cases hcontains : store.contains path with
      | error obstacle =>
        rw [hcontains] at hnamed
        exact ⟨obstacle, path.toText, (Except.error.inj hnamed).symm⟩
      | ok found =>
        rw [hcontains] at hnamed
        cases found with
        | true => exact absurd hnamed (by nofun)
        | false =>
          obtain rfl := Except.error.inj hnamed
          exact absurd rfl hunforeseen

theorem isForeseen_of_openOrigin (hopen : openOrigin store origin = .error problem) :
    problem.isForeseen := by
  cases origin with
  | packaged path => exact absurd hopen (by nofun)
  | file path =>
    rw [openOrigin] at hopen
    cases hfile : store.openText path with
    | ok stream =>
      rw [hfile] at hopen
      exact absurd hopen (by nofun)
    | error error =>
      rw [hfile] at hopen
      obtain rfl := Except.error.inj hopen
      cases error <;> rfl

/-- A document that is loaded holds settings, or is no mapping. -/
theorem isForeseen_of_value {stream : TextStream} {value : Value}
    (hopen : openOrigin store origin = .ok stream) (hvalue : loader stream = .ok value)
    (hload : loadSettingsWith loader store origin = .error problem) : problem.isForeseen := by
  simp only [loadSettingsWith, hopen, hvalue, Except.mapError, bind, Except.bind] at hload
  split at hload
  · exact absurd hload (by nofun)
  · obtain rfl := Except.error.inj hload
    rfl

theorem loadSettings_of_fault {stream : TextStream} {fault : Yaml.Fault}
    (hopen : openOrigin store origin = .ok stream) (hfault : loader stream = .error fault) :
    loadSettingsWith loader store origin = .error (.ofFault origin.path fault) := by
  simp only [loadSettingsWith, hopen, hfault, Except.mapError, bind, Except.bind]

theorem isForeseen_ofFault {fault : Yaml.Fault} {path : String} :
    (Problem.ofFault path fault).isForeseen = false ↔ fault.kind = .other := by
  unfold Problem.ofFault
  split
  · simp [Problem.isForeseen, Yaml.Fault.kind]
  · cases hkind : fault.kind <;> simp [Problem.isForeseen, hkind]

theorem loadSettings_unforeseen_iff :
    (∃ problem, loadSettingsWith loader store origin = .error problem ∧ problem.isForeseen = false) ↔
      ∃ stream fault, openOrigin store origin = .ok stream ∧ loader stream = .error fault ∧
        fault.kind = .other := by
  constructor
  · rintro ⟨problem, hload, hproblem⟩
    have hunforeseen : ¬ problem.isForeseen := by simp [hproblem]
    cases hopen : openOrigin store origin with
    | error other =>
      rw [loadSettingsWith, hopen] at hload
      obtain rfl : other = problem := Except.error.inj hload
      exact absurd (isForeseen_of_openOrigin hopen) hunforeseen
    | ok stream =>
      cases hvalue : loader stream with
      | ok value => exact absurd (isForeseen_of_value hopen hvalue hload) hunforeseen
      | error fault =>
        rw [loadSettings_of_fault hopen hvalue] at hload
        obtain rfl := Except.error.inj hload
        exact ⟨stream, fault, rfl, hvalue, isForeseen_ofFault.mp hproblem⟩
  · rintro ⟨stream, fault, hopen, hfault, hkind⟩
    exact ⟨_, loadSettings_of_fault hopen hfault, isForeseen_ofFault.mpr hkind⟩

theorem unread_iff :
    (∃ problem, requestedSettings loader store environment resources request = .error problem ∧
        problem.isForeseen = false) ↔ Unread loader store environment resources request := by
  rw [requestedSettings_eq]
  constructor
  · rintro ⟨problem, hproblem, hforeseen⟩
    rcases except_bind_eq_error.mp hproblem with horigin | ⟨origin, horigin, hrest⟩
    · obtain ⟨obstacle, path, rfl⟩ := unreachable_of_chooseOrigin horigin hforeseen
      exact .unreachable horigin
    · rcases except_bind_eq_error.mp hrest with hload | ⟨entries, hentries, hsettings⟩
      · obtain ⟨stream, fault, hopen, hfault, hkind⟩ :=
          loadSettings_unforeseen_iff.mp ⟨problem, hload, hforeseen⟩
        exact .faulty horigin hopen hfault hkind
      · rw [except_map_eq_error] at hsettings
        cases hword : request.level? environment with
        | none =>
          rw [hword] at hsettings
          exact absurd hsettings (by nofun)
        | some word =>
          rw [hword] at hsettings
          obtain ⟨hlevel, hparts⟩ := withLevel_unforeseen_iff.mp ⟨problem, hsettings, hforeseen⟩
          exact .noParts horigin hentries hword hlevel hparts
  · intro hunread
    cases hunread with
    | unreachable horigin => exact ⟨_, by rw [horigin]; rfl, rfl⟩
    | faulty horigin hopen hfault hkind =>
      obtain ⟨problem, hload, hforeseen⟩ := loadSettings_unforeseen_iff.mpr ⟨_, _, hopen, hfault, hkind⟩
      exact ⟨problem, by rw [horigin, Except.bind, hload]; rfl, hforeseen⟩
    | noParts horigin hentries hword hlevel hparts =>
      obtain ⟨problem, hproblem, hforeseen⟩ := withLevel_unforeseen_iff.mpr ⟨hlevel, hparts⟩
      refine ⟨problem, ?_, hforeseen⟩
      rw [horigin, Except.bind, hentries, Except.bind, hword, atRequest, hproblem]
      rfl

end

/-! ## Endings -/

section

variable {loader : Yaml.Loader} {occasion : Occasion} {environment : Environment} {resources : String}
  {request : Request} {before : Loggers} {origin : Origin} {entries settings : List (Value × Value)}
  {configuration : Configuration}

/-- The settings that are asked for are read from a file and applied without a problem. -/
structure Applies (loader : Yaml.Loader) (occasion : Occasion) (environment : Environment)
    (resources : String) (request : Request) (before : Loggers) (origin : Origin)
    (settings : List (Value × Value)) (configuration : Configuration) : Prop where
  read : requestedSettings loader occasion.files environment resources request = .ok (origin, settings)
  applied : (Configure.apply occasion).run { scope := { settings }, loggers := before } =
    (.ok (), configuration)

/-- The record that settings have been applied. -/
def tellApplied (time : Moment) (origin : Origin) : Logging Unit :=
  Logging.write time (appliedRecord origin)

/-- A problem on the way, with the loggers and all that has been written at that time. -/
inductive Meets (loader : Yaml.Loader) (occasion : Occasion) (environment : Environment)
    (resources : String) (request : Request) (before : Loggers) : Problem → Loggers × List Output → Prop
  | reading {problem : Problem}
      (hsettings : requestedSettings loader occasion.files environment resources request = .error problem) :
      Meets loader occasion environment resources request before problem (before, [])
  | applying {origin : Origin} {settings : List (Value × Value)} {problem : Problem}
      {configuration : Configuration}
      (hsettings : requestedSettings loader occasion.files environment resources request =
        .ok (origin, settings))
      (happly : (Configure.apply occasion).run { scope := { settings }, loggers := before } =
        (.error problem, configuration)) :
      Meets loader occasion environment resources request before problem
        (configuration.loggers, configuration.outputs)
  | telling {origin : Origin} {settings : List (Value × Value)} {configuration : Configuration}
      {fault : WriteFault} {state : Loggers × List Output}
      (happlies : Applies loader occasion environment resources request before origin settings configuration)
      (htell : (tellApplied occasion.time origin).run (configuration.loggers, configuration.outputs) =
        (.error fault, state)) :
      Meets loader occasion environment resources request before (.writing fault) state

/-- The word of the level that basic settings have. -/
def basicWord (environment : Environment) (request : Request) : String :=
  (request.level? environment).getD "INFO"

/-- Set-up either applies the settings of a file, at the level that is asked for, or falls back to basic
settings because of a problem that it foresees. -/
inductive Settles (loader : Yaml.Loader) (occasion : Occasion) (environment : Environment)
    (resources : String) (request : Request) (before : Loggers) : Except Problem (Loggers × List Output) → Prop
  | applied {origin : Origin} {entries settings : List (Value × Value)} {configuration : Configuration}
      {loggers : Loggers} {outputs : List Output}
      (horigin : chooseOrigin occasion.files environment resources request = .ok origin)
      (hentries : loadSettingsWith loader occasion.files origin = .ok entries)
      (hsettings : IsRequested (request.level? environment) entries settings)
      (happlies : Applies loader occasion environment resources request before origin settings configuration)
      (hloggers : LoggersFrom configuration.loggers (loggers, outputs))
      (hlevel : ∀ word ∈ request.level? environment, ∀ level ∈ Level.ofWord? word,
        LoggersAt level entries loggers) :
      Settles loader occasion environment resources request before (.ok (loggers, outputs))
  | fellBack {problem : Problem} {state : Loggers × List Output} {loggers : Loggers} {outputs : List Output}
      (hmeets : Meets loader occasion environment resources request before problem state)
      (hforeseen : problem.isForeseen)
      (hbasic : IsBasic ((Level.ofWord? (basicWord environment request)).getD Level.info) loggers) :
      Settles loader occasion environment resources request before (.ok (loggers, outputs))

/-- A problem makes set-up end in neither way: it is not foreseen, or a handler that was there when it came up
refuses what falling back writes. -/
inductive Escapes (loader : Yaml.Loader) (occasion : Occasion) (environment : Environment)
    (resources : String) (request : Request) (before : Loggers) : Prop
  | reading (hunread : Unread loader occasion.files environment resources request)
  | applying {origin : Origin} {settings : List (Value × Value)} {problem : Problem}
      {configuration : Configuration}
      (hsettings : requestedSettings loader occasion.files environment resources request =
        .ok (origin, settings))
      (happly : (Configure.apply occasion).run { scope := { settings }, loggers := before } =
        (.error problem, configuration))
      (hproblem : problem.isForeseen = false)
  | telling {origin : Origin} {settings : List (Value × Value)} {configuration : Configuration}
      {state : Loggers × List Output}
      (happlies : Applies loader occasion environment resources request before origin settings configuration)
      (htell : (tellApplied occasion.time origin).run (configuration.loggers, configuration.outputs) =
        (.error .writesNothing, state))
      (hrefused : Refused configuration.loggers.handlers .writesNothing)
  | fallingBack {problem : Problem} {fault : WriteFault} {state final : Loggers × List Output}
      (hmeets : Meets loader occasion environment resources request before problem state)
      (hforeseen : problem.isForeseen)
      (hrecover : (recover occasion.time problem (basicWord environment request)).run state =
        (.error fault, final))
      (hrefused : Refused state.1.handlers fault)

/-- What comes of a problem: set-up falls back, unless the problem is not foreseen. -/
def settle (time : Moment) (word : String) (problem : Problem) (state : Loggers × List Output) :
    Except Problem (Loggers × List Output) :=
  if problem.isForeseen then after (recover time problem word) state.1 state.2 else .error problem

theorem setUp_of_meets {state : Loggers × List Output}
    (hmeets : Meets loader occasion environment resources request before problem state) :
    setUpWith loader occasion environment resources request before =
      settle occasion.time (basicWord environment request) problem state := by
  cases hmeets with
  | reading hsettings => simp only [setUpWith, hsettings]; rfl
  | applying hsettings happly => simp only [setUpWith, hsettings, happly]; rfl
  | telling happlies htell =>
    rw [tellApplied] at htell
    simp only [setUpWith, happlies.read, happlies.applied, htell]
    rfl

theorem setUp_of_told {state : Loggers × List Output}
    (happlies : Applies loader occasion environment resources request before origin settings configuration)
    (htell : (tellApplied occasion.time origin).run (configuration.loggers, configuration.outputs) =
      (.ok (), state)) :
    setUpWith loader occasion environment resources request before = .ok state := by
  rw [tellApplied] at htell
  simp only [setUpWith, happlies.read, happlies.applied, htell]

/-- Set-up tells that settings have been applied, or there is a problem on the way. -/
theorem told_or_meets (loader : Yaml.Loader) (occasion : Occasion) (environment : Environment)
    (resources : String) (request : Request) (before : Loggers) :
    (∃ origin settings configuration state,
        Applies loader occasion environment resources request before origin settings configuration ∧
          (tellApplied occasion.time origin).run (configuration.loggers, configuration.outputs) =
            (.ok (), state)) ∨
      ∃ problem state, Meets loader occasion environment resources request before problem state := by
  cases hsettings : requestedSettings loader occasion.files environment resources request with
  | error problem => exact .inr ⟨problem, _, .reading hsettings⟩
  | ok requested =>
    obtain ⟨origin, settings⟩ := requested
    cases happly : (Configure.apply occasion).run { scope := { settings }, loggers := before } with
    | mk result configuration =>
      cases result with
      | error problem => exact .inr ⟨problem, _, .applying hsettings happly⟩
      | ok =>
        have happlies : Applies loader occasion environment resources request before origin settings
            configuration := ⟨hsettings, happly⟩
        cases htell : (tellApplied occasion.time origin).run
            (configuration.loggers, configuration.outputs) with
        | mk result state =>
          cases result with
          | ok => exact .inl ⟨origin, settings, configuration, state, happlies, htell⟩
          | error fault => exact .inr ⟨.writing fault, state, .telling happlies htell⟩

theorem settles_of_told {state : Loggers × List Output}
    (happlies : Applies loader occasion environment resources request before origin settings configuration)
    (htell : (tellApplied occasion.time origin).run (configuration.loggers, configuration.outputs) =
      (.ok (), state)) :
    Settles loader occasion environment resources request before (.ok state) := by
  have hread := happlies.read
  rw [requestedSettings_eq] at hread
  obtain ⟨chosen, horigin, hread⟩ := except_bind_eq_ok.mp hread
  obtain ⟨entries, hentries, hread⟩ := except_bind_eq_ok.mp hread
  obtain ⟨made, hmade, hpair⟩ := except_map_eq_ok.mp hread
  obtain ⟨rfl, rfl⟩ := Prod.mk.inj hpair
  have hloggers : LoggersFrom configuration.loggers state :=
    (Logging.keeps_write _).of_ok htell (loggersFrom_self (configuration.loggers, configuration.outputs))
  refine .applied horigin hentries (isRequested_of_atRequest hmade) happlies hloggers ?_
  intro word hword level hlevel
  rw [hword] at hmade
  obtain ⟨other, hother, hat⟩ := atLevel_of_withLevel hmade
  obtain rfl := Option.some.inj (hother.symm.trans hlevel)
  exact hloggers.loggersAt (loggersAt_of_apply hlevel hat happlies.applied)

/-- Set-up can fall back because of a problem: the problem is foreseen, and nothing refuses the record that
tells of it. -/
def Recovers (occasion : Occasion) (environment : Environment) (request : Request) (problem : Problem)
    (state : Loggers × List Output) : Prop :=
  problem.isForeseen ∧ ∃ final,
    (recover occasion.time problem (basicWord environment request)).run state = (.ok (), final)

theorem recovers_iff {state : Loggers × List Output} :
    Recovers occasion environment request problem state ↔ problem.isForeseen ∧ ∀ fault final,
      (recover occasion.time problem (basicWord environment request)).run state ≠ (.error fault, final) := by
  refine and_congr_right fun _ => ?_
  cases (recover occasion.time problem (basicWord environment request)).run state with
  | mk result final =>
    cases result with
    | ok => exact iff_of_true ⟨final, rfl⟩ fun _ _ => nofun
    | error fault => exact iff_of_false (by rintro ⟨_, hrun⟩; cases hrun) fun hnever => hnever fault final rfl

theorem settles_iff_of_meets {state : Loggers × List Output}
    (hmeets : Meets loader occasion environment resources request before problem state) :
    Settles loader occasion environment resources request before
        (setUpWith loader occasion environment resources request before) ↔
      Recovers occasion environment request problem state := by
  rw [setUp_of_meets hmeets, settle]
  by_cases hforeseen : problem.isForeseen
  · rw [if_pos hforeseen]
    cases hrecover : (recover occasion.time problem (basicWord environment request)).run state with
    | mk result final =>
      cases result with
      | ok =>
        have hafter : after (recover occasion.time problem (basicWord environment request)) state.1 state.2 =
            .ok final := by
          rw [after, hrecover]
        rw [hafter]
        exact iff_of_true (.fellBack hmeets hforeseen (isBasic_of_recover hrecover))
          ⟨hforeseen, final, hrecover⟩
      | error fault =>
        have hafter : after (recover occasion.time problem (basicWord environment request)) state.1 state.2 =
            .error (.writing fault) := by
          rw [after, hrecover]
        rw [hafter, recovers_iff]
        exact iff_of_false nofun fun hrecovers => hrecovers.2 fault final hrecover
  · rw [if_neg hforeseen]
    exact iff_of_false nofun fun hrecovers => hforeseen hrecovers.1

theorem escapes_of_meets {state : Loggers × List Output}
    (hmeets : Meets loader occasion environment resources request before problem state)
    (hrecovers : ¬ Recovers occasion environment request problem state) :
    Escapes loader occasion environment resources request before := by
  by_cases hforeseen : problem.isForeseen
  · rw [recovers_iff, and_iff_right hforeseen] at hrecovers
    push Not at hrecovers
    obtain ⟨fault, final, hrecover⟩ := hrecovers
    exact .fallingBack hmeets hforeseen hrecover (refused_of_recover hrecover)
  · rw [Bool.not_eq_true] at hforeseen
    cases hmeets with
    | reading hsettings => exact .reading (unread_iff.mp ⟨problem, hsettings, hforeseen⟩)
    | applying hsettings happly => exact .applying hsettings happly hforeseen
    | @telling _ _ configuration fault _ happlies htell =>
      have hrefused := (Logging.keeps_write _).of_error htell
        (loggersFrom_self (configuration.loggers, configuration.outputs))
      cases fault with
      | writesNothing => exact .telling happlies htell hrefused
      | unordered kind => exact absurd hforeseen (by simp [Problem.isForeseen])

theorem Escapes.exists_meets (hescapes : Escapes loader occasion environment resources request before) :
    ∃ problem state, Meets loader occasion environment resources request before problem state ∧
      ¬ Recovers occasion environment request problem state := by
  have hunforeseen : ∀ {problem : Problem} {state : Loggers × List Output}, problem.isForeseen = false →
      ¬ Recovers occasion environment request problem state := by
    intro problem state hproblem hrecovers
    rw [Recovers, hproblem] at hrecovers
    exact absurd hrecovers.1 (by decide)
  cases hescapes with
  | reading hunread =>
    obtain ⟨problem, hsettings, hproblem⟩ := unread_iff.mpr hunread
    exact ⟨problem, _, .reading hsettings, hunforeseen hproblem⟩
  | applying hsettings happly hproblem => exact ⟨_, _, .applying hsettings happly, hunforeseen hproblem⟩
  | telling happlies htell _ => exact ⟨_, _, .telling happlies htell, hunforeseen rfl⟩
  | fallingBack hmeets hforeseen hrecover _ =>
    exact ⟨_, _, hmeets, fun hrecovers => (recovers_iff.mp hrecovers).2 _ _ hrecover⟩

end

/-- A file with a section that has no parts. -/
def noPartsStore : Store where
  files := [(["log.yaml"], ⟨[0x6C, 0x6F, 0x67, 0x67, 0x65, 0x72, 0x73, 0x3A, 0x0A], 0⟩)]

def noPartsOccasion : Occasion where
  files := noPartsStore
  time := { year := 2026, month := 1, day := 1 }

def noPartsRequest : Request where
  path := some "log.yaml"
  level := some "DEBUG"

theorem openText_noParts :
    noPartsStore.openText (.ofText "log.yaml") = .ok { text := "loggers:\n".toList } := by
  decide +kernel

end PageGraft.Log
