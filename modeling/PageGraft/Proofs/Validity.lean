import PageGraft.Proofs.Reading
import PageGraft.Settings.Properties

/-!
# Settings that are read are valid

`IsValid` says of every record of settings what its readers promise: identifiers for the names that are looked
for in a component, texts that are not empty, a width within its bounds, sets of names in rising order, and
paths in normal form. The settings without a document are valid, and so are all settings that are read from a
document (`ensures_readSync`).

`Reading.Ensures` describes a reading from both sides: what is true of the value that it makes, and where the
problems are that it finds instead, of which there is at least one. There is one rule for each way in which
readings are put together, and one lemma for each reader.
-/

namespace PageGraft.File

/-! ## Normal paths -/

theorem Path.rootOf_append {front rest : List Char} (hfront : front ∈ [[], ['/'], ['/', '/']])
    (hrest : ∀ character ∈ rest.head?, character ≠ '/') :
    (rootOf (front ++ rest)).toList = front := by
  have hfronts : front = [] ∨ front = ['/'] ∨ front = ['/', '/'] := by simpa using hfront
  cases rest with
  | nil => rcases hfronts with rfl | rfl | rfl <;> rfl
  | cons first rest =>
    have hfirst : first ≠ '/' := hrest first (by simp)
    rcases hfronts with rfl | rfl | rfl <;> simp [rootOf, hfirst]

theorem Path.toList_rootOf_mem (text : List Char) : (rootOf text).toList ∈ [[], ['/'], ['/', '/']] := by
  unfold rootOf
  split <;> simp

/-- The parts of a path hold no slash, and are neither empty nor a dot. -/
theorem Path.mem_parts_ofText {text part : String} (hpart : part ∈ (ofText text).parts) :
    '/' ∉ part.toList ∧ part ≠ "" ∧ part ≠ "." := by
  simp only [ofText, List.mem_filter, List.mem_map] at hpart
  obtain ⟨⟨piece, hpiece, rfl⟩, hkept⟩ := hpart
  refine ⟨?_, by simpa using hkept⟩
  rw [String.toList_ofList]
  exact fun hmem => (Page.mem_of_mem_splitOn hpiece hmem).2 rfl

/-- The pieces of a root and parts are the parts and empty ones. -/
theorem Path.splitOn_append {front : List Char} (hfront : front ∈ [[], ['/'], ['/', '/']])
    (rest : List Char) :
    ∃ count, (front ++ rest).splitOn '/' = List.replicate count [] ++ rest.splitOn '/' := by
  have hfronts : front = [] ∨ front = ['/'] ∨ front = ['/', '/'] := by simpa using hfront
  rcases hfronts with rfl | rfl | rfl
  · exact ⟨0, rfl⟩
  · exact ⟨1, by simp [Page.splitOn_cons]⟩
  · exact ⟨2, by simp [Page.splitOn_cons, List.replicate]⟩

/-- A root and parts as they are written, and read again. -/
theorem Path.parts_joined {front : List Char} {parts : List String}
    (hfront : front ∈ [[], ['/'], ['/', '/']])
    (hparts : ∀ part ∈ parts, '/' ∉ part.toList ∧ part ≠ "" ∧ part ≠ ".") :
    (((front ++ ['/'].intercalate (parts.map String.toList)).splitOn '/').map String.ofList).filter
      (fun part => part ≠ "" && part ≠ ".") = parts := by
  obtain ⟨count, hsplit⟩ := splitOn_append hfront (['/'].intercalate (parts.map String.toList))
  have hempty : ((List.replicate count []).map String.ofList).filter
      (fun part => part ≠ "" && part ≠ ".") = [] := by
    simp
  have hkept : parts.filter (fun part => part ≠ "" && part ≠ ".") = parts := by
    rw [List.filter_eq_self]
    intro part hpart
    simp [(hparts part hpart).2]
  rw [hsplit, List.map_append, List.filter_append, hempty, List.nil_append]
  by_cases hnone : parts = []
  · subst hnone
    rfl
  · rw [List.splitOn_intercalate '/' (by simpa using fun part hpart => (hparts part hpart).1)
      (by simpa using hnone), List.map_map]
    simpa [Function.comp_def] using hkept

theorem Path.ofText_toText (text : String) : ofText (ofText text).toText = ofText text := by
  have hroot : (ofText text).root.toList ∈ [[], ['/'], ['/', '/']] := toList_rootOf_mem text.toList
  have hparts : ∀ part ∈ (ofText text).parts, '/' ∉ part.toList ∧ part ≠ "" ∧ part ≠ "." :=
    fun part hpart => mem_parts_ofText hpart
  generalize ofText text = path at hroot hparts
  obtain ⟨root, parts⟩ := path
  dsimp only at hroot hparts
  by_cases hdot : root = "" ∧ parts = []
  · obtain ⟨rfl, rfl⟩ := hdot
    rfl
  · have htext : (toText ⟨root, parts⟩).toList =
        root.toList ++ ['/'].intercalate (parts.map String.toList) := by
      have hshown : toText ⟨root, parts⟩ = root ++ "/".intercalate parts := by
        rw [toText, if_neg]
        simpa using hdot
      rw [hshown, String.toList_append, String.toList_intercalate]
      rfl
    have hhead : ∀ character ∈ (['/'].intercalate (parts.map String.toList)).head?, character ≠ '/' := by
      cases parts with
      | nil => simp
      | cons part parts =>
        obtain ⟨hslash, hne, -⟩ := hparts part List.mem_cons_self
        obtain ⟨first, rest, hpart⟩ : ∃ first rest, part.toList = first :: rest :=
          List.exists_cons_of_ne_nil (by simpa using hne)
        have hfirst : first ≠ '/' := by
          rintro rfl
          exact hslash (hpart ▸ List.mem_cons_self)
        cases parts <;> simpa [hpart, List.intercalate] using hfirst
    rw [ofText, htext, parts_joined hroot hparts, String.toList_inj.mp (rootOf_append hroot hhead)]

/-- Written in normal form, a path is in normal form. -/
theorem normalPath_normalPath (text : String) : normalPath (normalPath text) = normalPath text := by
  rw [normalPath, normalPath, Path.ofText_toText]

end PageGraft.File

namespace PageGraft.Settings

open PageGraft.Data

/-! ## Valid settings -/

/-- Names that are kept as a set. -/
def IsNameSet (names : List String) : Prop :=
  names.Pairwise (· < ·)

structure ExtractorSettings.IsValid (settings : ExtractorSettings) : Prop where
  targetFunctions : IsNameSet settings.targetFunctions
  targetFunction : ∀ name ∈ settings.targetFunctions, isIdentifier name
  stateHook : isIdentifier settings.stateHook
  effectHook : isIdentifier settings.effectHook
  callbackHook : isIdentifier settings.callbackHook

structure TransformSettings.IsValid (settings : TransformSettings) : Prop where
  preservedCalls : IsNameSet settings.preservedCalls
  indentWidth : 0 < settings.indentWidth ∧ settings.indentWidth ≤ 16

structure PatcherSettings.IsValid (settings : PatcherSettings) : Prop where
  insertionMarker : settings.insertionMarker ≠ ""
  stateRegionComment : settings.stateRegionComment ≠ ""

structure SyncSettings.IsValid (settings : SyncSettings) : Prop where
  sourcePath : File.normalPath settings.sourcePath = settings.sourcePath
  targetPath : File.normalPath settings.targetPath = settings.targetPath
  extractor : settings.extractor.IsValid
  transform : settings.transform.IsValid
  patcher : settings.patcher.IsValid

/-! ### The defaults -/

theorem ExtractorSettings.IsValid.default : ({} : ExtractorSettings).IsValid where
  targetFunctions := by
    unfold IsNameSet
    decide
  targetFunction := by decide
  stateHook := by decide
  effectHook := by decide
  callbackHook := by decide

theorem TransformSettings.IsValid.default : ({} : TransformSettings).IsValid where
  preservedCalls := by
    unfold IsNameSet
    decide
  indentWidth := by decide

theorem PatcherSettings.IsValid.default : ({} : PatcherSettings).IsValid where
  insertionMarker := by decide
  stateRegionComment := by decide

/-- Without a document, the settings are valid. -/
theorem SyncSettings.IsValid.default : ({} : SyncSettings).IsValid where
  sourcePath := by decide
  targetPath := by decide
  extractor := .default
  transform := .default
  patcher := .default

/-! ## What readings ensure -/

namespace Reading

variable {α β : Type} {good : α → Prop} {better : β → Prop} {located : Problem → Prop}

/-- A reading makes a good value, or it finds problems, at least one, and each of them in its place. -/
def Ensures (good : α → Prop) (located : Problem → Prop) : Reading α → Prop
  | .ok value => good value
  | .error problems => problems ≠ [] ∧ ∀ problem ∈ problems, located problem

theorem ensures_fail {fault : Fault} (hlocated : located ⟨[], fault⟩) :
    Ensures good located (.fail fault) :=
  ⟨List.cons_ne_nil _ _, by simpa using hlocated⟩

theorem Ensures.bind {reading : Reading α} {next : α → Reading β} (hreading : reading.Ensures good located)
    (hnext : ∀ value, good value → (next value).Ensures better located) :
    Ensures better located (reading >>= next) := by
  cases reading with
  | ok value => exact hnext value hreading
  | error problems => exact hreading

theorem Ensures.imp {good' : α → Prop} {reading : Reading α} (hreading : reading.Ensures good located)
    (hgood : ∀ value, good value → good' value) : reading.Ensures good' fun _ => True := by
  cases reading with
  | ok value => exact hgood value hreading
  | error problems => exact ⟨hreading.1, fun _ _ => trivial⟩

theorem Ensures.map {reading : Reading α} {change : α → β} (hreading : reading.Ensures good located)
    (hchange : ∀ value, good value → better (change value)) :
    Ensures better located (Except.map change reading) := by
  cases reading with
  | ok value => exact hchange value hreading
  | error problems => exact hreading

/-- Of two readings that are put together each one has its part in the value, and the problems are those of
both. -/
theorem Ensures.also {argument : Reading α} {function : Reading (α → β)}
    (hfunction : function.Ensures (fun apply => ∀ value, good value → better (apply value)) located)
    (hargument : argument.Ensures good located) : Ensures better located (also argument function) := by
  cases function with
  | ok apply =>
    cases argument with
    | ok value => exact hfunction value hargument
    | error problems => exact hargument
  | error problems =>
    cases argument with
    | ok value => exact hfunction
    | error others =>
      refine ⟨List.append_ne_nil_of_left_ne_nil hfunction.1 others, ?_⟩
      intro problem hproblem
      rcases List.mem_append.mp hproblem with hproblem | hproblem
      · exact hfunction.2 problem hproblem
      · exact hargument.2 problem hproblem

end Reading

/-- A reader makes good values. -/
def ReadsOnly {α : Type} (read : Value → Reading α) (good : α → Prop) : Prop :=
  ∀ value, (read value).Ensures good fun _ => True

/-! ## Single settings -/

theorem readsOnly_readText : ReadsOnly readText fun _ => True := by
  intro value
  cases value with
  | text => trivial
  | _ => exact Reading.ensures_fail trivial

theorem readsOnly_readNonemptyText : ReadsOnly readNonemptyText (· ≠ "") := by
  intro value
  refine (readsOnly_readText value).bind fun text _ => ?_
  split
  · exact Reading.ensures_fail trivial
  · rename_i hnonempty
    rintro rfl
    exact hnonempty rfl

theorem readsOnly_readIdentifier : ReadsOnly readIdentifier fun name => isIdentifier name := by
  intro value
  refine (readsOnly_readText value).bind fun text _ => ?_
  rw [checkIdentifier]
  split
  · assumption
  · exact Reading.ensures_fail trivial

theorem readsOnly_readPath : ReadsOnly readPath fun path => File.normalPath path = path := by
  intro value
  cases value with
  | text value => exact File.normalPath_normalPath value
  | _ => exact Reading.ensures_fail trivial

theorem ensures_integerOfText (text : String) :
    (integerOfText text).Ensures (fun _ => True) fun _ => True := by
  unfold integerOfText
  split
  · exact Reading.ensures_fail trivial
  · split
    · exact Reading.ensures_fail trivial
    · split
      · trivial
      · exact Reading.ensures_fail trivial

theorem ensures_integerOfNumber (number : Float) :
    (integerOfNumber number).Ensures (fun _ => True) fun _ => True := by
  unfold integerOfNumber
  split
  · exact Reading.ensures_fail trivial
  · split
    · exact Reading.ensures_fail trivial
    · split
      · trivial
      · exact Reading.ensures_fail trivial

theorem readsOnly_readInteger : ReadsOnly readInteger fun _ => True := by
  intro value
  cases value with
  | integer => trivial
  | boolean => trivial
  | number value => exact ensures_integerOfNumber value
  | text value => exact ensures_integerOfText value
  | _ => exact Reading.ensures_fail trivial

theorem readsOnly_readCount : ReadsOnly readCount fun _ => True := by
  intro value
  refine (readsOnly_readInteger value).bind fun number _ => ?_
  split
  · exact Reading.ensures_fail trivial
  · trivial

theorem readsOnly_readWidth (bound : Nat) :
    ReadsOnly (readWidth bound) fun width => 0 < width ∧ width ≤ bound := by
  intro value
  refine (readsOnly_readInteger value).bind fun number _ => ?_
  split
  · exact Reading.ensures_fail trivial
  · split
    · exact Reading.ensures_fail trivial
    · show 0 < number.toNat ∧ number.toNat ≤ bound
      omega

theorem ensures_booleanOfInteger (number : Int) :
    (booleanOfInteger number).Ensures (fun _ => True) fun _ => True := by
  unfold booleanOfInteger
  split
  · trivial
  · split
    · trivial
    · split
      · exact Reading.ensures_fail trivial
      · exact Reading.ensures_fail trivial

theorem readsOnly_readBoolean : ReadsOnly readBoolean fun _ => True := by
  intro value
  cases value with
  | boolean => trivial
  | integer value => exact ensures_booleanOfInteger value
  | number value =>
    rw [readBoolean]
    split
    · exact ensures_booleanOfInteger _
    · exact Reading.ensures_fail trivial
  | text value =>
    rw [readBoolean]
    split
    · trivial
    · split
      · trivial
      · exact Reading.ensures_fail trivial
  | _ => exact Reading.ensures_fail trivial

/-! ## Lists and sets -/

theorem ensures_readItems {α : Type} {read : Value → Reading α} {good : α → Prop}
    (hread : ReadsOnly read good) (position : Int) (items : List Value) :
    (readItems read position items).Ensures (fun values => ∀ value ∈ values, good value) fun _ => True := by
  induction items generalizing position with
  | nil => exact fun value hvalue => absurd hvalue List.not_mem_nil
  | cons item items ih =>
    have hitem := hread item
    have hitems := ih (position + 1)
    rw [readItems]
    cases hfirst : read item with
    | ok first =>
      rw [hfirst] at hitem
      cases hothers : readItems read (position + 1) items with
      | ok others =>
        rw [hothers] at hitems
        exact List.forall_mem_cons.mpr ⟨hitem, hitems⟩
      | error problems =>
        rw [hothers] at hitems
        exact hitems
    | error problems =>
      rw [hfirst] at hitem
      have hne := hitem.1
      cases readItems read (position + 1) items with
      | ok others => exact ⟨by simpa using hne, fun _ _ => trivial⟩
      | error others => exact ⟨by simp [hne], fun _ _ => trivial⟩

/-- Of names in order, those that are not like the one before are in strict order. -/
theorem pairwise_loop {name : String} {names found : List String} (hnames : (name :: names).Pairwise (· ≤ ·))
    (hfound : found.Pairwise (· > ·)) (hbefore : ∀ other ∈ found, other < name) :
    IsNameSet (List.eraseRepsBy.loop (fun left right => left == right) name names found) := by
  induction names generalizing name found with
  | nil =>
    rw [List.eraseRepsBy.loop, IsNameSet, List.pairwise_reverse, List.pairwise_cons]
    exact ⟨hbefore, hfound⟩
  | cons next names ih =>
    obtain ⟨hfirst, hrest⟩ := List.pairwise_cons.mp hnames
    rw [List.eraseRepsBy.loop]
    by_cases hnext : name = next
    · subst hnext
      simpa using ih hrest hfound hbefore
    · have hless : name < next := lt_of_le_of_ne (hfirst next List.mem_cons_self) hnext
      rw [beq_eq_false_iff_ne.mpr hnext]
      refine ih hrest (List.pairwise_cons.mpr ⟨hbefore, hfound⟩) ?_
      intro other hother
      rcases List.mem_cons.mp hother with rfl | hother
      · exact hless
      · exact (hbefore other hother).trans hless

theorem isNameSet_sortedNames (names : List String) : IsNameSet (sortedNames names) := by
  have hsorted : (names.mergeSort fun left right => !(right < left)).Pairwise (· ≤ ·) := by
    have hle : ∀ left right : String, (!decide (right < left)) = true ↔ left ≤ right := by
      intro left right
      rw [Bool.not_eq_true', decide_eq_false_iff_not, not_lt]
    refine (List.pairwise_mergeSort ?_ ?_ names).imp fun {left right} => (hle left right).mp
    · intro left middle right
      rw [hle, hle, hle]
      exact le_trans
    · intro left right
      rw [Bool.or_eq_true, hle, hle]
      exact le_total left right
  rw [sortedNames, List.eraseReps]
  cases hnames : names.mergeSort fun left right => !(right < left) with
  | nil => exact List.Pairwise.nil
  | cons first rest =>
    rw [hnames] at hsorted
    exact pairwise_loop hsorted List.Pairwise.nil (by simp)

theorem readsOnly_readNames : ReadsOnly readNames IsNameSet := by
  intro value
  have hitems : ∀ items, Reading.Ensures IsNameSet (fun _ => True)
      ((readItems readText 0 items).map sortedNames) :=
    fun items => (ensures_readItems readsOnly_readText 0 items).map fun names _ => isNameSet_sortedNames names
  unfold readNames
  split
  · exact hitems _
  · exact hitems _
  · exact Reading.ensures_fail trivial

theorem readsOnly_readIdentifiers :
    ReadsOnly readIdentifiers fun names => IsNameSet names ∧ ∀ name ∈ names, isIdentifier name := by
  intro value
  refine (readsOnly_readNames value).bind fun names hnames => ?_
  split
  · exact Reading.ensures_fail trivial
  · rename_i hfind
    exact ⟨hnames, by simpa using List.find?_eq_none.mp hfind⟩

theorem readsOnly_readTexts : ReadsOnly readTexts fun _ => True := by
  intro value
  have hitems := fun items => ensures_readItems readsOnly_readText 0 items
  unfold readTexts
  split
  · exact (hitems _).imp fun _ _ => trivial
  · exact (hitems _).imp fun _ _ => trivial
  · exact Reading.ensures_fail trivial

/-! ## Fields and whole records -/

section

variable {α : Type} {good : α → Prop} {entries : List (Value × Value)} {names : List String}

/-- The problem is in an entry: with its key, or in its value. -/
def PointsInto (entries : List (Value × Value)) (problem : Problem) : Prop :=
  ∃ entry ∈ entries, problem.location.head? = some (stepOfKey entry.1)

theorem mem_of_get? {name : String} {value : Value} (hget : Value.get? entries name = some value) :
    (Value.text name, value) ∈ entries := by
  rw [Value.get?, Option.map_eq_some_iff] at hget
  obtain ⟨⟨key, found⟩, hfind, rfl⟩ := hget
  have hkey := List.find?_some hfind
  have hmem := List.mem_of_find?_eq_some hfind
  cases key with
  | text other =>
    obtain rfl : other = name := by simpa [Value.sameKey] using hkey
    exact hmem
  | _ => simp [Value.sameKey] at hkey

theorem ensures_readField {name : String} {default : α} {read : Value → Reading α} (hread : ReadsOnly read good)
    (hdefault : good default) :
    (readField entries name default read).Ensures good (PointsInto entries) := by
  unfold readField
  split
  · exact hdefault
  · rename_i value hget
    have hvalue := hread value
    cases hreading : read value with
    | ok result =>
      rw [hreading] at hvalue
      exact hvalue
    | error problems =>
      rw [hreading] at hvalue
      refine ⟨by simpa using hvalue.1, ?_⟩
      intro problem hproblem
      obtain ⟨inner, -, rfl⟩ := List.mem_map.mp hproblem
      exact ⟨_, mem_of_get? hget, rfl⟩

theorem ensures_checkKeys :
    (checkKeys names entries).Ensures (fun _ => True) (PointsInto entries) := by
  unfold checkKeys
  dsimp only
  split
  · trivial
  · rename_i hproblems
    refine ⟨by simpa using hproblems, ?_⟩
    intro problem hproblem
    obtain ⟨⟨key, value⟩, hentry, hkey⟩ := List.mem_filterMap.mp hproblem
    refine ⟨(key, value), hentry, ?_⟩
    cases key with
    | text name =>
      obtain ⟨-, rfl⟩ := by simpa using hkey
      rfl
    | _ =>
      obtain rfl := by simpa using hkey
      rfl

/-- With the keys checked, a record of settings is read from its entries. -/
theorem ensures_readModel {model : String} {read : List (Value × Value) → Reading α}
    (hread : (read entries).Ensures good (PointsInto entries)) :
    (readModel model names read (.mapping entries)).Ensures good (PointsInto entries) :=
  Reading.Ensures.also (hread.map fun _ hgood _ _ => hgood) ensures_checkKeys

theorem readsOnly_readModel {model : String} {read : List (Value × Value) → Reading α}
    (hread : ∀ entries, (read entries).Ensures good (PointsInto entries)) :
    ReadsOnly (readModel model names read) good := by
  intro value
  rw [readModel]
  split
  · rename_i entries _
    have hmodel : (readModel model names read (.mapping entries)).Ensures good (PointsInto entries) :=
      ensures_readModel (hread entries)
    exact hmodel.imp fun _ hgood => hgood
  · exact Reading.ensures_fail trivial

end

theorem readsOnly_readExtractor : ReadsOnly readExtractor ExtractorSettings.IsValid := by
  have hdefault := ExtractorSettings.IsValid.default
  refine readsOnly_readModel fun entries => ?_
  refine .also ?_ (ensures_readField readsOnly_readIdentifier hdefault.callbackHook)
  refine .also ?_ (ensures_readField readsOnly_readIdentifier hdefault.effectHook)
  refine .also ?_ (ensures_readField readsOnly_readIdentifier hdefault.stateHook)
  refine .also ?_ (ensures_readField readsOnly_readIdentifiers ⟨hdefault.targetFunctions, hdefault.targetFunction⟩)
  intro names hnames state hstate effect heffect callback hcallback
  exact ⟨hnames.1, hnames.2, hstate, heffect, hcallback⟩

theorem readsOnly_readTransform : ReadsOnly readTransform TransformSettings.IsValid := by
  have hdefault := TransformSettings.IsValid.default
  refine readsOnly_readModel fun entries => ?_
  refine .also ?_ (ensures_readField (readsOnly_readWidth 16) hdefault.indentWidth)
  refine .also ?_ (ensures_readField readsOnly_readNames hdefault.preservedCalls)
  refine .also ?_ (ensures_readField readsOnly_readText trivial)
  refine .also ?_ (ensures_readField readsOnly_readText trivial)
  refine .also ?_ (ensures_readField readsOnly_readText trivial)
  refine .also ?_ (ensures_readField readsOnly_readText trivial)
  refine .also ?_ (ensures_readField readsOnly_readText trivial)
  intro _ _ _ _ _ _ _ _ _ _ names hnames width hwidth
  exact ⟨hnames, hwidth⟩

theorem readsOnly_readPatcher : ReadsOnly readPatcher PatcherSettings.IsValid := by
  have hdefault := PatcherSettings.IsValid.default
  refine readsOnly_readModel fun entries => ?_
  refine .also ?_ (ensures_readField readsOnly_readBoolean trivial)
  refine .also ?_ (ensures_readField readsOnly_readTexts trivial)
  refine .also ?_ (ensures_readField readsOnly_readNonemptyText hdefault.stateRegionComment)
  refine .also ?_ (ensures_readField readsOnly_readCount trivial)
  refine .also ?_ (ensures_readField readsOnly_readNonemptyText hdefault.insertionMarker)
  intro marker hmarker _ _ comment hcomment _ _ _ _
  exact ⟨hmarker, hcomment⟩

/-- Settings that are read from a document are valid, and every problem is in one of its entries. -/
theorem ensures_readSync (entries : List (Value × Value)) :
    (readSync (.mapping entries)).Ensures SyncSettings.IsValid (PointsInto entries) := by
  have hdefault := SyncSettings.IsValid.default
  unfold readSync
  refine ensures_readModel ?_
  refine .also ?_ (ensures_readField readsOnly_readPatcher hdefault.patcher)
  refine .also ?_ (ensures_readField readsOnly_readTransform hdefault.transform)
  refine .also ?_ (ensures_readField readsOnly_readExtractor hdefault.extractor)
  refine .also ?_ (ensures_readField readsOnly_readPath hdefault.targetPath)
  refine .also ?_ (ensures_readField readsOnly_readPath hdefault.sourcePath)
  intro source hsource target htarget extractor hextractor transform htransform patcher hpatcher
  exact ⟨hsource, htarget, hextractor, htransform, hpatcher⟩

end PageGraft.Settings
