import PageGraft.Log.SetUp
import PageGraft.Proofs.Keeping

/-!
# A level in place of those in the settings

When a level is asked for, it takes the place of the levels of all loggers and of the root, and handlers
with a higher one are lowered to it. `AtLevel` says what settings look like after that, and
`atLevel_of_withLevel` that they look so.

Levels can only be set in mappings. A part that is none is a problem that set-up foresees; a whole section
that is none is not foreseen, and `withLevel_unforeseen_iff` says when such a section is come across.
-/

namespace PageGraft.Data.Value

variable {entries : List (Value × Value)} {key other : String} {value : Value}

/-! ## Entries of a mapping -/

theorem sameKey_text {left : Value} : sameKey left (.text key) ↔ left = .text key := by
  cases left <;> simp [sameKey]

theorem get?_cons {first : Value × Value} :
    get? (first :: entries) key =
      if sameKey first.1 (.text key) then some first.2 else get? entries key := by
  cases hfirst : sameKey first.1 (.text key) <;> simp [get?, hfirst]

theorem get?_put_self : get? (put entries (.text key) value) key = some value := by
  induction entries with
  | nil => simp [put, get?, sameKey]
  | cons first entries ih =>
    obtain ⟨firstKey, firstValue⟩ := first
    rw [put]
    by_cases hfirst : sameKey firstKey (.text key)
    · rw [if_pos hfirst, get?_cons, if_pos hfirst]
    · rw [if_neg hfirst, get?_cons, if_neg hfirst, ih]

theorem get?_put_of_ne (hne : other ≠ key) :
    get? (put entries (.text key) value) other = get? entries other := by
  induction entries with
  | nil => simp [put, get?, sameKey, hne.symm]
  | cons first entries ih =>
    obtain ⟨firstKey, firstValue⟩ := first
    rw [put]
    by_cases hfirst : sameKey firstKey (.text key)
    · have hother : ¬ sameKey firstKey (.text other) := by
        intro hsame
        rw [sameKey_text.mp hfirst] at hsame
        exact hne (Value.text.inj (sameKey_text.mp hsame)).symm
      rw [if_pos hfirst, get?_cons, get?_cons, if_neg hother, if_neg hother]
    · rw [if_neg hfirst, get?_cons, get?_cons, ih]

end PageGraft.Data.Value

namespace PageGraft.Log

open PageGraft.Data

variable {entries settings changed : List (Value × Value)} {section_ word : String} {level : Level}
  {before after part : Value} {problem : Problem}

/-! ## Parts -/

def IsMapping (part : Value) : Prop :=
  ∃ entries, part.opened = .mapping entries

/-- A part before and after a level is set in it. Its other entries stay. -/
def SetsLevel (word : String) (before after : Value) : Prop :=
  ∃ entries changed, before.opened = .mapping entries ∧ after = .mapping changed ∧
    Value.get? changed "level" = some (.text word) ∧
    ∀ key, key ≠ "level" → Value.get? changed key = Value.get? entries key

theorem setsLevel_of_setLevel (hset : setLevel word before = .ok after) : SetsLevel word before after := by
  unfold setLevel at hset
  split at hset
  · rename_i entries hopened
    obtain rfl := Except.ok.inj hset
    exact ⟨entries, _, hopened, rfl, Value.get?_put_self, fun key hkey => Value.get?_put_of_ne hkey⟩
  · exact absurd hset (by nofun)
  · exact absurd hset (by nofun)

theorem exists_setLevel_iff (word : String) :
    (∃ after, setLevel word before = .ok after) ↔ IsMapping before := by
  constructor
  · intro hset
    obtain ⟨after, hset⟩ := hset
    obtain ⟨entries, _, hopened, -⟩ := setsLevel_of_setLevel hset
    exact ⟨entries, hopened⟩
  · intro hmapping
    obtain ⟨entries, hopened⟩ := hmapping
    exact ⟨_, by rw [setLevel, hopened]⟩

/-- That a part has no place for a level is foreseen. -/
theorem isForeseen_of_setLevel (hset : setLevel word before = .error problem) : problem.isForeseen := by
  unfold setLevel at hset
  split at hset
  · exact absurd hset (by nofun)
  · obtain rfl := Except.error.inj hset
    rfl
  · obtain rfl := Except.error.inj hset
    rfl

/-- A handler before and after the level is asked for: one with a higher level gets this one, and any other
stays as it is. -/
inductive LowersHandler (word : String) (level : Level) (before : Value) : Value → Prop
  | lowered {after current : Value} {entries : List (Value × Value)} {other : Level}
      (hopened : before.opened = .mapping entries) (hcurrent : Value.get? entries "level" = some current)
      (hother : comparedLevel current = .ok other) (hhigher : level < other)
      (hset : SetsLevel word before after) : LowersHandler word level before after
  | kept
      (hlow : ∀ entries current, before.opened = .mapping entries →
        Value.get? entries "level" = some current →
          ∃ other, comparedLevel current = .ok other ∧ other ≤ level) :
      LowersHandler word level before before

theorem isForeseen_of_comparedLevel {current : Value} (hcompared : comparedLevel current = .error problem) :
    problem.isForeseen := by
  unfold comparedLevel at hcompared
  split at hcompared
  · exact absurd hcompared (by nofun)
  · exact absurd hcompared (by nofun)
  · exact absurd hcompared (by nofun)
  · obtain rfl := Except.error.inj hcompared
    rfl

/-- A handler has no level to compare with, or is a mapping with one. -/
theorem lowerHandler_cases (level : Level) (word : String) (before : Value) :
    ((∀ entries, before.opened = .mapping entries → Value.get? entries "level" = none) ∧
        lowerHandler level word before = .ok before) ∨
      ∃ entries current, before.opened = .mapping entries ∧
        Value.get? entries "level" = some current ∧
        lowerHandler level word before = (comparedLevel current).bind fun other =>
          if level < other then setLevel word before else .ok before := by
  by_cases hlevel : ∃ entries current, before.opened = .mapping entries ∧
      Value.get? entries "level" = some current
  · obtain ⟨entries, current, hopened, hcurrent⟩ := hlevel
    refine .inr ⟨entries, current, hopened, hcurrent, ?_⟩
    simp only [lowerHandler, hopened, hcurrent]
    rfl
  · have hnone : ∀ entries, before.opened = .mapping entries → Value.get? entries "level" = none := by
      intro entries hopened
      rw [Option.eq_none_iff_forall_ne_some]
      exact fun current hcurrent => hlevel ⟨entries, current, hopened, hcurrent⟩
    refine .inl ⟨hnone, ?_⟩
    unfold lowerHandler
    split
    · rename_i entries hopened
      rw [hnone entries hopened]
      rfl
    · rfl

theorem lowersHandler_of_lowerHandler (hlowered : lowerHandler level word before = .ok after) :
    LowersHandler word level before after := by
  rcases lowerHandler_cases level word before with ⟨hnone, heq⟩ | ⟨entries, current, hopened, hcurrent, heq⟩
  · obtain rfl := Except.ok.inj (heq.symm.trans hlowered)
    refine .kept fun entries current hopened hcurrent => ?_
    rw [hnone entries hopened] at hcurrent
    exact absurd hcurrent (by nofun)
  · obtain ⟨other, hother, hafter⟩ := except_bind_eq_ok.mp (heq.symm.trans hlowered)
    by_cases hhigher : level < other
    · rw [if_pos hhigher] at hafter
      exact .lowered hopened hcurrent hother hhigher (setsLevel_of_setLevel hafter)
    · rw [if_neg hhigher] at hafter
      obtain rfl := Except.ok.inj hafter
      refine .kept fun others again hopens hagain => ?_
      obtain rfl := Value.mapping.inj (hopened.symm.trans hopens)
      obtain rfl := Option.some.inj (hcurrent.symm.trans hagain)
      exact ⟨other, hother, Int.not_lt.mp hhigher⟩

theorem isForeseen_of_lowerHandler (hlowered : lowerHandler level word before = .error problem) :
    problem.isForeseen := by
  rcases lowerHandler_cases level word before with ⟨-, heq⟩ | ⟨entries, current, -, -, heq⟩
  · exact absurd (heq.symm.trans hlowered) (by nofun)
  · rcases except_bind_eq_error.mp (heq.symm.trans hlowered) with hcompared | ⟨other, -, hset⟩
    · exact isForeseen_of_comparedLevel hcompared
    · by_cases hhigher : level < other
      · rw [if_pos hhigher] at hset
        exact isForeseen_of_setLevel hset
      · rw [if_neg hhigher] at hset
        exact absurd hset (by nofun)

/-! ## Sections -/

/-- A section is there and is no mapping of parts. -/
def HasNoParts (entries : List (Value × Value)) (section_ : String) : Prop :=
  ∃ value, Value.get? entries section_ = some value ∧ ¬ IsMapping value

/-- A section before and after all its parts are changed under their names. -/
inductive ChangesParts (change : Value → Value → Prop) : Option Value → Option Value → Prop
  | absent : ChangesParts change none none
  | parts {value : Value} {parts changed : List (Value × Value)} (hvalue : value.opened = .mapping parts)
      (hparts : List.Forall₂ (fun before after => after.1 = before.1 ∧ change before.2 after.2)
        parts changed) :
      ChangesParts change (some value) (some (.mapping changed))

theorem ChangesParts.exists_of_after {change : Value → Value → Prop} {before : Option Value} {after : Value}
    (hchanges : ChangesParts change before (some after)) :
    ∃ value parts changed, before = some value ∧ value.opened = .mapping parts ∧ after = .mapping changed ∧
      List.Forall₂ (fun before after => after.1 = before.1 ∧ change before.2 after.2) parts changed := by
  cases hchanges with
  | parts hvalue hparts => exact ⟨_, _, _, rfl, hvalue, rfl, hparts⟩

theorem ChangesParts.exists_of_before {change : Value → Value → Prop} {before : Value} {after : Option Value}
    {parts : List (Value × Value)} (hchanges : ChangesParts change (some before) after)
    (hparts : before.opened = .mapping parts) :
    ∃ changed, after = some (.mapping changed) ∧
      List.Forall₂ (fun before after => after.1 = before.1 ∧ change before.2 after.2) parts changed := by
  cases hchanges with
  | parts hvalue hchanged =>
    obtain rfl := Value.mapping.inj (hvalue.symm.trans hparts)
    exact ⟨_, rfl, hchanged⟩

/-- Changes a part under its name. -/
def changeNamed (change : Value → Except Problem Value) (entry : Value × Value) :
    Except Problem (Value × Value) :=
  (change entry.2).map (entry.1, ·)

section

variable {change : Value → Except Problem Value} {value : Value} {parts : List (Value × Value)}

theorem changeParts_of_none (change : Value → Except Problem Value)
    (hnone : Value.get? entries section_ = none) : changeParts section_ change entries = .ok entries := by
  rw [changeParts, hnone]
  rfl

theorem changeParts_of_mapping (change : Value → Except Problem Value)
    (hsection : Value.get? entries section_ = some value) (hopened : value.opened = .mapping parts) :
    changeParts section_ change entries =
      (parts.mapM (changeNamed change)).map fun changed =>
        Value.put entries (.text section_) (.mapping changed) := by
  rw [changeParts, hsection, Option.map_some, hopened]
  show (do
    let changed ← parts.mapM (changeNamed change)
    return Value.put entries (.text section_) (.mapping changed)) = _
  cases parts.mapM (changeNamed change) <;> rfl

theorem changeParts_of_hasNoParts (change : Value → Except Problem Value)
    (hparts : HasNoParts entries section_) :
    ∃ kind, changeParts section_ change entries = .error (.noParts kind) := by
  obtain ⟨value, hsection, hmapping⟩ := hparts
  rw [changeParts, hsection, Option.map_some]
  split
  · rename_i heq
    exact absurd heq (by nofun)
  · rename_i parts heq
    exact absurd ⟨parts, Option.some.inj heq⟩ hmapping
  · exact ⟨_, rfl⟩

theorem section_cases (entries : List (Value × Value)) (section_ : String) :
    Value.get? entries section_ = none ∨
      (∃ value parts, Value.get? entries section_ = some value ∧ value.opened = .mapping parts) ∨
      HasNoParts entries section_ := by
  cases hsection : Value.get? entries section_ with
  | none => exact .inl rfl
  | some value =>
    by_cases hmapping : IsMapping value
    · obtain ⟨parts, hopened⟩ := hmapping
      exact .inr (.inl ⟨value, parts, rfl, hopened⟩)
    · exact .inr (.inr ⟨value, hsection, hmapping⟩)

/-- Where parts are changed, only their section changes. -/
theorem changesParts_of_changeParts {Change : Value → Value → Prop}
    (hchange : ∀ before after, change before = .ok after → Change before after)
    (hchanged : changeParts section_ change entries = .ok changed) :
    ChangesParts Change (Value.get? entries section_) (Value.get? changed section_) ∧
      ∀ key, key ≠ section_ → Value.get? changed key = Value.get? entries key := by
  rcases section_cases entries section_ with hnone | ⟨value, parts, hsection, hopened⟩ | hparts
  · rw [changeParts_of_none change hnone] at hchanged
    obtain rfl := Except.ok.inj hchanged
    rw [hnone]
    exact ⟨.absent, fun _ _ => rfl⟩
  · rw [changeParts_of_mapping change hsection hopened] at hchanged
    obtain ⟨made, hmade, rfl⟩ := except_map_eq_ok.mp hchanged
    rw [hsection, Value.get?_put_self]
    refine ⟨.parts hopened ?_, fun key hkey => Value.get?_put_of_ne hkey⟩
    refine (mapM_eq_ok.mp hmade).imp fun before after hentry => ?_
    obtain ⟨part, hpart, rfl⟩ := except_map_eq_ok.mp hentry
    exact ⟨rfl, hchange _ _ hpart⟩
  · obtain ⟨kind, heq⟩ := changeParts_of_hasNoParts change hparts
    exact absurd (heq.symm.trans hchanged) (by nofun)

/-- Where parts cannot be changed, there are none, or one of them cannot. -/
theorem changeParts_eq_error (hchanged : changeParts section_ change entries = .error problem) :
    HasNoParts entries section_ ∨
      ∃ value parts, Value.get? entries section_ = some value ∧ value.opened = .mapping parts ∧
        ∃ entry ∈ parts, change entry.2 = .error problem := by
  rcases section_cases entries section_ with hnone | ⟨value, parts, hsection, hopened⟩ | hparts
  · exact absurd ((changeParts_of_none change hnone).symm.trans hchanged) (by nofun)
  · rw [changeParts_of_mapping change hsection hopened, except_map_eq_error] at hchanged
    obtain ⟨entry, hmem, hentry⟩ := exists_of_mapM_eq_error hchanged
    exact .inr ⟨value, parts, hsection, hopened, entry, hmem, except_map_eq_error.mp hentry⟩
  · exact .inl hparts

end

/-! ## Settings -/

/-- The root with a level, if there is one. -/
def setRootLevel (word : String) (entries : List (Value × Value)) :
    Except Problem (List (Value × Value)) :=
  match Value.get? entries "root" with
  | none => .ok entries
  | some root => (setLevel word root).map (Value.put entries (.text "root"))

theorem setRootLevel_of_none (word : String) (hroot : Value.get? entries "root" = none) :
    setRootLevel word entries = .ok entries := by
  rw [setRootLevel, hroot]

theorem setRootLevel_of_some {root : Value} (word : String) (hroot : Value.get? entries "root" = some root) :
    setRootLevel word entries = (setLevel word root).map (Value.put entries (.text "root")) := by
  rw [setRootLevel, hroot]

theorem setsLevel_of_setRootLevel (hset : setRootLevel word entries = .ok changed) :
    Option.Rel (SetsLevel word) (Value.get? entries "root") (Value.get? changed "root") ∧
      ∀ key, key ≠ "root" → Value.get? changed key = Value.get? entries key := by
  cases hroot : Value.get? entries "root" with
  | none =>
    obtain rfl := Except.ok.inj ((setRootLevel_of_none word hroot).symm.trans hset)
    rw [hroot]
    exact ⟨.none, fun _ _ => rfl⟩
  | some root =>
    rw [setRootLevel_of_some word hroot] at hset
    obtain ⟨after, hpart, rfl⟩ := except_map_eq_ok.mp hset
    rw [Value.get?_put_self]
    exact ⟨.some (setsLevel_of_setLevel hpart), fun key hkey => Value.get?_put_of_ne hkey⟩

theorem isForeseen_of_setRootLevel (hset : setRootLevel word entries = .error problem) :
    problem.isForeseen := by
  cases hroot : Value.get? entries "root" with
  | none => exact absurd ((setRootLevel_of_none word hroot).symm.trans hset) (by nofun)
  | some root =>
    rw [setRootLevel_of_some word hroot] at hset
    exact isForeseen_of_setLevel (except_map_eq_error.mp hset)

/-- Setting levels takes three steps. -/
theorem withLevel_eq (hlevel : Level.ofWord? word = some level) :
    withLevel word entries =
      (changeParts "loggers" (setLevel (Level.capitals word)) entries).bind fun first =>
        (setRootLevel (Level.capitals word) first).bind
          (changeParts "handlers" (lowerHandler level (Level.capitals word))) := by
  rw [withLevel, hlevel]
  refine congrArg (Except.bind _) (funext fun first => ?_)
  dsimp only [setRootLevel]
  cases Value.get? first "root" <;> rfl

/-- Settings before and after a level has taken the place of theirs. -/
structure AtLevel (word : String) (level : Level) (entries settings : List (Value × Value)) : Prop where
  loggers : ChangesParts (SetsLevel word) (Value.get? entries "loggers") (Value.get? settings "loggers")
  root : Option.Rel (SetsLevel word) (Value.get? entries "root") (Value.get? settings "root")
  handlers : ChangesParts (LowersHandler word level) (Value.get? entries "handlers")
    (Value.get? settings "handlers")
  others : ∀ key, key ≠ "loggers" → key ≠ "root" → key ≠ "handlers" →
    Value.get? settings key = Value.get? entries key

theorem atLevel_of_withLevel (hsettings : withLevel word entries = .ok settings) :
    ∃ level, Level.ofWord? word = some level ∧
      AtLevel (Level.capitals word) level entries settings := by
  cases hlevel : Level.ofWord? word with
  | none =>
    rw [withLevel, hlevel] at hsettings
    exact absurd hsettings (by nofun)
  | some level =>
    rw [withLevel_eq hlevel] at hsettings
    obtain ⟨first, hfirst, hrest⟩ := except_bind_eq_ok.mp hsettings
    obtain ⟨second, hsecond, hthird⟩ := except_bind_eq_ok.mp hrest
    have hloggers := changesParts_of_changeParts (fun _ _ => setsLevel_of_setLevel) hfirst
    have hroot := setsLevel_of_setRootLevel hsecond
    have hhandlers := changesParts_of_changeParts (fun _ _ => lowersHandler_of_lowerHandler) hthird
    refine ⟨level, rfl, ?_, ?_, ?_, ?_⟩
    · rw [hhandlers.2 "loggers" (by decide), hroot.2 "loggers" (by decide)]
      exact hloggers.1
    · rw [hhandlers.2 "root" (by decide), ← hloggers.2 "root" (by decide)]
      exact hroot.1
    · rw [← hloggers.2 "handlers" (by decide), ← hroot.2 "handlers" (by decide)]
      exact hhandlers.1
    · intro key hnotLoggers hnotRoot hnotHandlers
      rw [hhandlers.2 key hnotHandlers, hroot.2 key hnotRoot, hloggers.2 key hnotLoggers]

theorem AtLevel.exists_root_after {root : Value} (hat : AtLevel word level entries settings)
    (hroot : Value.get? entries "root" = some root) :
    ∃ after, Value.get? settings "root" = some after ∧ SetsLevel word root after := by
  have hset := hat.root
  rw [hroot] at hset
  generalize Value.get? settings "root" = after at hset
  cases hset with
  | some hset => exact ⟨_, rfl, hset⟩

theorem AtLevel.exists_root_before {root : Value} (hat : AtLevel word level entries settings)
    (hroot : Value.get? settings "root" = some root) :
    ∃ before, Value.get? entries "root" = some before ∧ SetsLevel word before root := by
  have hset := hat.root
  rw [hroot] at hset
  generalize Value.get? entries "root" = before at hset
  cases hset with
  | some hset => exact ⟨_, rfl, hset⟩

/-! ## Sections without parts -/

/-- All loggers that the settings name, and the root, have a place for a level. -/
structure TakesLevel (entries : List (Value × Value)) : Prop where
  loggers : ∀ value parts, Value.get? entries "loggers" = some value → value.opened = .mapping parts →
    ∀ entry ∈ parts, IsMapping entry.2
  root : ∀ root, Value.get? entries "root" = some root → IsMapping root

/-- A section without parts is come across: that of the loggers, or that of the handlers when levels are
set in all the rest. -/
def MeetsNoParts (entries : List (Value × Value)) : Prop :=
  HasNoParts entries "loggers" ∨ TakesLevel entries ∧ HasNoParts entries "handlers"

/-- The first two steps, after which the handlers are as they were. -/
def SetsLevels (word : String) (entries changed : List (Value × Value)) : Prop :=
  ∃ first, changeParts "loggers" (setLevel word) entries = .ok first ∧
    setRootLevel word first = .ok changed

theorem SetsLevels.get?_handlers (hset : SetsLevels word entries changed) :
    Value.get? changed "handlers" = Value.get? entries "handlers" := by
  obtain ⟨first, hfirst, hsecond⟩ := hset
  have hloggers := changesParts_of_changeParts (fun _ _ => setsLevel_of_setLevel) hfirst
  rw [(setsLevel_of_setRootLevel hsecond).2 "handlers" (by decide), hloggers.2 "handlers" (by decide)]

theorem SetsLevels.takesLevel (hset : SetsLevels word entries changed) : TakesLevel entries := by
  obtain ⟨first, hfirst, hsecond⟩ := hset
  constructor
  · intro value parts hsection hopened entry hentry
    rw [changeParts_of_mapping _ hsection hopened] at hfirst
    obtain ⟨made, hmade, -⟩ := except_map_eq_ok.mp hfirst
    obtain ⟨result, -, hresult⟩ := exists_mem_of_forall₂ (mapM_eq_ok.mp hmade) hentry
    obtain ⟨part, hpart, -⟩ := except_map_eq_ok.mp hresult
    exact (exists_setLevel_iff word).mp ⟨part, hpart⟩
  · intro root hroot
    have hloggers := changesParts_of_changeParts (fun _ _ => setsLevel_of_setLevel) hfirst
    rw [setRootLevel_of_some word ((hloggers.2 "root" (by decide)).trans hroot)] at hsecond
    obtain ⟨part, hpart, -⟩ := except_map_eq_ok.mp hsecond
    exact (exists_setLevel_iff word).mp ⟨part, hpart⟩

theorem TakesLevel.exists_setsLevels (htakes : TakesLevel entries) (word : String)
    (hparts : ¬ HasNoParts entries "loggers") : ∃ changed, SetsLevels word entries changed := by
  obtain ⟨first, hfirst⟩ : ∃ first, changeParts "loggers" (setLevel word) entries = .ok first := by
    cases hchanged : changeParts "loggers" (setLevel word) entries with
    | ok first => exact ⟨first, rfl⟩
    | error problem =>
      rcases changeParts_eq_error hchanged with hnone | ⟨value, parts, hsection, hopened, entry, hmem, hset⟩
      · exact absurd hnone hparts
      · have hmapping := htakes.loggers value parts hsection hopened entry hmem
        obtain ⟨after, hafter⟩ := (exists_setLevel_iff word).mpr hmapping
        exact absurd (hset.symm.trans hafter) (by nofun)
  have hloggers := changesParts_of_changeParts (fun _ _ => setsLevel_of_setLevel) hfirst
  cases hroot : Value.get? first "root" with
  | none => exact ⟨first, first, hfirst, setRootLevel_of_none word hroot⟩
  | some root =>
    have hmapping := htakes.root root ((hloggers.2 "root" (by decide)).symm.trans hroot)
    obtain ⟨after, hafter⟩ := (exists_setLevel_iff word).mpr hmapping
    refine ⟨Value.put first (.text "root") after, first, hfirst, ?_⟩
    rw [setRootLevel_of_some word hroot, hafter]
    rfl

/-- Setting levels ends with a problem that is not foreseen if and only if a section without parts is come
across on the way. -/
theorem withLevel_unforeseen_iff :
    (∃ problem, withLevel word entries = .error problem ∧ problem.isForeseen = false) ↔
      (Level.ofWord? word).isSome ∧ MeetsNoParts entries := by
  cases hlevel : Level.ofWord? word with
  | none =>
    have hinvalid : withLevel word entries = .error (.invalidLevel word) := by rw [withLevel, hlevel]
    simp [hinvalid, Problem.isForeseen]
  | some level =>
    rw [withLevel_eq hlevel, Option.isSome_some, eq_self_iff_true, true_and]
    constructor
    · intro hfails
      obtain ⟨problem, hproblem, hforeseen⟩ := hfails
      have hunforeseen : ¬ problem.isForeseen := by simp [hforeseen]
      rcases except_bind_eq_error.mp hproblem with hfirst | ⟨first, hfirst, hrest⟩
      · rcases changeParts_eq_error hfirst with hnone | ⟨_, _, -, -, entry, -, hset⟩
        · exact .inl hnone
        · exact absurd (isForeseen_of_setLevel hset) hunforeseen
      · rcases except_bind_eq_error.mp hrest with hsecond | ⟨second, hsecond, hthird⟩
        · exact absurd (isForeseen_of_setRootLevel hsecond) hunforeseen
        · have hset : SetsLevels _ entries second := ⟨first, hfirst, hsecond⟩
          rcases changeParts_eq_error hthird with hnone | ⟨_, _, -, -, entry, -, hlower⟩
          · rw [HasNoParts, hset.get?_handlers] at hnone
            exact .inr ⟨hset.takesLevel, hnone⟩
          · exact absurd (isForeseen_of_lowerHandler hlower) hunforeseen
    · intro hmeets
      by_cases hparts : HasNoParts entries "loggers"
      · obtain ⟨kind, hkind⟩ := changeParts_of_hasNoParts (setLevel (Level.capitals word)) hparts
        exact ⟨.noParts kind, by rw [hkind]; rfl, rfl⟩
      · obtain ⟨htakes, hhandlers⟩ := hmeets.resolve_left hparts
        obtain ⟨second, hset⟩ := htakes.exists_setsLevels (Level.capitals word) hparts
        have hnone : HasNoParts second "handlers" := by rwa [HasNoParts, hset.get?_handlers]
        obtain ⟨first, hfirst, hsecond⟩ := hset
        obtain ⟨kind, hkind⟩ := changeParts_of_hasNoParts
          (lowerHandler level (Level.capitals word)) hnone
        refine ⟨.noParts kind, ?_, rfl⟩
        simp only [hfirst, hsecond, Except.bind, hkind]

end PageGraft.Log
