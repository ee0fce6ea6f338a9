import Mathlib

/-!
# Work that can fail

Work is done on the items of a list in turn, and the first one that fails ends it (`mapM_eq_ok`,
`exists_of_mapM_eq_error`).

Work can also change a state. What work that succeeds has done is read off its parts (`run_bind_eq_ok`).
`KeepsUnless` says that something about the state is still true when work has succeeded, and how the work can
fail; there is one rule for each way in which work is put together.
-/

namespace PageGraft

variable {ε σ α β : Type}

/-! ## Results -/

section

variable {result : Except ε α} {next : α → Except ε β} {change : α → β} {value : β} {fault : ε}

theorem except_bind_eq_ok :
    result.bind next = .ok value ↔ ∃ first, result = .ok first ∧ next first = .ok value := by
  cases result <;> simp [Except.bind]

theorem except_bind_eq_error :
    result.bind next = .error fault ↔
      result = .error fault ∨ ∃ first, result = .ok first ∧ next first = .error fault := by
  cases result <;> simp [Except.bind]

theorem except_map_eq_ok :
    result.map change = .ok value ↔ ∃ first, result = .ok first ∧ change first = value := by
  cases result <;> simp [Except.map]

theorem except_map_eq_error : result.map change = .error fault ↔ result = .error fault := by
  cases result <;> simp [Except.map]

end

/-! ## Items in turn -/

theorem mapM_cons_eq {make : α → Except ε β} {item : α} {items : List α} :
    (item :: items).mapM make =
      (make item).bind fun first => (items.mapM make).map fun rest => first :: rest := by
  rw [List.mapM_cons]
  cases make item with
  | error fault => rfl
  | ok first => cases items.mapM make <;> rfl

theorem mapM_eq_ok {make : α → Except ε β} {items : List α} {results : List β} :
    items.mapM make = .ok results ↔
      List.Forall₂ (fun item result => make item = .ok result) items results := by
  induction items generalizing results with
  | nil => exact ⟨fun h => Except.ok.inj h ▸ .nil, fun h => by cases h; rfl⟩
  | cons item items ih =>
    rw [mapM_cons_eq, except_bind_eq_ok]
    simp only [except_map_eq_ok, ih, List.forall₂_cons_left_iff]
    constructor
    · intro hmade
      obtain ⟨first, hfirst, rest, hrest, rfl⟩ := hmade
      exact ⟨first, rest, hfirst, hrest, rfl⟩
    · intro hmade
      obtain ⟨first, rest, hfirst, hrest, rfl⟩ := hmade
      exact ⟨first, hfirst, rest, hrest, rfl⟩

theorem exists_of_mapM_eq_error {make : α → Except ε β} {items : List α} {fault : ε}
    (hmade : items.mapM make = .error fault) : ∃ item ∈ items, make item = .error fault := by
  induction items with
  | nil => exact absurd hmade (by nofun)
  | cons item items ih =>
    rw [mapM_cons_eq, except_bind_eq_error] at hmade
    rcases hmade with hfirst | ⟨first, -, hrest⟩
    · exact ⟨item, List.mem_cons_self, hfirst⟩
    · obtain ⟨found, hfound, hmake⟩ := ih (except_map_eq_error.mp hrest)
      exact ⟨found, List.mem_cons_of_mem _ hfound, hmake⟩

theorem exists_mem_of_forall₂ {R : α → β → Prop} {items : List α} {results : List β} {item : α}
    (hrelated : List.Forall₂ R items results) (hmem : item ∈ items) : ∃ result ∈ results, R item result := by
  induction hrelated with
  | nil => exact absurd hmem List.not_mem_nil
  | @cons first result items results hfirst _ ih =>
    rcases List.mem_cons.mp hmem with rfl | hmem
    · exact ⟨result, List.mem_cons_self, hfirst⟩
    · obtain ⟨found, hfound, hrelated⟩ := ih hmem
      exact ⟨found, List.mem_cons_of_mem _ hfound, hrelated⟩

/-! ## Work in two parts -/

section

variable {work : ExceptT ε (StateM σ) α} {next : α → ExceptT ε (StateM σ) β} {state middle : σ}

theorem run_bind_of_ok {value : α} (hwork : work.run state = (.ok value, middle)) :
    (work >>= next).run state = (next value).run middle := by
  show (match work.run state with
    | (result, middle) => ExceptT.bindCont next result middle) = _
  rw [hwork]
  rfl

theorem run_bind_of_error {fault : ε} (hwork : work.run state = (.error fault, middle)) :
    (work >>= next).run state = (.error fault, middle) := by
  show (match work.run state with
    | (result, middle) => ExceptT.bindCont next result middle) = _
  rw [hwork]
  rfl

theorem run_bind_eq_ok {result : β} {final : σ} :
    (work >>= next).run state = (.ok result, final) ↔
      ∃ value middle, work.run state = (.ok value, middle) ∧
        (next value).run middle = (.ok result, final) := by
  constructor
  · intro hrun
    cases hwork : work.run state with
    | mk found middle =>
      cases found with
      | ok value =>
        rw [run_bind_of_ok hwork] at hrun
        exact ⟨value, middle, rfl, hrun⟩
      | error fault =>
        rw [run_bind_of_error hwork] at hrun
        exact absurd (congrArg Prod.fst hrun) (by nofun)
  · intro hparts
    obtain ⟨value, middle, hwork, hnext⟩ := hparts
    rw [run_bind_of_ok hwork, hnext]

end

/-! ## What is kept -/

/-- Something stays true of the state under work, unless the work fails, and then in one of some ways. -/
structure KeepsUnless (F : ε → Prop) (P : σ → Prop) (work : ExceptT ε (StateM σ) α) : Prop where
  of_ok : ∀ {state value final}, work.run state = (.ok value, final) → P state → P final
  of_error : ∀ {state fault final}, work.run state = (.error fault, final) → P state → F fault

/-- Something stays true of the state under work that succeeds. -/
abbrev Keeps (P : σ → Prop) (work : ExceptT ε (StateM σ) α) : Prop :=
  KeepsUnless (fun _ => True) P work

variable {F : ε → Prop} {P : σ → Prop}

theorem keeps_of_ok {work : ExceptT ε (StateM σ) α}
    (hok : ∀ state value final, work.run state = (.ok value, final) → P state → P final) : Keeps P work :=
  ⟨hok _ _ _, fun _ _ => trivial⟩

theorem keeps_pure (value : α) : KeepsUnless F P (pure value : ExceptT ε (StateM σ) α) := by
  constructor
  · intro state value final hrun hstate
    exact (Prod.mk.inj hrun).2 ▸ hstate
  · intro state fault final hrun hstate
    exact absurd (Prod.mk.inj hrun).1 (by nofun)

theorem keeps_throw {fault : ε} (hfault : F fault) :
    KeepsUnless F P (throw fault : ExceptT ε (StateM σ) α) := by
  constructor
  · intro state value final hrun hstate
    exact absurd (Prod.mk.inj hrun).1 (by nofun)
  · intro state other final hrun hstate
    exact Except.error.inj (Prod.mk.inj hrun).1 ▸ hfault

theorem keeps_liftM {result : Except ε α} (hfault : ∀ fault, result = .error fault → F fault) :
    KeepsUnless F P (liftM result : ExceptT ε (StateM σ) α) := by
  cases result with
  | ok value => exact keeps_pure value
  | error fault => exact keeps_throw (hfault fault rfl)

theorem keeps_modifyGet {change : σ → α × σ} (hchange : ∀ state, P state → P (change state).2) :
    KeepsUnless F P (modifyGet change : ExceptT ε (StateM σ) α) := by
  constructor
  · intro state value final hrun hstate
    exact (Prod.mk.inj hrun).2 ▸ hchange state hstate
  · intro state fault final hrun hstate
    exact absurd (Prod.mk.inj hrun).1 (by nofun)

theorem keeps_modify {change : σ → σ} (hchange : ∀ state, P state → P (change state)) :
    KeepsUnless F P (modify change : ExceptT ε (StateM σ) PUnit) :=
  keeps_modifyGet hchange

theorem KeepsUnless.bind {work : ExceptT ε (StateM σ) α} {next : α → ExceptT ε (StateM σ) β}
    (hwork : KeepsUnless F P work) (hnext : ∀ value, KeepsUnless F P (next value)) :
    KeepsUnless F P (work >>= next) := by
  constructor
  · intro state result final hrun hstate
    obtain ⟨value, middle, hfirst, hsecond⟩ := run_bind_eq_ok.mp hrun
    exact (hnext value).of_ok hsecond (hwork.of_ok hfirst hstate)
  · intro state fault final hrun hstate
    cases hfirst : work.run state with
    | mk found middle =>
      cases found with
      | ok value =>
        rw [run_bind_of_ok hfirst] at hrun
        exact (hnext value).of_error hrun (hwork.of_ok hfirst hstate)
      | error first =>
        rw [run_bind_of_error hfirst] at hrun
        exact Except.error.inj (Prod.mk.inj hrun).1 ▸ hwork.of_error hfirst hstate

/-- What is read from the state can be used to say what is kept. -/
theorem keeps_get_bind {next : σ → ExceptT ε (StateM σ) β}
    (hnext : ∀ state, P state → KeepsUnless F P (next state)) :
    KeepsUnless F P (get >>= next : ExceptT ε (StateM σ) β) := by
  constructor
  · intro state value final hrun hstate
    exact (hnext state hstate).of_ok hrun hstate
  · intro state fault final hrun hstate
    exact (hnext state hstate).of_error hrun hstate

theorem keeps_forM {items : List α} {work : α → ExceptT ε (StateM σ) PUnit}
    (hwork : ∀ item ∈ items, KeepsUnless F P (work item)) : KeepsUnless F P (items.forM work) := by
  induction items with
  | nil => exact keeps_pure _
  | cons item items ih =>
    refine (hwork item List.mem_cons_self).bind fun _ => ?_
    exact ih fun other hother => hwork other (List.mem_cons_of_mem _ hother)

theorem keeps_mapM {items : List α} {work : α → ExceptT ε (StateM σ) β}
    (hwork : ∀ item ∈ items, KeepsUnless F P (work item)) : KeepsUnless F P (items.mapM work) := by
  induction items with
  | nil => exact keeps_pure _
  | cons item items ih =>
    rw [List.mapM_cons]
    refine (hwork item List.mem_cons_self).bind fun _ => ?_
    refine KeepsUnless.bind ?_ fun _ => keeps_pure _
    exact ih fun other hother => hwork other (List.mem_cons_of_mem _ hother)

theorem keeps_foldlM {items : List α} {work : β → α → ExceptT ε (StateM σ) β}
    (hwork : ∀ start, ∀ item ∈ items, KeepsUnless F P (work start item)) (start : β) :
    KeepsUnless F P (items.foldlM work start) := by
  induction items generalizing start with
  | nil => exact keeps_pure _
  | cons item items ih =>
    rw [List.foldlM_cons]
    refine (hwork start item List.mem_cons_self).bind fun next => ?_
    exact ih (fun other item hitem => hwork other item (List.mem_cons_of_mem _ hitem)) next

/-! ## What is done for every item -/

section

variable {items : List α} {state final : σ}

/-- What is done for one item, and kept by the work on the others, is done for all of them in the end. -/
theorem forall₂_of_mapM {work : α → ExceptT ε (StateM σ) β} {Q : α → β → σ → Prop} {values : List β}
    (hkeeps : ∀ item, Keeps P (work item))
    (hdone : ∀ item state value final, P state → (work item).run state = (.ok value, final) →
      Q item value final)
    (hstays : ∀ item value other, Keeps (Q item value) (work other)) (hstate : P state)
    (hrun : (items.mapM work).run state = (.ok values, final)) :
    List.Forall₂ (fun item value => Q item value final) items values := by
  induction items generalizing state values with
  | nil =>
    obtain rfl := Except.ok.inj (Prod.mk.inj hrun).1
    exact .nil
  | cons item items ih =>
    rw [List.mapM_cons] at hrun
    obtain ⟨value, middle, hfirst, hrun⟩ := run_bind_eq_ok.mp hrun
    obtain ⟨rest, last, hrest, hrun⟩ := run_bind_eq_ok.mp hrun
    obtain ⟨hvalues, hlast⟩ := Prod.mk.inj hrun
    obtain rfl := Except.ok.inj hvalues
    obtain rfl : last = final := hlast
    refine .cons ?_ (ih ((hkeeps item).of_ok hfirst hstate) hrest)
    have hvalue := hdone item state value middle hstate hfirst
    exact (keeps_mapM fun other _ => hstays item value other).of_ok hrest hvalue

theorem forall_of_forM {work : α → ExceptT ε (StateM σ) PUnit} {Q : α → σ → Prop}
    (hkeeps : ∀ item, Keeps P (work item))
    (hdone : ∀ item state final, P state → (work item).run state = (.ok ⟨⟩, final) → Q item final)
    (hstays : ∀ item other, Keeps (Q item) (work other)) (hstate : P state)
    (hrun : (items.forM work).run state = (.ok ⟨⟩, final)) : ∀ item ∈ items, Q item final := by
  induction items generalizing state with
  | nil => exact fun _ hmem => absurd hmem List.not_mem_nil
  | cons first items ih =>
    obtain ⟨_, middle, hfirst, hrest⟩ := run_bind_eq_ok.mp hrun
    intro item hmem
    rcases List.mem_cons.mp hmem with rfl | hmem
    · have hitem := hdone item state middle hstate hfirst
      exact (keeps_forM fun other _ => hstays item other).of_ok hrest hitem
    · exact ih ((hkeeps first).of_ok hfirst hstate) hrest item hmem

end

end PageGraft
