import Mathlib.Data.List.Induction
import PageGraft.Component.Extraction
import PageGraft.Proofs.Traversal

/-!
# What is found in a component

`Scope.FindsAt` gives the rules by which a node of a component gives a finding: a function that is asked
for, a state variable, an effect, or a warning. `visit_of_findsAt` and `visit_of_not_findsAt` say that a
visit adds what the rules give and nothing else, whatever was found before.

The findings of a tree are then a fold over its document order. `collect_in_document_order` says what the
fold makes of them: functions stand where their name was stored first, with the record that was stored
last; all else is listed as it was found; and there is one confirmation for each finding that is no
warning.
-/

namespace PageGraft

/-- The confirmation of a function that stood in a component in some way. -/
def FunctionKind.event : FunctionKind → EventKind
  | .plain => .functionExtracted
  | .arrow => .arrowFunctionExtracted
  | .hook => .callbackExtracted

end PageGraft

namespace PageGraft.Component

open PageGraft.Settings PageGraft.Syntax

/-! ## Findings of single nodes -/

/-- What one node gives. -/
inductive Finding where
  | function (record : FunctionRecord)
  | state (record : StateRecord)
  | effect (record : EffectRecord)
  | warning (text : String)
deriving Repr, DecidableEq

namespace Finding

def function? : Finding → Option FunctionRecord
  | .function record => some record
  | _ => none

def state? : Finding → Option StateRecord
  | .state record => some record
  | _ => none

def effect? : Finding → Option EffectRecord
  | .effect record => some record
  | _ => none

def warning? : Finding → Option String
  | .warning text => some text
  | _ => none

/-- The confirmation of a finding; an effect is confirmed by the name of its hook, and a warning is not
confirmed. -/
def event? (hook : String) : Finding → Option Event
  | .function record => some ⟨record.kind.event, record.name⟩
  | .state record => some ⟨.stateExtracted, record.reader⟩
  | .effect _ => some ⟨.effectExtracted, hook⟩
  | .warning _ => none

end Finding

/-- The findings with one more. -/
def Findings.add (hook : String) (findings : Findings) : Finding → Findings
  | .function record => findings.addFunction record.kind.event record
  | .state record => findings.addState record
  | .effect record => findings.addEffect hook record
  | .warning text => findings.warn text

variable {scope : Scope} {findings : Findings}

namespace Scope

/-- The rules by which a node, with the nodes around it, gives a finding. -/
inductive FindsAt (scope : Scope) : Node × List Node → Finding → Prop
  /-- A function is declared under a name that is asked for. -/
  | declaration {node named : Node} {ancestors : List Node} {name : String}
      (hkind : node.kind = .functionDeclaration) (hnamed : node.child? "name" = some named)
      (hname : String.ofList (scope.source.nodeText named) = name) (htarget : scope.isTarget name) :
      FindsAt scope (node, ancestors) (.function (scope.functionRecord name node .plain))
  /-- A variable of a name that is asked for holds a function. -/
  | declarator {node value : Node} {ancestors : List Node} {name : String}
      (hkind : node.kind = .variableDeclarator) (hvalue : node.child? "value" = some value)
      (hfunction : value.kind.isFunctionValue) (hname : binding? scope.source node = some name)
      (htarget : scope.isTarget name) :
      FindsAt scope (node, ancestors) (.function (scope.functionRecord name value .arrow))
  /-- A variable takes the state hook apart. -/
  | state {node value : Node} {ancestors : List Node} {record : StateRecord}
      (hkind : node.kind = .variableDeclarator) (hvalue : node.child? "value" = some value)
      (hcall : value.kind = .callExpression)
      (hhook : callee? scope.source value = some scope.extractor.stateHook)
      (hrecord : scope.stateRecord? node value = some record) :
      FindsAt scope (node, ancestors) (.state record)
  /-- The callback hook is given a function, inside a variable of a name that is asked for. -/
  | callback {node callback : Node} {ancestors : List Node} {name : String}
      (hkind : node.kind = .callExpression)
      (hhook : callee? scope.source node = some scope.extractor.callbackHook)
      (hname : (declarator? ancestors).bind (binding? scope.source) = some name)
      (htarget : scope.isTarget name) (hargument : (arguments node).head? = some callback)
      (hfunction : callback.kind.isFunctionValue) :
      FindsAt scope (node, ancestors) (.function (scope.functionRecord name callback .hook))
  /-- The callback hook is given no function, inside a variable of a name that is asked for. -/
  | warning {node : Node} {ancestors : List Node} {name : String}
      (hkind : node.kind = .callExpression)
      (hhook : callee? scope.source node = some scope.extractor.callbackHook)
      (hname : (declarator? ancestors).bind (binding? scope.source) = some name)
      (htarget : scope.isTarget name)
      (hargument : ∀ argument ∈ (arguments node).head?, argument.kind.isFunctionValue = false) :
      FindsAt scope (node, ancestors) (.warning
        (s!"{scope.extractor.callbackHook} for {name} at line {node.start.row + 1} " ++
          "has no function argument"))
  /-- The effect hook, if it is not the callback hook as well, is given something. -/
  | effect {node callback : Node} {ancestors rest : List Node}
      (hkind : node.kind = .callExpression)
      (hhook : callee? scope.source node = some scope.extractor.effectHook)
      (hother : scope.extractor.effectHook ≠ scope.extractor.callbackHook)
      (harguments : arguments node = callback :: rest) :
      FindsAt scope (node, ancestors) (.effect
        { text := String.ofList (renderEffect scope.transform scope.source callback)
          dependencies :=
            ((rest.head?.map (Component.dependencies scope.source)).getD []).map String.ofList })

end Scope

/-- A visit adds what a rule gives. -/
theorem visit_of_findsAt {place : Node × List Node} {finding : Finding}
    (hfinds : scope.FindsAt place finding) :
    scope.visit findings place = findings.add scope.extractor.effectHook finding := by
  cases hfinds with
  | declaration hkind hnamed hname htarget =>
    simp only [Scope.visit, hkind, Scope.visitDeclaration, hnamed, hname, htarget, if_true]
    rfl
  | declarator hkind hvalue hfunction hname htarget =>
    simp only [Scope.visit, hkind, Scope.visitDeclarator, hvalue, hfunction, hname, htarget, if_true]
    rfl
  | state hkind hvalue hcall hhook hrecord =>
    have hfunction : Kind.callExpression.isFunctionValue = false := rfl
    simp only [Scope.visit, hkind, Scope.visitDeclarator, hvalue, hcall, hfunction, hhook, hrecord,
      Bool.false_eq_true, if_false, decide_true, beq_self_eq_true, Bool.and_self, if_true]
    rfl
  | callback hkind hhook hname htarget hargument hfunction =>
    simp only [Scope.visit, hkind, Scope.visitCall, hhook, if_true, Scope.visitCallback, hname,
      htarget, hargument, Option.filter_some, hfunction]
    rfl
  | warning hkind hhook hname htarget hargument =>
    have hnone : (arguments _).head?.filter (·.kind.isFunctionValue) = none :=
      Option.filter_eq_none_iff.mpr (by simpa using hargument)
    simp only [Scope.visit, hkind, Scope.visitCall, hhook, if_true, Scope.visitCallback, hname,
      htarget, hnone]
    rfl
  | effect hkind hhook hother harguments =>
    simp only [Scope.visit, hkind, Scope.visitCall, hhook, hother, if_false, if_true,
      Scope.visitEffect, harguments]
    rfl

/-- A visit adds nothing where no rule applies. -/
theorem visit_of_not_findsAt {place : Node × List Node}
    (hnone : ∀ finding, ¬ scope.FindsAt place finding) : scope.visit findings place = findings := by
  obtain ⟨node, ancestors⟩ := place
  unfold Scope.visit
  dsimp only
  split
  · rename_i hkind
    unfold Scope.visitDeclaration
    split
    · rfl
    · rename_i named hnamed
      dsimp only
      split
      · rename_i htarget
        exact absurd (.declaration hkind hnamed rfl htarget) (hnone _)
      · rfl
  · rename_i hkind
    unfold Scope.visitDeclarator
    split
    · rfl
    · rename_i value hvalue
      split
      · rename_i hfunction
        split
        · rename_i name hname
          split
          · rename_i htarget
            exact absurd (.declarator hkind hvalue hfunction hname htarget) (hnone _)
          · rfl
        · rfl
      · split
        · rename_i hhook
          rw [Bool.and_eq_true, decide_eq_true_eq, beq_iff_eq] at hhook
          split
          · rename_i record hrecord
            exact absurd (.state hkind hvalue hhook.1 hhook.2 hrecord) (hnone _)
          · rfl
        · rfl
  · rename_i hkind
    unfold Scope.visitCall
    split
    · rfl
    · rename_i callee hcallee
      split
      · rename_i hhook
        rw [hhook] at hcallee
        unfold Scope.visitCallback
        split
        · rfl
        · rename_i name hname
          split
          · rename_i htarget
            -- whether the hook is given a function decides between the callback and the warning
            split
            · rename_i callback hcallback
              obtain ⟨hargument, hfunction⟩ := Option.filter_eq_some_iff.mp hcallback
              exact absurd (.callback hkind hcallee hname htarget hargument hfunction) (hnone _)
            · rename_i hcallback
              have hargument := Option.filter_eq_none_iff.mp hcallback
              exact absurd (.warning hkind hcallee hname htarget (by simpa using hargument)) (hnone _)
          · rfl
      · rename_i hother
        split
        · rename_i hhook
          rw [hhook] at hcallee hother
          unfold Scope.visitEffect
          split
          · rfl
          · rename_i callback rest harguments
            exact absurd (.effect hkind hcallee hother harguments) (hnone _)
        · rfl
  · rfl

/-! ## Findings of a tree -/

/-- What the rules give at some nodes, one after the other. A node gives at most one finding. -/
inductive Scope.FindsAlong (scope : Scope) : List (Node × List Node) → List Finding → Prop
  | done : FindsAlong scope [] []
  | finds {place : Node × List Node} {finding : Finding} {places : List (Node × List Node)}
      {found : List Finding} (hfinds : scope.FindsAt place finding)
      (hlater : FindsAlong scope places found) :
      FindsAlong scope (place :: places) (finding :: found)
  | nothing {place : Node × List Node} {places : List (Node × List Node)} {found : List Finding}
      (hnone : ∀ finding, ¬ scope.FindsAt place finding) (hlater : FindsAlong scope places found) :
      FindsAlong scope (place :: places) found

theorem exists_findsAlong (scope : Scope) (places : List (Node × List Node)) :
    ∃ found, scope.FindsAlong places found := by
  induction places with
  | nil => exact ⟨[], .done⟩
  | cons place places ih =>
    obtain ⟨found, hlater⟩ := ih
    by_cases hfinds : ∃ finding, scope.FindsAt place finding
    · obtain ⟨finding, hfinds⟩ := hfinds
      exact ⟨finding :: found, .finds hfinds hlater⟩
    · exact ⟨found, .nothing (not_exists.mp hfinds) hlater⟩

/-- Visits add what is found along the way. -/
theorem Scope.FindsAlong.foldl_visit {places : List (Node × List Node)} {found : List Finding}
    (halong : scope.FindsAlong places found) :
    places.foldl scope.visit findings =
      found.foldl (Findings.add scope.extractor.effectHook) findings := by
  induction halong generalizing findings with
  | done => rfl
  | finds hfinds hlater ih => rw [List.foldl_cons, List.foldl_cons, visit_of_findsAt hfinds, ih]
  | nothing hnone hlater ih => rw [List.foldl_cons, visit_of_not_findsAt hnone, ih]

/-- A function that is found is asked for. -/
theorem Scope.FindsAt.isTarget {place : Node × List Node} {record : FunctionRecord}
    (hfinds : scope.FindsAt place (.function record)) : scope.isTarget record.name := by
  cases hfinds with
  | declaration hkind hnamed hname htarget => exact htarget
  | declarator hkind hvalue hfunction hname htarget => exact htarget
  | callback hkind hhook hname htarget hargument hfunction => exact htarget

/-- What is found along the way is found at one of the nodes. -/
theorem Scope.FindsAlong.exists_findsAt {places : List (Node × List Node)} {found : List Finding}
    {finding : Finding} (halong : scope.FindsAlong places found) (hfinding : finding ∈ found) :
    ∃ place ∈ places, scope.FindsAt place finding := by
  induction halong with
  | done => exact absurd hfinding List.not_mem_nil
  | finds hfinds _ ih =>
    rcases List.mem_cons.mp hfinding with hsame | hlater
    · exact ⟨_, List.mem_cons_self, hsame ▸ hfinds⟩
    · obtain ⟨place, hplace, hfinds⟩ := ih hlater
      exact ⟨place, List.mem_cons_of_mem _ hplace, hfinds⟩
  | nothing _ _ ih =>
    obtain ⟨place, hplace, hfinds⟩ := ih hfinding
    exact ⟨place, List.mem_cons_of_mem _ hplace, hfinds⟩

/-- A function is stored and confirmed; that one of its name was there before shows in the log only. -/
theorem addFunction_eq (findings : Findings) (event : EventKind) (record : FunctionRecord) :
    ∃ log, findings.addFunction event record =
      { extraction :=
          { findings.extraction with
            functions := storeFunction findings.extraction.functions record }
        events := findings.events ++ [⟨event, record.name⟩]
        log } := by
  unfold Findings.addFunction
  dsimp only
  split
  · exact ⟨_, rfl⟩
  · exact ⟨_, rfl⟩

/-- Functions are stored one after the other, and all else is listed. -/
theorem foldl_add_eq (hook : String) (found : List Finding) (findings : Findings) :
    ∃ log, found.foldl (Findings.add hook) findings =
      { extraction :=
          { functions :=
              (found.filterMap Finding.function?).foldl storeFunction findings.extraction.functions
            state := findings.extraction.state ++ found.filterMap Finding.state?
            effects := findings.extraction.effects ++ found.filterMap Finding.effect?
            warnings := findings.extraction.warnings ++ found.filterMap Finding.warning? }
        events := findings.events ++ found.filterMap (Finding.event? hook)
        log } := by
  induction found generalizing findings with
  | nil => exact ⟨findings.log, by simp⟩
  | cons finding found ih =>
    obtain ⟨log, hlater⟩ := ih (findings.add hook finding)
    refine ⟨log, ?_⟩
    rw [List.foldl_cons, hlater]
    cases finding with
    | function record =>
      obtain ⟨_, hadd⟩ := addFunction_eq findings record.kind.event record
      rw [Findings.add, hadd]
      simp [List.filterMap_cons, Finding.function?, Finding.state?, Finding.effect?,
        Finding.warning?, Finding.event?]
    | state record =>
      simp [Findings.add, Findings.addState, Findings.emit, List.filterMap_cons, Finding.function?,
        Finding.state?, Finding.effect?, Finding.warning?, Finding.event?]
    | effect record =>
      simp [Findings.add, Findings.addEffect, Findings.emit, List.filterMap_cons, Finding.function?,
        Finding.state?, Finding.effect?, Finding.warning?, Finding.event?]
    | warning text =>
      simp [Findings.add, Findings.warn, List.filterMap_cons, Finding.function?,
        Finding.state?, Finding.effect?, Finding.warning?, Finding.event?]

/-! ## Functions by name -/

section

variable {functions : List FunctionRecord} {record latest : FunctionRecord}

/-- A stored function has a new place only if its name is new. -/
theorem names_storeFunction :
    (storeFunction functions record).map (·.name) =
      if record.name ∈ functions.map (·.name) then functions.map (·.name)
      else functions.map (·.name) ++ [record.name] := by
  induction functions with
  | nil => simp [storeFunction]
  | cons first functions ih =>
    rw [storeFunction]
    split
    · rename_i hname
      simp [hname]
    · rename_i hname
      have hmem : record.name ∈ (first :: functions).map (·.name) ↔
          record.name ∈ functions.map (·.name) := by
        rw [List.map_cons, List.mem_cons, or_iff_right (Ne.symm hname)]
      rw [List.map_cons, ih]
      by_cases hlater : record.name ∈ functions.map (·.name)
      · rw [if_pos hlater, if_pos (hmem.mpr hlater), List.map_cons]
      · rw [if_neg hlater, if_neg (mt hmem.mp hlater), List.map_cons, List.cons_append]

/-- A function that is there after one was stored is that one, or it was there before under another
name. -/
theorem mem_storeFunction (hfunctions : functions.Pairwise (·.name ≠ ·.name))
    (hrecord : record ∈ storeFunction functions latest) :
    record = latest ∨ record ∈ functions ∧ record.name ≠ latest.name := by
  induction functions with
  | nil => exact .inl (by simpa [storeFunction] using hrecord)
  | cons first functions ih =>
    obtain ⟨hfirst, hlater⟩ := List.pairwise_cons.mp hfunctions
    rw [storeFunction] at hrecord
    split at hrecord
    · rename_i hname
      rcases List.mem_cons.mp hrecord with hlatest | hmem
      · exact .inl hlatest
      · exact .inr ⟨List.mem_cons_of_mem _ hmem, hname ▸ (hfirst record hmem).symm⟩
    · rename_i hname
      rcases List.mem_cons.mp hrecord with hsame | hmem
      · subst hsame
        exact .inr ⟨List.mem_cons_self, hname⟩
      · rcases ih hlater hmem with hlatest | ⟨hbefore, hother⟩
        · exact .inl hlatest
        · exact .inr ⟨List.mem_cons_of_mem _ hbefore, hother⟩

/-- A stored function takes the place of the one of its name. -/
theorem pairwise_storeFunction (hfunctions : functions.Pairwise (·.name ≠ ·.name)) :
    (storeFunction functions latest).Pairwise (·.name ≠ ·.name) := by
  induction functions with
  | nil => exact List.pairwise_singleton _ _
  | cons first functions ih =>
    obtain ⟨hfirst, hlater⟩ := List.pairwise_cons.mp hfunctions
    rw [storeFunction]
    split
    · rename_i hname
      exact List.pairwise_cons.mpr ⟨fun other hother => hname ▸ hfirst other hother, hlater⟩
    · rename_i hname
      refine List.pairwise_cons.mpr ⟨?_, ih hlater⟩
      intro other hother
      rcases mem_storeFunction hlater hother with hlatest | ⟨hmem, -⟩
      · rw [hlatest]
        exact hname
      · exact hfirst other hmem

theorem pairwise_foldl_storeFunction (stored : List FunctionRecord) :
    (stored.foldl storeFunction []).Pairwise (·.name ≠ ·.name) := by
  induction stored using List.reverseRecOn with
  | nil => exact .nil
  | append_singleton stored latest ih =>
    rw [List.foldl_append]
    exact pairwise_storeFunction ih

theorem removeAll_singleton {name : String} {names : List String} :
    [name].removeAll names = if name ∈ names then [] else [name] := by
  by_cases hname : name ∈ names
  · simp [List.removeAll, hname]
  · simp [List.removeAll, hname]

/-- The names of stored functions are in the order in which they were stored first. -/
theorem names_foldl_storeFunction (stored : List FunctionRecord) :
    (stored.foldl storeFunction []).map (·.name) = (stored.map (·.name)).eraseDups := by
  induction stored using List.reverseRecOn with
  | nil => rfl
  | append_singleton stored record ih =>
    rw [List.foldl_append, List.foldl_cons, List.foldl_nil, names_storeFunction, ih, List.map_append,
      List.eraseDups_append, List.map_singleton, removeAll_singleton]
    by_cases hmem : record.name ∈ stored.map (·.name)
    · rw [if_pos (List.mem_eraseDups.mpr hmem), if_pos hmem]
      simp
    · rw [if_neg (mt List.mem_eraseDups.mp hmem), if_neg hmem]
      rfl

/-- A function has the record that was stored last under its name. -/
theorem last_foldl_storeFunction {stored : List FunctionRecord}
    (hrecord : record ∈ stored.foldl storeFunction []) :
    stored.reverse.find? (·.name == record.name) = some record := by
  induction stored using List.reverseRecOn with
  | nil => exact absurd hrecord List.not_mem_nil
  | append_singleton stored latest ih =>
    rw [List.foldl_append] at hrecord
    rw [List.reverse_append, List.reverse_singleton, List.singleton_append, List.find?_cons]
    rcases mem_storeFunction (pairwise_foldl_storeFunction stored) hrecord with
      hlatest | ⟨hbefore, hother⟩
    · rw [hlatest, beq_self_eq_true]
    · rw [beq_false_of_ne (Ne.symm hother)]
      exact ih hbefore

end

/-! ## What the findings are made of -/

/-- The findings of a component, given what was found one after the other. -/
structure Gathers (scope : Scope) (found : List Finding) (findings : Findings) : Prop where
  /-- The functions are in the order in which their names were found first. -/
  names : findings.extraction.functions.map (·.name) =
    ((found.filterMap Finding.function?).map (·.name)).eraseDups
  /-- A function is the last one that was found under its name. -/
  last : ∀ record ∈ findings.extraction.functions,
    (found.filterMap Finding.function?).reverse.find? (·.name == record.name) = some record
  target : ∀ record ∈ findings.extraction.functions,
    record.name ∈ scope.extractor.targetFunctions
  state : findings.extraction.state = found.filterMap Finding.state?
  effects : findings.extraction.effects = found.filterMap Finding.effect?
  warnings : findings.extraction.warnings = found.filterMap Finding.warning?
  events : findings.events = found.filterMap (Finding.event? scope.extractor.effectHook)

section

variable {root : Node} {found : List Finding} {record : FunctionRecord}

theorem collect_eq (halong : scope.FindsAlong (root.preorder []) found) :
    scope.collect root = found.foldl (Findings.add scope.extractor.effectHook) {} :=
  halong.foldl_visit

theorem functions_collect (halong : scope.FindsAlong (root.preorder []) found) :
    (scope.collect root).extraction.functions =
      (found.filterMap Finding.function?).foldl storeFunction [] := by
  obtain ⟨log, hadd⟩ := foldl_add_eq scope.extractor.effectHook found {}
  rw [collect_eq halong, hadd]

/-- A function of a tree is found at one of its nodes. -/
theorem exists_findsAt_of_mem_collect
    (hrecord : record ∈ (scope.collect root).extraction.functions) :
    ∃ place ∈ root.preorder [], scope.FindsAt place (.function record) := by
  obtain ⟨found, halong⟩ := exists_findsAlong scope (root.preorder [])
  rw [functions_collect halong] at hrecord
  have hstored := List.mem_of_find?_eq_some (last_foldl_storeFunction hrecord)
  obtain ⟨finding, hfinding, hpicked⟩ := List.mem_filterMap.mp (List.mem_reverse.mp hstored)
  cases finding with
  | function other =>
    obtain rfl : other = record := Option.some.inj hpicked
    exact halong.exists_findsAt hfinding
  | _ => simp [Finding.function?] at hpicked

/-- No two functions of a tree have one name. -/
theorem names_collect (scope : Scope) (root : Node) :
    (scope.collect root).extraction.functions.Pairwise (·.name ≠ ·.name) := by
  obtain ⟨found, halong⟩ := exists_findsAlong scope (root.preorder [])
  rw [functions_collect halong]
  exact pairwise_foldl_storeFunction _

theorem gathers_collect (halong : scope.FindsAlong (root.preorder []) found) :
    Gathers scope found (scope.collect root) := by
  have htarget : ∀ record ∈ (scope.collect root).extraction.functions,
      record.name ∈ scope.extractor.targetFunctions := by
    intro record hrecord
    obtain ⟨place, -, hfinds⟩ := exists_findsAt_of_mem_collect hrecord
    exact List.contains_iff_mem.mp hfinds.isTarget
  obtain ⟨log, hadd⟩ := foldl_add_eq scope.extractor.effectHook found {}
  rw [collect_eq halong, hadd] at htarget ⊢
  exact ⟨names_foldl_storeFunction _, fun _ => last_foldl_storeFunction, htarget, rfl, rfl, rfl, rfl⟩

end

/-- The findings of a component come from its nodes in document order. The visits, which are made with a
stack, go through the tree once; each visit gives a finding or none, by the rules; and the findings are
gathered from these. -/
theorem collect_in_document_order (scope : Scope) (root : Node) :
    ∃ visits found, root.IsDocumentOrder visits ∧
      (∀ {State : Type} (visit : State → Node × List Node → State) (state : State),
        walk visit [(root, [])] state = visits.foldl visit state) ∧
      scope.collect root = walk scope.visit [(root, [])] {} ∧
      scope.FindsAlong visits found ∧ Gathers scope found (scope.collect root) := by
  obtain ⟨found, halong⟩ := exists_findsAlong scope (root.preorder [])
  refine ⟨root.preorder [], found, Node.isDocumentOrder_preorder root, ?_, ?_, halong,
    gathers_collect halong⟩
  · intro State visit state
    exact walk_eq_foldl visit root state
  · rw [walk_eq_foldl]
    rfl

end PageGraft.Component
