import PageGraft.Page.Patch
import PageGraft.Proofs.Cleaning
import PageGraft.Proofs.Declaration
import PageGraft.Proofs.Findings

/-!
# Which functions are found again

A patch looks for a function by the header of its declaration. The functions that are found in a
component are looked for in the same way, and `isRecognised_iff` says which of them the search
recognises whole: the text has to be a header, parameters in parentheses, white space, and a body
that ends with the text. A declaration with a type between its parameters and its body is not of this
form, and no search finds it again.
-/

namespace PageGraft.Component

open PageGraft.Page PageGraft.Script PageGraft.Settings PageGraft.Syntax PageGraft.Text

/-! ## What is found has been cleaned -/

variable {scope : Scope}

/-- Every function that has been found was cleaned. -/
def IsCleaned (settings : TransformSettings) (findings : Findings) : Prop :=
  ∀ record ∈ findings.extraction.functions,
    ∃ code, record.text = String.ofList (clean settings code)

theorem functionRecord_text {name : String} {function : Node} {kind : FunctionKind} :
    ∃ code, (scope.functionRecord name function kind).text =
      String.ofList (clean scope.transform code) := by
  cases kind with
  | plain => exact ⟨_, rfl⟩
  | arrow => exact ⟨_, rfl⟩
  | hook => exact ⟨_, rfl⟩

/-- Every function of a tree is cleaned. -/
theorem isCleaned_collect {root : Node} : IsCleaned scope.transform (scope.collect root) := by
  intro record hrecord
  obtain ⟨place, -, hfinds⟩ := exists_findsAt_of_mem_collect hrecord
  cases hfinds with
  | declaration => exact functionRecord_text
  | declarator => exact functionRecord_text
  | callback => exact functionRecord_text

/-- A patch takes the text of a function that was found as it is. -/
theorem functionCode_of_mem_collect {root : Node} {record : FunctionRecord}
    (hrecord : record ∈ (scope.collect root).extraction.functions) :
    Patch.functionCode record = record.text.toList := by
  obtain ⟨code, hcode⟩ := isCleaned_collect record hrecord
  rw [Patch.functionCode, hcode, String.toList_ofList, trim_removeUndefined_clean]

/-! ## Recognised functions -/

/-- The search for a function finds the whole code that a patch brings into the page. -/
def IsRecognised (balancedMatching : Bool) (record : FunctionRecord) : Prop :=
  ∃ span, findFunction balancedMatching (Patch.functionCode record) record.name.toList =
      some span ∧
    span.start = 0 ∧ span.stop = (Patch.functionCode record).length

/-- A function that was found in a component is recognised exactly if its text is a declaration as
the search reads it. -/
theorem isRecognised_iff {root : Node} {record : FunctionRecord} {balancedMatching : Bool}
    (hrecord : record ∈ (scope.collect root).extraction.functions) :
    IsRecognised balancedMatching record ↔
      IsDeclarationText balancedMatching record.name.toList record.text.toList := by
  rw [IsRecognised, functionCode_of_mem_collect hrecord]
  exact isDeclarationText_iff.symm

/-- An extraction collects what is in the tree of its source. -/
theorem exists_collect_of_extractWith {parser : Parser} {extractor : ExtractorSettings}
    {transform : TransformSettings} {source : Source} {findings : Findings}
    (hextract : extractWith parser extractor transform source = .ok findings) :
    ∃ root, parser source = .ok root ∧
      findings.extraction = (Scope.collect ⟨extractor, transform, source⟩ root).extraction := by
  rw [extractWith] at hextract
  cases hparse : parser source with
  | error fault =>
    rw [hparse] at hextract
    exact absurd hextract (by nofun)
  | ok root =>
    rw [hparse] at hextract
    refine ⟨root, rfl, ?_⟩
    obtain rfl := Except.ok.inj hextract
    rfl

/-- The source of a function that declares the type of its value. -/
def annotated : Source :=
  .ofText "function loadData(): void \x7b\x7d".toList

/-- The declaration in that source. -/
def annotatedDeclaration : Node where
  type := "function_declaration"
  stop := ⟨28, 0, 28⟩
  children := [
    { type := "function", named := false, stop := ⟨8, 0, 8⟩ },
    { type := "identifier", role := "name", start := ⟨9, 0, 9⟩, stop := ⟨17, 0, 17⟩ },
    { type := "formal_parameters", role := "parameters"
      start := ⟨17, 0, 17⟩, stop := ⟨19, 0, 19⟩
      children := [
        { type := "(", named := false, start := ⟨17, 0, 17⟩, stop := ⟨18, 0, 18⟩ },
        { type := ")", named := false, start := ⟨18, 0, 18⟩, stop := ⟨19, 0, 19⟩ }] },
    { type := "type_annotation", role := "return_type"
      start := ⟨19, 0, 19⟩, stop := ⟨25, 0, 25⟩
      children := [
        { type := ":", named := false, start := ⟨19, 0, 19⟩, stop := ⟨20, 0, 20⟩ },
        { type := "predefined_type", start := ⟨21, 0, 21⟩, stop := ⟨25, 0, 25⟩
          children := [
            { type := "void", named := false, start := ⟨21, 0, 21⟩, stop := ⟨25, 0, 25⟩ }] }] },
    { type := "statement_block", role := "body", start := ⟨26, 0, 26⟩, stop := ⟨28, 0, 28⟩
      children := [
        { type := "\x7b", named := false, start := ⟨26, 0, 26⟩, stop := ⟨27, 0, 27⟩ },
        { type := "\x7d", named := false, start := ⟨27, 0, 27⟩, stop := ⟨28, 0, 28⟩ }] }]

/-- The tree of that source. -/
def annotatedTree : Node where
  type := "program"
  stop := ⟨28, 0, 28⟩
  children := [annotatedDeclaration]

/-- The function that is found there keeps the type of its value. -/
def annotatedRecord : FunctionRecord :=
  { name := "loadData", text := "function loadData(): void \x7b\x7d" }

theorem clean_annotatedRecord :
    clean {} annotatedRecord.text.toList = annotatedRecord.text.toList := by
  refine clean_eq_self ?_ ?_ ?_ ?_ ?_ ?_ ?_ (by decide)
  all_goals
    exact passes_of_firstFound_eq_none (by decide)

/-- A declaration with a name that is asked for adds its record to the findings. -/
theorem visitDeclaration_of_target {declaration node : Node} {record : FunctionRecord} {findings : Findings}
    (hname : declaration.child? "name" = some node)
    (htext : String.ofList (scope.source.nodeText node) = record.name)
    (htarget : scope.isTarget record.name)
    (hrecord : scope.functionRecord record.name declaration .plain = record) :
    scope.visitDeclaration findings declaration = findings.addFunction .functionExtracted record := by
  rw [Scope.visitDeclaration, hname]
  simp only [htext, htarget, if_true, hrecord]

/-- The record of a function without parameters whose declaration clean-up leaves as it is. -/
theorem functionRecord_of_serialize {declaration : Node} {name text : String}
    (hserialize : serialize scope.transform scope.source declaration = text.toList)
    (hclean : clean scope.transform text.toList = text.toList)
    (hparameters : parameterNames scope.source declaration = []) :
    scope.functionRecord name declaration .plain = { name, text } := by
  simp only [Scope.functionRecord, renderDeclaration, hserialize, hclean, hparameters,
    String.ofList_toList]
  rfl

/-- The declaration is the only node of the tree at which something is found. -/
theorem collect_annotatedTree :
    (Scope.collect ⟨{}, {}, annotated⟩ annotatedTree).extraction =
      { functions := [annotatedRecord] } := by
  have hcollect : Scope.collect ⟨{}, {}, annotated⟩ annotatedTree =
      Scope.visitDeclaration ⟨{}, {}, annotated⟩ {} annotatedDeclaration := by
    simp [Scope.collect, annotatedTree, annotatedDeclaration, Node.preorder, Node.preorderAll,
      Scope.visit, Node.kind, Kind.ofType]
  have hserialize : serialize {} annotated annotatedDeclaration = annotatedRecord.text.toList := by
    decide +kernel
  have hparameters : parameterNames annotated annotatedDeclaration = [] := by
    decide
  have hrecord : Scope.functionRecord ⟨{}, {}, annotated⟩ "loadData" annotatedDeclaration .plain =
      annotatedRecord :=
    functionRecord_of_serialize hserialize clean_annotatedRecord hparameters
  have hvisit : Scope.visitDeclaration ⟨{}, {}, annotated⟩ {} annotatedDeclaration =
      ({} : Findings).addFunction .functionExtracted annotatedRecord :=
    visitDeclaration_of_target rfl (by decide +kernel) (by decide +kernel) hrecord
  rw [hcollect, hvisit]
  rfl

set_option maxRecDepth 20000 in
/-- A declaration with a type between its parameters and its body is found, and the search does not
recognise it. -/
theorem not_isRecognised_annotatedRecord :
    annotatedRecord ∈ (Scope.collect ⟨{}, {}, annotated⟩ annotatedTree).extraction.functions ∧
      ¬ IsRecognised true annotatedRecord := by
  have hmem : annotatedRecord ∈
      (Scope.collect ⟨{}, {}, annotated⟩ annotatedTree).extraction.functions := by
    rw [collect_annotatedTree]
    exact List.mem_singleton.mpr rfl
  refine ⟨hmem, ?_⟩
  rintro ⟨span, hfound, -, -⟩
  rw [functionCode_of_mem_collect hmem] at hfound
  have hnone : findFunction true annotatedRecord.text.toList annotatedRecord.name.toList = none := by
    cbv
  rw [hnone] at hfound
  simp at hfound

/-- What `isRecognised_iff` says of that declaration. -/
theorem isRecognised_iff_annotatedRecord :
    IsRecognised true annotatedRecord ↔
      IsDeclarationText true "loadData".toList "function loadData(): void \x7b\x7d".toList := by
  refine @isRecognised_iff ⟨{}, {}, annotated⟩ annotatedTree annotatedRecord true ?_
  rw [collect_annotatedTree]
  exact List.mem_singleton.mpr rfl

end PageGraft.Component
