import PageGraft.Proofs.Recognition
import PageGraft.Proofs.Settled

/-!
# Patching twice

A patch of a page that is already patched changes nothing, as long as the records are of a form that the
search can read and the changes do not get into each other's way (`IsOrderly`). A run of changes then
settles one change after the other (`settled_run`), and settled changes do nothing when they are made
once more. `patch_idempotent` says so for what is found in a component.

A declaration with a type between its parameters and its body is not of such a form: every patch puts
another copy of it into the page (`patch_not_idempotent`).
-/

namespace PageGraft.Page

open PageGraft.Text PageGraft.Script PageGraft.Settings Patch

variable {settings : PatcherSettings} {page : List Char}

/-- The changes that come next in a page, after those that are made: each of them finds a page in which
it can be found again, and its splice spares the changes made before it. -/
inductive IsOrderly (settings : PatcherSettings) :
    List Change → List Char → List Change → Prop
  | done {made : List Change} {page : List Char} : IsOrderly settings made page []
  | change {made later : List Change} {page : List Char} {change : Change}
      (hfits : change.Fits settings page)
      (hspares : ∀ splice ∈ change.splice? settings page, ∀ earlier ∈ made,
        splice.Spares settings page earlier)
      (hlater : IsOrderly settings (change :: made) (change.apply settings page) later) :
      IsOrderly settings made page (change :: later)

/-- A change that spares a settled one leaves it settled. -/
theorem Change.Settled.apply {earlier later : Change} (hanchors : PlainAnchors settings)
    (hsound : earlier.IsSound settings) (hlater : later.IsSound settings)
    (hprecedes : earlier.Precedes later)
    (hspares : ∀ splice ∈ later.splice? settings page, splice.Spares settings page earlier)
    (hsettled : earlier.Settled settings page) :
    earlier.Settled settings (later.apply settings page) := by
  cases hsplice : later.splice? settings page with
  | none =>
    rw [Change.apply_of_none hsplice]
    exact hsettled
  | some splice =>
    rw [Change.apply_of_some hsplice]
    exact hsettled.write hanchors hsound hlater hprecedes hsplice (hspares splice hsplice)

/-- After an orderly run every change is settled, those made before it included. -/
theorem settled_run {made later : List Change} (hanchors : PlainAnchors settings)
    (horderly : IsOrderly settings made page later)
    (hmade : ∀ change ∈ made, change.IsSound settings ∧ change.Settled settings page)
    (hlater : ∀ change ∈ later, change.IsSound settings)
    (hacross : ∀ earlier ∈ made, ∀ change ∈ later, earlier.Precedes change)
    (hprecedes : later.Pairwise Change.Precedes) :
    ∀ change, change ∈ made ∨ change ∈ later →
      change.IsSound settings ∧ change.Settled settings (run settings page later) := by
  induction horderly with
  | done =>
    rintro change (hchange | hchange)
    · exact hmade change hchange
    · exact absurd hchange List.not_mem_nil
  | @change made later page next hfits hspares _ ih =>
    obtain ⟨hnext, hrest⟩ := List.forall_mem_cons.mp hlater
    obtain ⟨hfirst, hpairwise⟩ := List.pairwise_cons.mp hprecedes
    have hsettled : ∀ change ∈ next :: made,
        change.IsSound settings ∧ change.Settled settings (next.apply settings page) := by
      intro change hchange
      rcases List.mem_cons.mp hchange with rfl | hearlier
      · exact ⟨hnext, Change.settled_apply hanchors hnext hfits⟩
      · obtain ⟨hsound, hbefore⟩ := hmade change hearlier
        have hnames := hacross change hearlier next List.mem_cons_self
        exact ⟨hsound, hbefore.apply hanchors hsound hnext hnames
          fun splice hsplice => hspares splice hsplice change hearlier⟩
    have hnames : ∀ earlier ∈ next :: made, ∀ change ∈ later, earlier.Precedes change := by
      intro earlier hearlier change hchange
      rcases List.mem_cons.mp hearlier with rfl | hbefore
      · exact hfirst change hchange
      · exact hacross earlier hbefore change (List.mem_cons_of_mem _ hchange)
    have hrun := ih hsettled hrest hnames hpairwise
    intro change hchange
    refine hrun change ?_
    rcases hchange with hbefore | hchange
    · exact .inl (List.mem_cons_of_mem _ hbefore)
    · rcases List.mem_cons.mp hchange with rfl | hafter
      · exact .inl List.mem_cons_self
      · exact .inr hafter

/-- An orderly run of changes does nothing when it is made once more. -/
theorem run_run {made : List Change} (hanchors : PlainAnchors settings)
    (horderly : IsOrderly settings [] page made)
    (hsound : ∀ change ∈ made, change.IsSound settings)
    (hprecedes : made.Pairwise Change.Precedes) :
    run settings (run settings page made) made = run settings page made := by
  have hsettled := settled_run hanchors horderly (by simp) hsound (by simp) hprecedes
  refine run_eq_self fun change hchange => ?_
  obtain ⟨hsound, hsettled⟩ := hsettled change (.inr hchange)
  exact hsettled.apply_eq hanchors hsound

/-- The changes of an extraction have names of their own if its functions and its state variables
have. -/
theorem pairwise_changes {extraction : Extraction}
    (hfunctions : extraction.functions.Pairwise (·.name ≠ ·.name))
    (hstate : extraction.state.Pairwise (·.reader ≠ ·.reader)) :
    (changes extraction).Pairwise Change.Precedes := by
  rw [changes, List.pairwise_append, List.pairwise_map, List.pairwise_map]
  refine ⟨hfunctions.imp ?_, hstate.imp ?_, ?_⟩
  · intro earlier later hnames hsame
    exact hnames (String.toList_inj.mp hsame)
  · intro earlier later hnames hsame
    exact hnames (String.toList_inj.mp hsame)
  · intro earlier hearlier later hlater
    obtain ⟨record, -, rfl⟩ := List.mem_map.mp hearlier
    obtain ⟨other, -, rfl⟩ := List.mem_map.mp hlater
    trivial

/-! ## Functions that go in -/

/-- A function without a header in the page fits where it goes in, unless `async` stands there. -/
theorem fits_of_insertion {record : FunctionRecord} {index : Nat}
    (hstarts : headerStarts record.name.toList page = [])
    (hfound : findFunction settings.balancedMatching page record.name.toList = none)
    (hmarker : insertionIndex page settings.insertionMarker.toList = some index)
    (hasync : ¬ EndsInAsync (page.take index)) : (Change.function record).Fits settings page := by
  refine ⟨?_, ?_⟩
  · intro start hstart
    rw [hstarts] at hstart
    exact absurd hstart List.not_mem_nil
  · intro point hpoint
    rw [splicePoint, hfound] at hpoint
    obtain rfl : index = point := Option.some.inj (hmarker.symm.trans hpoint)
    exact hasync

/-- The page after a function that the search does not find in it goes in. -/
theorem apply_of_insertion {record : FunctionRecord} {index : Nat}
    (hfound : findFunction settings.balancedMatching page record.name.toList = none)
    (hmarker : insertionIndex page settings.insertionMarker.toList = some index) :
    (Change.function record).apply settings page = page.take index ++
      ('\n' :: indentLines (List.replicate settings.insertionIndent ' ') (functionCode record) ++
        ['\n', '\n']) ++ page.drop index := by
  rw [Change.apply_of_some (splice?_of_marker hfound hmarker)]
  rfl

/-- The search passes over a header whose parameters are followed by a type. -/
theorem findFunction_eq_none_of_header {balancedMatching : Bool} {name front rest : List Char}
    {length : Nat} (hpage : page = front ++ rest) (hstarts : headerStarts name page = [front.length])
    (hheader : functionHeader name front.getLast? rest = some length)
    (hbody : bodyDistance (rest.drop (length - 1)) = none) :
    findFunction balancedMatching page name = none := by
  have hnone : findHeader page name = none := by
    rw [Option.eq_none_iff_forall_ne_some]
    rintro ⟨start, brace⟩ hfound
    obtain ⟨left, right, size, distance, hsplit, -, hright, hdistance, -⟩ :=
      functionHeader_of_headerFrom hfound
    rw [Option.or_none] at hright
    have hmem := length_mem_headerStarts hright
    rw [← hsplit, hstarts, List.mem_singleton] at hmem
    obtain ⟨rfl, rfl⟩ := List.append_inj (hsplit.symm.trans hpage) hmem
    obtain rfl := Option.some.inj (hheader.symm.trans hright)
    rw [hbody] at hdistance
    simp at hdistance
  rw [findFunction_eq, hnone]
  rfl

end PageGraft.Page

namespace PageGraft.Component

open PageGraft.Page PageGraft.Script PageGraft.Settings PageGraft.Syntax PageGraft.Text Patch

/-- A patch with what was found in a component does nothing when it is made once more, if the records
are of a form that the search can read and no change gets in the way of an earlier one. -/
theorem patch_idempotent {parser : Parser} {extractor : ExtractorSettings}
    {transform : TransformSettings} {settings : PatcherSettings} {source : Source}
    {findings : Findings} {page : List Char} (hanchors : PlainAnchors settings)
    (hextract : extractWith parser extractor transform source = .ok findings)
    (hsound : ∀ change ∈ changes findings.extraction, change.IsSound settings)
    (hstate : findings.extraction.state.Pairwise (·.reader ≠ ·.reader))
    (horderly : IsOrderly settings [] page (changes findings.extraction)) :
    (patch settings (patch settings page findings.extraction).text findings.extraction).text =
      (patch settings page findings.extraction).text := by
  obtain ⟨root, -, hfound⟩ := exists_collect_of_extractWith hextract
  have hfunctions : findings.extraction.functions.Pairwise (·.name ≠ ·.name) := by
    rw [hfound]
    exact names_collect _ root
  rw [patch_text_eq_run, patch_text_eq_run]
  exact run_run hanchors horderly hsound (pairwise_changes hfunctions hstate)

/-- The source of a function that declares no type, and of two state variables. -/
def unannotated : Source :=
  .ofText ("function loadData() \x7b\x7d\nconst [n, setN] = useState(true);\n" ++
    "const [m, setM] = useState(null);").toList

/-- The declaration of the function. -/
def unannotatedDeclaration : Node where
  type := "function_declaration"
  stop := ⟨22, 0, 22⟩
  children := [
    { type := "function", named := false, stop := ⟨8, 0, 8⟩ },
    { type := "identifier", role := "name", start := ⟨9, 0, 9⟩, stop := ⟨17, 0, 17⟩ },
    { type := "formal_parameters", role := "parameters"
      start := ⟨17, 0, 17⟩, stop := ⟨19, 0, 19⟩
      children := [
        { type := "(", named := false, start := ⟨17, 0, 17⟩, stop := ⟨18, 0, 18⟩ },
        { type := ")", named := false, start := ⟨18, 0, 18⟩, stop := ⟨19, 0, 19⟩ }] },
    { type := "statement_block", role := "body", start := ⟨20, 0, 20⟩, stop := ⟨22, 0, 22⟩
      children := [
        { type := "\x7b", named := false, start := ⟨20, 0, 20⟩, stop := ⟨21, 0, 21⟩ },
        { type := "\x7d", named := false, start := ⟨21, 0, 21⟩, stop := ⟨22, 0, 22⟩ }] }]

/-- The declaration of a state variable that fills a row, with a literal of four characters. -/
def hookDeclaration (octet row : Nat) (literal : String) : Node where
  type := "lexical_declaration"
  start := ⟨octet, row, 0⟩
  stop := ⟨octet + 33, row, 33⟩
  children := [
    { type := "const", named := false, start := ⟨octet, row, 0⟩, stop := ⟨octet + 5, row, 5⟩ },
    { type := "variable_declarator", start := ⟨octet + 6, row, 6⟩, stop := ⟨octet + 32, row, 32⟩
      children := [
        { type := "array_pattern", role := "name"
          start := ⟨octet + 6, row, 6⟩, stop := ⟨octet + 15, row, 15⟩
          children := [
            { type := "identifier", start := ⟨octet + 7, row, 7⟩, stop := ⟨octet + 8, row, 8⟩ },
            { type := "identifier", start := ⟨octet + 10, row, 10⟩, stop := ⟨octet + 14, row, 14⟩ }] },
        { type := "call_expression", role := "value"
          start := ⟨octet + 18, row, 18⟩, stop := ⟨octet + 32, row, 32⟩
          children := [
            { type := "identifier", role := "function"
              start := ⟨octet + 18, row, 18⟩, stop := ⟨octet + 26, row, 26⟩ },
            { type := "arguments", role := "arguments"
              start := ⟨octet + 26, row, 26⟩, stop := ⟨octet + 32, row, 32⟩
              children := [
                { type := literal
                  start := ⟨octet + 27, row, 27⟩, stop := ⟨octet + 31, row, 31⟩ }] }] }] }]

/-- The tree of that source. -/
def unannotatedTree : Node where
  type := "program"
  stop := ⟨90, 2, 33⟩
  children := [unannotatedDeclaration, hookDeclaration 23 1 "true", hookDeclaration 57 2 "null"]

/-- The function that is found there. -/
def unannotatedRecord : FunctionRecord :=
  { name := "loadData", text := "function loadData() \x7b\x7d" }

/-- The first state variable that is found there. -/
def firstVariable : StateRecord where
  reader := "n"
  writer := "setN"
  initialValue := "true"
  text := "let n = true;\nfunction setN(newValue) \x7b n = newValue; \x7d"

/-- The second one. -/
def secondVariable : StateRecord where
  reader := "m"
  writer := "setM"
  initialValue := "null"
  text := "let m = null;\nfunction setM(newValue) \x7b m = newValue; \x7d"

theorem clean_unannotatedRecord :
    clean {} unannotatedRecord.text.toList = unannotatedRecord.text.toList := by
  refine clean_eq_self ?_ ?_ ?_ ?_ ?_ ?_ ?_ (by decide)
  all_goals
    exact passes_of_firstFound_eq_none (by decide)

theorem collect_unannotatedTree :
    (Scope.collect ⟨{}, {}, unannotated⟩ unannotatedTree).extraction =
      { functions := [unannotatedRecord], state := [firstVariable, secondVariable] } := by
  have hserialize : serialize {} unannotated unannotatedDeclaration = unannotatedRecord.text.toList := by
    decide +kernel
  have hparameters : parameterNames unannotated unannotatedDeclaration = [] := by
    decide
  have hrecord : Scope.functionRecord ⟨{}, {}, unannotated⟩ "loadData" unannotatedDeclaration .plain =
      unannotatedRecord :=
    functionRecord_of_serialize hserialize clean_unannotatedRecord hparameters
  have hfirst : Scope.visitDeclaration ⟨{}, {}, unannotated⟩ {} unannotatedDeclaration =
      ({} : Findings).addFunction .functionExtracted unannotatedRecord :=
    visitDeclaration_of_target rfl (by decide +kernel) (by decide +kernel) hrecord
  -- the nodes of the program and of the function come first
  have horder : unannotatedTree.preorder [] = (unannotatedTree, []) ::
      (unannotatedDeclaration, [unannotatedTree]) :: (unannotatedTree.preorder []).drop 2 := rfl
  have hprogram : Scope.visit ⟨{}, {}, unannotated⟩ {} (unannotatedTree, []) = {} := rfl
  have hfunction : Scope.visit ⟨{}, {}, unannotated⟩ {} (unannotatedDeclaration, [unannotatedTree]) =
      Scope.visitDeclaration ⟨{}, {}, unannotated⟩ {} unannotatedDeclaration := rfl
  rw [Scope.collect, horder, List.foldl_cons, List.foldl_cons, hprogram, hfunction, hfirst]
  decide +kernel

theorem isPlain_of_all {name : List Char} (hname : name ≠ [])
    (hplain : name.all fun character => !isSpace character && character != '(' && character != '=') :
    IsPlain name := by
  refine ⟨hname, fun character hcharacter => ?_⟩
  simpa [and_assoc] using List.all_eq_true.mp hplain character hcharacter

theorem isSound_unannotatedRecord : (Change.function unannotatedRecord).IsSound {} := by
  have hcode : functionCode unannotatedRecord = "function loadData".toList ++ "() \x7b\x7d".toList := by
    decide
  refine ⟨isPlain_of_all (by decide) (by decide), ?_⟩
  rw [hcode]
  exact SelfLocating.of_empty
    ⟨[], [' '], [], .inl rfl, by decide, by decide, by decide, by decide⟩ (by decide)

theorem isSound_firstVariable : (Change.state firstVariable).IsSound {} :=
  ⟨isPlain_of_all (by decide) (by decide), .word (by decide) (by decide)⟩

theorem isSound_secondVariable : (Change.state secondVariable).IsSound {} :=
  ⟨isPlain_of_all (by decide) (by decide), .word (by decide) (by decide)⟩

/-- A page with a state region and a place for functions. -/
def blankPage : List Char :=
  "// Global state\n</script>".toList

/-- The page with the function in it. -/
def functionPage : List Char :=
  "// Global state\n\n        function loadData() \x7b\x7d\n\n</script>".toList

/-- The page with the first state variable in it, too. -/
def variablePage : List Char :=
  "// Global state\nlet n = true; // setN\n\n        function loadData() \x7b\x7d\n\n</script>".toList

set_option maxRecDepth 20000 in
/-- The search finds no function of this name in the page, and a place for it. -/
theorem fits_unannotatedRecord : (Change.function unannotatedRecord).Fits {} blankPage ∧
    (Change.function unannotatedRecord).apply {} blankPage = functionPage := by
  have hstarts : headerStarts "loadData".toList blankPage = [] := by
    decide
  have hfound : findFunction true blankPage "loadData".toList = none := by
    cbv
  have hmarker : insertionIndex blankPage "</script>".toList = some 16 := by
    cbv
  have hasync : ¬ EndsInAsync (blankPage.take 16) := by
    intro hends
    have hcomment : EndsInAsync "// Global state".toList := @EndsInAsync.of_append _ ['\n'] rfl hends
    obtain ⟨last, hlast, hletter⟩ := hcomment.getLast?_eq
    obtain rfl : 'e' = last := by simpa using hlast
    exact absurd hletter (by decide)
  refine ⟨@fits_of_insertion {} blankPage unannotatedRecord 16 hstarts hfound hmarker hasync, ?_⟩
  rw [@apply_of_insertion {} blankPage unannotatedRecord 16 hfound hmarker]
  decide

/-- A piece that goes in at the end of the state region spares the function behind it. -/
theorem spares_unannotatedRecord {front : List Char} {splice : Splice} {page : List Char}
    (hhangs : Hangs unannotatedRecord page front (List.replicate 8 ' ') "\n\n</script>".toList)
    (hinFront : splice.stop ≤ front.length)
    (hlacks : Finder.Passes (functionHeader "loadData".toList) (page.take splice.start).getLast?
      splice.piece (page.drop splice.stop))
    (hindent : hang (indentAt (splice.write page) (splice.move front.length))
      (functionCode unannotatedRecord) =
        hang (indentAt page front.length) (functionCode unannotatedRecord)) :
    splice.Spares {} page (.function unannotatedRecord) := by
  rw [Splice.Spares, hhangs.extent?_eq isSound_unannotatedRecord]
  exact .inr ⟨hinFront, hlacks, hindent⟩

theorem hangs_functionPage : Hangs unannotatedRecord functionPage "// Global state\n\n        ".toList
    (List.replicate 8 ' ') "\n\n</script>".toList := by
  refine ⟨?_, ?_, ?_, ?_⟩ <;> decide

theorem hangs_variablePage : Hangs unannotatedRecord variablePage
    "// Global state\nlet n = true; // setN\n\n        ".toList (List.replicate 8 ' ')
    "\n\n</script>".toList := by
  refine ⟨?_, ?_, ?_, ?_⟩ <;> decide

/-- The first variable goes in front of the function. -/
theorem spares_firstVariable : (Change.state firstVariable).apply {} functionPage = variablePage ∧
    ∀ splice ∈ (Change.state firstVariable).splice? {} functionPage,
      splice.Spares {} functionPage (.function unannotatedRecord) := by
  have hsplice : (Change.state firstVariable).splice? {} functionPage =
      some ⟨15, 15, "\nlet n = true; // setN".toList⟩ := by
    decide
  refine ⟨?_, ?_⟩
  · rw [Change.apply_of_some hsplice]
    decide
  · intro splice hmem
    obtain rfl := Option.some.inj (hsplice.symm.trans hmem)
    exact spares_unannotatedRecord hangs_functionPage (by decide) (by decide) (by decide)

theorem declares_variablePage : Declares firstVariable variablePage "// Global state\n".toList "let n ".toList
    [' '] "; // setN\n\n        function loadData() \x7b\x7d\n\n</script>".toList := by
  refine ⟨by decide, ⟨by decide, by decide, ?_, by decide, ?_⟩, by decide⟩
  · exact ⟨[' '], [' '], by decide, by decide, by decide, by decide⟩
  · intro character hcharacter
    obtain rfl : 't' = character := by simpa [firstVariable] using hcharacter
    rfl

/-- The second variable goes between the first one and the function. -/
theorem spares_secondVariable : ∀ splice ∈ (Change.state secondVariable).splice? {} variablePage,
    splice.Spares {} variablePage (.state firstVariable) ∧
      splice.Spares {} variablePage (.function unannotatedRecord) := by
  have hsplice : (Change.state secondVariable).splice? {} variablePage =
      some ⟨37, 37, "\nlet m = null; // setM".toList⟩ := by
    decide
  have hextent : (Change.state firstVariable).extent? {} variablePage = some (16, 28) :=
    declares_variablePage.extent?_eq isSound_firstVariable
  intro splice hmem
  obtain rfl := Option.some.inj (hsplice.symm.trans hmem)
  refine ⟨?_, spares_unannotatedRecord hangs_variablePage (by decide) (by decide) (by decide)⟩
  rw [Splice.Spares, hextent]
  exact .inl (by decide)

/-- Everything that `patch_idempotent` assumes holds of a function and two state variables that go into a
page for the first time. -/
theorem patch_idempotent_unannotated :
    let extraction := (extractTree {} {} unannotated unannotatedTree).extraction
    extraction = { functions := [unannotatedRecord], state := [firstVariable, secondVariable] } ∧
      IsOrderly {} [] blankPage (changes extraction) ∧
      (patch {} (patch {} blankPage extraction).text extraction).text =
        (patch {} blankPage extraction).text := by
  intro extraction
  have hextraction : extraction =
      { functions := [unannotatedRecord], state := [firstVariable, secondVariable] } :=
    collect_unannotatedTree
  have hchanges : changes extraction =
      [.function unannotatedRecord, .state firstVariable, .state secondVariable] := by
    rw [hextraction]
    rfl
  have hsound : ∀ change ∈ changes extraction, change.IsSound {} := by
    rw [hchanges]
    simpa using ⟨isSound_unannotatedRecord, isSound_firstVariable, isSound_secondVariable⟩
  obtain ⟨hfits, hfirst⟩ := fits_unannotatedRecord
  obtain ⟨hsecond, hspares⟩ := spares_firstVariable
  have horderly : IsOrderly {} [] blankPage (changes extraction) := by
    rw [hchanges]
    refine .change hfits (by simp) ?_
    rw [hfirst]
    refine .change trivial (by simpa using hspares) ?_
    rw [hsecond]
    refine .change trivial ?_ .done
    intro splice hsplice
    simpa using spares_secondVariable splice hsplice
  have hstate : extraction.state.Pairwise (·.reader ≠ ·.reader) := by
    rw [hextraction]
    decide
  have hextract : extractWith (fun _ => .ok unannotatedTree) {} {} unannotated =
      .ok (extractTree {} {} unannotated unannotatedTree) := rfl
  exact ⟨hextraction, horderly,
    patch_idempotent plainAnchors_default hextract hsound hstate horderly⟩

/-! ## A declaration that is inserted again and again -/

/-- What a patch puts in front of the marker for the declaration with a type. -/
def annotatedInsertion : List Char :=
  "\n        function loadData(): void \x7b\x7d\n\n".toList

theorem patch_text_annotatedRecord {page : List Char} {index : Nat}
    (hfound : findFunction true page "loadData".toList = none)
    (hmarker : insertionIndex page "</script>".toList = some index) :
    (patch {} page { functions := [annotatedRecord] }).text =
      page.take index ++ annotatedInsertion ++ page.drop index := by
  have hcode : functionCode annotatedRecord = "function loadData(): void \x7b\x7d".toList := by
    decide
  have hpiece : '\n' :: indentLines (List.replicate 8 ' ') (functionCode annotatedRecord) ++
      ['\n', '\n'] = annotatedInsertion := by
    rw [hcode]
    decide
  have hinsertion := @apply_of_insertion {} page annotatedRecord index hfound hmarker
  rw [← hpiece]
  exact updateFunction_text.trans hinsertion

set_option maxRecDepth 20000 in
/-- A declaration with a type between its parameters and its body goes into the page once more with every
patch. -/
theorem patch_not_idempotent :
    let extraction := (extractTree {} {} annotated annotatedTree).extraction
    let once := (patch {} "</script>".toList extraction).text
    once = annotatedInsertion ++ "</script>".toList ∧
      (patch {} once extraction).text = annotatedInsertion ++ once ∧
      (patch {} once extraction).text ≠ once := by
  have hextraction : (extractTree {} {} annotated annotatedTree).extraction =
      { functions := [annotatedRecord] } := collect_annotatedTree
  have hfirst : (patch {} "</script>".toList { functions := [annotatedRecord] }).text =
      annotatedInsertion ++ "</script>".toList :=
    @patch_text_annotatedRecord _ 0 (by cbv) (by cbv)
  have hlength : annotatedInsertion.length = 39 := by
    decide
  have hfound : findFunction true (annotatedInsertion ++ "</script>".toList) "loadData".toList =
      none := by
    have hbody : bodyDistance ("function loadData(): void \x7b\x7d\n\n</script>".toList.drop 17) =
        none := by
      cbv
    refine @findFunction_eq_none_of_header _ _ _ "\n        ".toList
      "function loadData(): void \x7b\x7d\n\n</script>".toList 18 ?_ ?_ ?_ hbody
    · decide
    · decide
    · decide
  have hmarker : insertionIndex (annotatedInsertion ++ "</script>".toList) "</script>".toList =
      some annotatedInsertion.length := by
    decide
  have hsecond := patch_text_annotatedRecord hfound hmarker
  rw [List.take_left, List.drop_left, List.append_assoc] at hsecond
  intro extraction once
  have honce : once = annotatedInsertion ++ "</script>".toList := by
    rw [← hfirst, ← hextraction]
  have htwice : (patch {} once extraction).text = annotatedInsertion ++ once := by
    rw [honce, ← hsecond, ← hextraction]
  refine ⟨honce, htwice, ?_⟩
  intro hsame
  have hgrown := congrArg List.length (htwice.symm.trans hsame)
  rw [List.length_append, hlength] at hgrown
  omega

end PageGraft.Component
