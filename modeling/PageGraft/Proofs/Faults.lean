import PageGraft.Proofs.Keeping
import PageGraft.Proofs.Slices
import PageGraft.Proofs.Traversal
import PageGraft.Syntax.Diagnostic

/-!
# Where a tree is at fault

A node can be a fault itself, or hold one below it, and its flag tells whether it is or does
(`Node.IsFlagged`). A search for faults may therefore pass over every node without the flag, and it does
not look below a fault. What it finds are the faults that no other fault is around:

* `faults_eq_outermost`: the nodes found are those of the document order that are faults and have no fault
  among their ancestors;
* `faults_eq_nil`: nothing is found only in a tree without the flag, since every flag leads to a fault;
* `searchFaults_eq`: a search with a stack finds the same.

The first of the faults are described (`describeFault_eq_ok`), with no more of their text than fits a line.
So a tree with the flag is refused for a reason (`Node.IsFlagged.locatesFaults`).
-/

namespace PageGraft.Syntax

open PageGraft.Text

namespace Node

/-! ## Faults and flags -/

/-- A node for unexpected text, or for a token that is missing. -/
def isFault (node : Node) : Bool :=
  node.isError || node.isMissing

/-- The nodes of a tree: the root and all those below it. -/
def within (root : Node) : List Node :=
  (root.preorder []).map Prod.fst

/-- The nodes with the flag are those that are or contain a fault. -/
def IsFlagged (root : Node) : Prop :=
  ∀ node ∈ root.within, node.hasError = node.within.any isFault

instance (root : Node) : Decidable root.IsFlagged :=
  inferInstanceAs (Decidable (∀ node ∈ root.within, _))

/-- A fault without a fault around it. -/
def isOutermost (place : Node × List Node) : Bool :=
  place.1.isFault && place.2.all (!isFault ·)

variable {node root : Node} {ancestors : List Node}

theorem faultsAll_eq_flatMap {nodes : List Node} : faultsAll nodes = nodes.flatMap faults := by
  induction nodes with
  | nil => rfl
  | cons node nodes ih => rw [faultsAll, ih, List.flatMap_cons]

theorem faults_eq (node : Node) :
    node.faults =
      if node.isFault then [node] else if node.hasError then node.children.flatMap faults else [] := by
  cases node
  rw [faults, faultsAll_eq_flatMap]
  rfl

theorem map_fst_preorder (node : Node) :
    ∀ ancestors, (node.preorder ancestors).map Prod.fst = node.within := by
  induction node using children_induction with
  | hstep node ih =>
    have hchildren : ∀ ancestors, (node.preorder ancestors).map Prod.fst =
        node :: node.children.flatMap within := by
      intro ancestors
      rw [preorder_eq, preorderAll_eq_flatMap, List.map_cons, List.map_flatMap]
      congr 1
      exact List.flatMap_congr fun child hchild => ih child hchild _
    intro ancestors
    rw [within, hchildren, hchildren]

theorem within_eq (node : Node) : node.within = node :: node.children.flatMap within := by
  rw [within, preorder_eq, preorderAll_eq_flatMap, List.map_cons, List.map_flatMap]
  congr 1
  exact List.flatMap_congr fun child _ => map_fst_preorder child _

theorem mem_within_self (node : Node) : node ∈ node.within := by
  rw [within_eq]
  exact List.mem_cons_self

theorem mem_within_of_child {child inner : Node} (hchild : child ∈ node.children)
    (hinner : inner ∈ child.within) : inner ∈ node.within := by
  rw [within_eq]
  exact List.mem_cons_of_mem _ (List.mem_flatMap.mpr ⟨child, hchild, hinner⟩)

theorem IsFlagged.child {child : Node} (hflagged : node.IsFlagged) (hchild : child ∈ node.children) :
    child.IsFlagged :=
  fun inner hinner => hflagged inner (mem_within_of_child hchild hinner)

theorem IsFlagged.hasError_eq (hflagged : node.IsFlagged) :
    node.hasError = node.within.any isFault :=
  hflagged node (mem_within_self node)

/-! ## The outermost faults -/

/-- The nodes around a tree are around each of its nodes, and its root is around each other one. -/
theorem ancestors_of_mem_preorder (node : Node) : ∀ ancestors,
    ∀ place ∈ node.preorder ancestors, ancestors ⊆ place.2 ∧ (place = (node, ancestors) ∨ node ∈ place.2) := by
  induction node using children_induction with
  | hstep node ih =>
    intro ancestors place hplace
    rw [preorder_eq, preorderAll_eq_flatMap, List.mem_cons, List.mem_flatMap] at hplace
    rcases hplace with rfl | ⟨child, hchild, hplace⟩
    · exact ⟨List.Subset.refl _, .inl rfl⟩
    · have haround := (ih child hchild (node :: ancestors) place hplace).1
      exact ⟨fun ancestor hmem => haround (List.mem_cons_of_mem _ hmem),
        .inr (haround List.mem_cons_self)⟩

/-- Below a fault no fault is outermost. -/
theorem filter_preorder_of_fault {fault : Node} (hfault : fault.isFault) (hmem : fault ∈ ancestors) :
    (node.preorder ancestors).filter isOutermost = [] := by
  rw [List.filter_eq_nil_iff]
  intro place hplace houtermost
  have haround := (ancestors_of_mem_preorder node ancestors place hplace).1 hmem
  simp only [isOutermost, Bool.and_eq_true, List.all_eq_true] at houtermost
  simpa [hfault] using houtermost.2 fault haround

/-- A search finds the faults that no fault is around, in document order. -/
theorem faults_eq_outermost (node : Node) : ∀ ancestors, ancestors.all (!isFault ·) →
    node.IsFlagged → node.faults = ((node.preorder ancestors).filter isOutermost).map Prod.fst := by
  induction node using children_induction with
  | hstep node ih =>
    intro ancestors hancestors hflagged
    rw [faults_eq, preorder_eq, preorderAll_eq_flatMap, List.filter_cons, List.filter_flatMap]
    by_cases hfault : node.isFault
    · have hbelow : node.children.flatMap
          (fun child => (child.preorder (node :: ancestors)).filter isOutermost) = [] := by
        rw [List.flatMap_eq_nil_iff]
        intro child _
        exact filter_preorder_of_fault hfault List.mem_cons_self
      have houtermost : isOutermost (node, ancestors) := by
        simp only [isOutermost, hfault, hancestors, Bool.and_self]
      rw [if_pos hfault, if_pos houtermost, hbelow]
      rfl
    · have hinner : ¬ isOutermost (node, ancestors) := by
        simp [isOutermost, hfault]
      rw [if_neg hfault, if_neg hinner, List.map_flatMap]
      by_cases herror : node.hasError
      · rw [if_pos herror]
        refine List.flatMap_congr fun child hchild => ih child hchild _ ?_ (hflagged.child hchild)
        rw [List.all_cons, hancestors, Bool.and_true, Bool.not_eq_true']
        exact Bool.eq_false_iff.mpr hfault
      · -- without the flag no node is a fault, so that none is left out
        rw [if_neg herror, eq_comm, List.flatMap_eq_nil_iff]
        intro child hchild
        rw [List.map_eq_nil_iff, List.filter_eq_nil_iff]
        intro place hplace houtermost
        rw [hflagged.hasError_eq, List.any_eq_true] at herror
        apply herror
        have hwithin : place.1 ∈ child.within := by
          rw [← map_fst_preorder child (node :: ancestors)]
          exact List.mem_map_of_mem hplace
        refine ⟨place.1, mem_within_of_child hchild hwithin, ?_⟩
        exact (Bool.and_eq_true_iff.mp houtermost).1

/-- Nothing is found exactly in a tree without the flag. -/
theorem faults_eq_nil (node : Node) : node.IsFlagged → (node.faults = [] ↔ node.hasError = false) := by
  induction node using children_induction with
  | hstep node ih =>
    intro hflagged
    rw [faults_eq]
    by_cases hfault : node.isFault
    · have herror : node.hasError = true := by
        rw [hflagged.hasError_eq, List.any_eq_true]
        exact ⟨node, mem_within_self node, hfault⟩
      simp [hfault, herror]
    · rw [if_neg hfault]
      by_cases herror : node.hasError
      · rw [if_pos herror, herror]
        refine iff_of_false ?_ (by decide)
        intro hnil
        have hfound := herror
        rw [hflagged.hasError_eq, List.any_eq_true] at hfound
        obtain ⟨inner, hinner, hinnerFault⟩ := hfound
        rw [within_eq, List.mem_cons, List.mem_flatMap] at hinner
        rcases hinner with rfl | ⟨child, hchild, hinner⟩
        · exact hfault hinnerFault
        · have hchildError : child.hasError = true := by
            rw [(hflagged.child hchild).hasError_eq, List.any_eq_true]
            exact ⟨inner, hinner, hinnerFault⟩
          have hchildNil : child.faults = [] := List.flatMap_eq_nil_iff.mp hnil child hchild
          rw [(ih child hchild (hflagged.child hchild)).mp hchildNil] at hchildError
          exact Bool.false_ne_true hchildError
      · simp [herror]

/-- The nodes of a list are the faults that no fault is around, each once and in document order: they
stand at the addresses of these faults, in lexical order. -/
def ListsOutermost (root : Node) (nodes : List Node) : Prop :=
  ∃ addresses : List (List Nat), addresses.Pairwise (· < ·) ∧
    (∀ address, address ∈ addresses ↔ ∃ node ancestors, root.at? [] address = some (node, ancestors) ∧
      node.isFault ∧ ∀ ancestor ∈ ancestors, ancestor.isFault = false) ∧
    addresses.map (fun address => (root.at? [] address).map Prod.fst) = nodes.map some

theorem IsFlagged.listsOutermost (hflagged : root.IsFlagged) : root.ListsOutermost root.faults := by
  refine ⟨root.addresses.filter fun address => (root.at? [] address).any isOutermost, ?_, ?_, ?_⟩
  · exact (pairwise_addresses root).filter _
  · intro address
    rw [List.mem_filter, mem_addresses]
    cases hplace : root.at? [] address with
    | none => simp
    | some place => simp [isOutermost, Prod.ext_iff]
  · have hplaces : (root.addresses.filter fun address => (root.at? [] address).any isOutermost).map
        (root.at? []) = ((root.preorder []).filter isOutermost).map some :=
      calc (root.addresses.filter fun address => (root.at? [] address).any isOutermost).map (root.at? [])
          = (root.addresses.map (root.at? [])).filter (·.any isOutermost) := by
            rw [List.filter_map]
            rfl
        _ = ((root.preorder []).map some).filter (·.any isOutermost) := by rw [map_at?_addresses]
        _ = ((root.preorder []).filter isOutermost).map some := by
            rw [List.filter_map]
            rfl
    have hnodes := congrArg (List.map (Option.map Prod.fst)) hplaces
    rw [List.map_map, List.map_map] at hnodes
    rw [faults_eq_outermost root [] rfl hflagged, List.map_map]
    exact hnodes

end Node

/-! ## Searching with a stack -/

/-- Puts nodes on a stack, the last one first. -/
def pushAll (nodes stack : List Node) : List Node :=
  nodes.reverse.foldl (fun stack node => node :: stack) stack

theorem pushAll_eq (nodes stack : List Node) : pushAll nodes stack = nodes ++ stack := by
  rw [pushAll, List.foldl_reverse]
  induction nodes with
  | nil => rfl
  | cons node nodes ih => rw [List.foldr_cons, ih, List.cons_append]

/-- How many nodes there are in the trees on a stack. -/
def stackSize (stack : List Node) : Nat :=
  (stack.flatMap Node.within).length

theorem stackSize_cons (node : Node) (stack : List Node) :
    stackSize (node :: stack) = stackSize (pushAll node.children stack) + 1 ∧
      stackSize stack < stackSize (node :: stack) := by
  have hsize : stackSize (node :: stack) = stackSize (pushAll node.children stack) + 1 := by
    rw [stackSize, stackSize, pushAll_eq, List.flatMap_cons, Node.within_eq, List.cons_append,
      List.length_cons, ← List.flatMap_append]
  have hrest : stackSize stack ≤ stackSize (pushAll node.children stack) := by
    rw [stackSize, stackSize, pushAll_eq, List.flatMap_append, List.length_append]
    omega
  exact ⟨hsize, by omega⟩

/-- Takes one node after the other from a stack. A fault is added to those found and not searched; the
children of a node with the flag go on the stack, so that the first child is on top. -/
def searchFaults : List Node → List Node → List Node
  | [], found => found
  | node :: stack, found =>
    if node.isFault then searchFaults stack (found ++ [node])
    else if node.hasError then searchFaults (pushAll node.children stack) found
    else searchFaults stack found
termination_by stack => stackSize stack
decreasing_by
  all_goals
    obtain ⟨hsize, hrest⟩ := stackSize_cons node stack
    omega

theorem searchFaults_eq (stack found : List Node) :
    searchFaults stack found = found ++ stack.flatMap Node.faults := by
  fun_induction searchFaults stack found with
  | case1 found => simp
  | case2 node stack found hfault ih =>
    rw [ih, List.flatMap_cons, Node.faults_eq, if_pos hfault, List.append_assoc]
  | case3 node stack found hfault herror ih =>
    rw [ih, List.flatMap_cons, Node.faults_eq node, if_neg hfault, if_pos herror, pushAll_eq,
      List.flatMap_append]
  | case4 node stack found hfault herror ih =>
    rw [ih, List.flatMap_cons, Node.faults_eq, if_neg hfault, if_neg herror, List.nil_append]

/-! ## Describing faults -/

/-- What is quoted of a text: as much of the first line of the trimmed text as 40 characters hold. -/
structure IsSnippet (text quoted : List Char) : Prop where
  begins : quoted <+: trim text
  oneLine : ∀ character ∈ quoted, isLineBreak character = false
  length_le : quoted.length ≤ 40
  whole : quoted.length = 40 ∨
    ∀ character ∈ ((trim text).drop quoted.length).head?, isLineBreak character

theorem isSnippet_iff {text quoted : List Char} : IsSnippet text quoted ↔ quoted = snippet text := by
  constructor
  · intro hquoted
    obtain ⟨rest, hrest⟩ := hquoted.begins
    have hline : ∀ character ∈ quoted, !isLineBreak character := by
      intro character hmem
      rw [hquoted.oneLine character hmem]
      rfl
    have hwhole := hquoted.whole
    rw [← hrest, List.drop_left] at hwhole
    rw [snippet, snippetLimit, ← hrest, List.takeWhile_append_of_pos hline]
    rcases hwhole with hlength | hends
    · exact (List.take_left' hlength).symm
    · have hrestEnds : rest.takeWhile (!isLineBreak ·) = [] := by
        cases rest with
        | nil => rfl
        | cons character rest => simp [hends character (by simp)]
      rw [hrestEnds, List.append_nil, List.take_of_length_le hquoted.length_le]
  · rintro rfl
    have hbreak : ∀ character ∈ ((trim text).dropWhile (!isLineBreak ·)).head?,
        isLineBreak character := by
      intro character hcharacter
      simpa using Page.head?_dropWhile_eq_false character hcharacter
    have hline : ∀ character ∈ (trim text).takeWhile (!isLineBreak ·),
        isLineBreak character = false := by
      intro character hmem
      simpa using List.mem_takeWhile_imp hmem
    have hsplit : (trim text).takeWhile (!isLineBreak ·) ++ (trim text).dropWhile (!isLineBreak ·) =
        trim text := List.takeWhile_append_dropWhile
    have hsnippet : snippet text = ((trim text).takeWhile (!isLineBreak ·)).take 40 := rfl
    generalize (trim text).takeWhile (!isLineBreak ·) = line at hline hsplit hsnippet
    generalize (trim text).dropWhile (!isLineBreak ·) = rest at hbreak hsplit
    refine ⟨?_, ?_, ?_, ?_⟩
    · rw [hsnippet, ← hsplit]
      exact (List.take_prefix _ _).trans (List.prefix_append _ _)
    · rw [hsnippet]
      exact fun character hmem => hline character (List.mem_of_mem_take hmem)
    · rw [hsnippet]
      exact List.length_take_le _ _
    · by_cases hlong : 40 ≤ line.length
      · left
        rw [hsnippet, List.length_take, Nat.min_eq_left hlong]
      · right
        rw [hsnippet, List.take_of_length_le (by omega), ← hsplit, List.drop_left]
        exact hbreak

/-- The place of a fault, with lines and octets of a line counted from one. -/
def faultPlace (node : Node) : String :=
  s!"line {node.start.row + 1}, column {node.start.column + 1}"

/-- How a fault is described: by the token that is missing, or by the beginning of its text. -/
inductive Describes (source : Source) (node : Node) : String → Prop
  | missing (hmissing : node.isMissing) :
      Describes source node s!"{faultPlace node}: missing '{node.type}'"
  | unexpected {text quoted : List Char} (hpresent : node.isMissing = false)
      (htext : source.nodeText? node = .ok text) (hquoted : IsSnippet text quoted) :
      Describes source node s!"{faultPlace node}: unexpected '{String.ofList quoted}'"

variable {source : Source} {root node : Node} {line : String} {lines : List String}

theorem describeFault_eq_ok : describeFault source node = .ok line ↔ Describes source node line := by
  unfold describeFault
  constructor
  · intro hline
    by_cases hmissing : node.isMissing
    · rw [if_pos hmissing] at hline
      obtain rfl := Except.ok.inj hline
      exact .missing hmissing
    · rw [if_neg hmissing] at hline
      cases htext : source.nodeText? node with
      | error fault =>
        rw [htext] at hline
        exact absurd hline (by nofun)
      | ok text =>
        rw [htext] at hline
        obtain rfl := Except.ok.inj hline
        exact .unexpected (by simpa using hmissing) htext (isSnippet_iff.mpr rfl)
  · intro hline
    cases hline with
    | missing hmissing =>
      rw [if_pos hmissing]
      rfl
    | unexpected hpresent htext hquoted =>
      rw [hpresent, if_neg Bool.false_ne_true, htext, isSnippet_iff.mp hquoted]
      rfl

theorem diagnostics_eq_ok :
    diagnostics source root = .ok lines ↔
      List.Forall₂ (Describes source) (root.faults.take 5) lines := by
  rw [diagnostics, mapM_eq_ok]
  simp only [describeFault_eq_ok, diagnosticLimit]

/-- Faults between two characters can all be described. -/
theorem exists_diagnostics {text : List Char}
    (hspans : ∀ fault ∈ root.faults, ∃ first last, (Source.ofText text).Spans fault first last) :
    ∃ lines, diagnostics (.ofText text) root = .ok lines := by
  have hlines : ∀ faults : List Node, faults ⊆ root.faults →
      ∃ lines, List.Forall₂ (Describes (.ofText text)) faults lines := by
    intro faults
    induction faults with
    | nil => exact fun _ => ⟨[], .nil⟩
    | cons fault faults ih =>
      intro hsubset
      obtain ⟨lines, hlines⟩ := ih (List.subset_of_cons_subset hsubset)
      by_cases hmissing : fault.isMissing
      · exact ⟨_, .cons (.missing hmissing) hlines⟩
      · obtain ⟨first, last, hspan⟩ := hspans fault (hsubset List.mem_cons_self)
        have htext := Source.nodeText?_of_spans hspan
        exact ⟨_, .cons (.unexpected (by simpa using hmissing) htext (isSnippet_iff.mpr rfl)) hlines⟩
  obtain ⟨lines, hdescribed⟩ := hlines (root.faults.take 5) (List.take_subset _ _)
  exact ⟨lines, diagnostics_eq_ok.mpr hdescribed⟩

/-! ## Checking a source -/

/-- The faults of a tree are found where they are, and a source is refused for the first of them. -/
structure LocatesFaults (source : Source) (root : Node) : Prop where
  /-- A search with a stack finds the same faults in the same order. -/
  searched : searchFaults [root] [] = root.faults
  outermost : root.ListsOutermost root.faults
  nonempty : root.faults ≠ [] ↔ root.hasError
  described : ∀ lines,
    diagnostics source root = .ok lines ↔ List.Forall₂ (Describes source) (root.faults.take 5) lines
  taken : ∀ tree, checked source root = .ok (.ok tree) ↔ root.hasError = false ∧ root = tree
  refused : ∀ error, checked source root = .ok (.error error) ↔
    root.hasError ∧ diagnostics source root = .ok error.diagnostics
  quoted : ∀ error, checked source root = .ok (.error error) →
    ∃ first more, error.diagnostics = first :: more ∧
      error.message = "Failed to parse source: " ++ first
  /-- The source is taken or refused if no fault cuts a character in two. -/
  decided : (∀ fault ∈ root.faults, ∃ first last, source.Spans fault first last) →
    ∃ verdict, checked source root = .ok verdict

theorem checked_eq_ok {tree : Node} :
    checked source root = .ok (.ok tree) ↔ root.hasError = false ∧ root = tree := by
  unfold checked
  by_cases herror : root.hasError
  · rw [if_pos herror, herror]
    refine iff_of_false ?_ (by simp)
    cases diagnostics source root with
    | error fault => nofun
    | ok lines => nofun
  · rw [if_neg herror, Except.ok.injEq, Except.ok.injEq]
    simp [herror]

theorem checked_eq_error {error : ParseError} :
    checked source root = .ok (.error error) ↔
      root.hasError ∧ diagnostics source root = .ok error.diagnostics := by
  unfold checked
  by_cases herror : root.hasError
  · rw [if_pos herror, and_iff_right herror]
    cases diagnostics source root with
    | error fault => exact iff_of_false (by nofun) (by nofun)
    | ok lines =>
      constructor
      · intro hrefused
        obtain rfl : ⟨lines⟩ = error := Except.error.inj (Except.ok.inj hrefused)
        rfl
      · intro hlines
        obtain rfl : lines = error.diagnostics := Except.ok.inj hlines
        rfl
  · rw [if_neg herror]
    exact iff_of_false (by nofun) (fun h => herror h.1)

theorem ParseError.message_of_cons {error : ParseError} {first : String} {more : List String}
    (hlines : error.diagnostics = first :: more) :
    error.message = "Failed to parse source: " ++ first := by
  cases error
  subst hlines
  rfl

/-- A tree without the flag is taken. One with the flag is refused; then there is a fault, since the flag
leads to one, and the error quotes what describes the first. -/
theorem Node.IsFlagged.locatesFaults {root : Node} (hflagged : root.IsFlagged) (text : List Char) :
    LocatesFaults (.ofText text) root where
  searched := by
    rw [searchFaults_eq, List.flatMap_singleton, List.nil_append]
  outermost := hflagged.listsOutermost
  nonempty := by
    rw [ne_eq, Node.faults_eq_nil root hflagged, Bool.not_eq_false]
  described := fun _ => diagnostics_eq_ok
  taken := fun _ => checked_eq_ok
  refused := fun _ => checked_eq_error
  quoted := by
    intro error hrefused
    obtain ⟨herror, hlines⟩ := checked_eq_error.mp hrefused
    have hfaults : root.faults ≠ [] := by
      rw [ne_eq, Node.faults_eq_nil root hflagged, herror]
      decide
    obtain ⟨fault, faults, hfirst⟩ := List.exists_cons_of_ne_nil hfaults
    have hdescribed := diagnostics_eq_ok.mp hlines
    rw [hfirst, List.take_succ_cons] at hdescribed
    obtain ⟨first, more, -, -, hquoted⟩ := List.forall₂_cons_left_iff.mp hdescribed
    exact ⟨first, more, hquoted, ParseError.message_of_cons hquoted⟩
  decided := by
    intro hspans
    unfold checked
    by_cases herror : root.hasError
    · obtain ⟨lines, hlines⟩ := exists_diagnostics hspans
      rw [if_pos herror, hlines]
      exact ⟨_, rfl⟩
    · rw [if_neg herror]
      exact ⟨_, rfl⟩

/-- Two lines, the first of which is no program; on the second one a parenthesis is not closed. -/
def faultyText : List Char :=
  "é \x7d\nf(a;".toList

/-- Unexpected text, in which a token is missing. -/
def unexpectedNode : Node :=
  { type := "ERROR", stop := { octet := 4, column := 4 }, isError := true, hasError := true
    children := [{ type := ";", isMissing := true, hasError := true }] }

def missingNode : Node :=
  { type := ")", start := { octet := 8, row := 1, column := 3 }
    stop := { octet := 8, row := 1, column := 3 }, isMissing := true, hasError := true }

/-- A tree of this text with two outermost faults. -/
def faultyTree : Node :=
  { type := "program", stop := { octet := 9, row := 1, column := 4 }, hasError := true
    children := [unexpectedNode,
      { type := "expression_statement", start := { octet := 5, row := 1 }, hasError := true
        stop := { octet := 9, row := 1, column := 4 }
        children := [{ type := "identifier", start := { octet := 5, row := 1 } }, missingNode] }] }

theorem locatesFaults_faultyTree :
    faultyTree.IsFlagged ∧ LocatesFaults (.ofText faultyText) faultyTree ∧
      faultyTree.faults = [unexpectedNode, missingNode] ∧
      ∃ error, checked (.ofText faultyText) faultyTree = .ok (.error error) ∧
        error.diagnostics.length = 2 := by
  have hflagged : faultyTree.IsFlagged := by decide
  have hfaults : faultyTree.faults = [unexpectedNode, missingNode] := rfl
  have hlocates := hflagged.locatesFaults faultyText
  refine ⟨hflagged, hlocates, hfaults, ?_⟩
  have hspans : ∀ fault ∈ faultyTree.faults,
      ∃ first last, (Source.ofText faultyText).Spans fault first last := by
    rw [hfaults]
    simp only [List.forall_mem_cons, List.not_mem_nil]
    exact ⟨⟨0, 3, by decide, by decide, by decide⟩, ⟨7, 7, by decide, by decide, by decide⟩, nofun⟩
  obtain ⟨verdict, hverdict⟩ := hlocates.decided hspans
  cases verdict with
  | ok tree => exact absurd ((hlocates.taken tree).mp hverdict).1 (by decide)
  | error error =>
    refine ⟨error, hverdict, ?_⟩
    have hdescribed := (hlocates.described _).mp ((hlocates.refused error).mp hverdict).2
    rw [← hdescribed.length_eq, hfaults]
    rfl

end PageGraft.Syntax
