import PageGraft.Component.Rendering
import PageGraft.Proofs.Reading
import PageGraft.Proofs.Utf8

/-!
# Indentation

The text of a node is moved to the left margin (`serialize`) and, in the page, to the indentation of what it
takes the place of (`indentLines`). Line by line, the two change blank lines and the spaces and tabs that a
line begins with, and nothing else: every line keeps its `lineText`. At the indentation that the text had in
the component, they cancel (`indentLines_serialize`).
-/

namespace PageGraft.Component

open PageGraft.Script PageGraft.Settings PageGraft.Syntax PageGraft.Text

/-! ## Lines -/

section

variable {text line indent : List Char}

theorem mem_of_mem_lines {character : Char} (hline : line ∈ lines text) (hmem : character ∈ line) :
    character ∈ text ∧ character ≠ '\n' :=
  Page.mem_of_mem_splitOn hline hmem

theorem newline_not_mem_of_mem_lines (hline : line ∈ lines text) : '\n' ∉ line :=
  fun hmem => (mem_of_mem_lines hline hmem).2 rfl

theorem unlines_append_cons (indent first : List Char) (more : List (List Char)) :
    unlines ((indent ++ first) :: more) = indent ++ unlines (first :: more) := by
  cases more <;> simp [unlines, List.intercalate]

/-- A change of single lines is a change of the lines of the text. -/
theorem lines_unlines_map {change : List Char → List Char} {parts : List (List Char)} (hne : parts ≠ [])
    (hchange : ∀ line ∈ parts, '\n' ∉ change line) :
    lines (unlines (parts.map change)) = parts.map change :=
  List.splitOn_intercalate '\n' (by simpa using hchange) (by simpa using hne)

theorem lines_indentLines (hindent : indent.all isBlank) (code : List Char) :
    lines (indentLines indent code) =
      (lines code).map fun line => if isBlankLine line then line else indent ++ line := by
  refine lines_unlines_map (List.splitOn_ne_nil '\n' code) fun line hline => ?_
  have hnewline := newline_not_mem_of_mem_lines hline
  split
  · exact hnewline
  · simp [hnewline, Page.newline_not_mem_of_isBlank hindent]

/-! ## The text of a line -/

/-- What stands in a line behind the spaces and tabs that it begins with; nothing, if it is blank. -/
def lineText (line : List Char) : List Char :=
  if isBlankLine line then [] else line.dropWhile isBlank

theorem isBlankLine_append (hindent : indent.all isBlank) :
    isBlankLine (indent ++ line) = isBlankLine line := by
  rw [isBlankLine, List.all_append, Page.all_isSpace_of_isBlank hindent, Bool.true_and]
  rfl

theorem lineText_append (hindent : indent.all isBlank) : lineText (indent ++ line) = lineText line := by
  rw [lineText, isBlankLine_append hindent, List.dropWhile_append_of_pos (List.all_eq_true.mp hindent)]
  rfl

theorem lineText_eq_nil : lineText line = [] ↔ isBlankLine line := by
  constructor
  · intro hnil
    by_contra hblank
    rw [lineText, if_neg hblank, List.dropWhile_eq_nil_iff] at hnil
    exact hblank (Page.all_isSpace_of_isBlank (List.all_eq_true.mpr hnil))
  · intro hblank
    rw [lineText, if_pos hblank]

/-- A line with the same text is blank where the other one is. Where that is not blank, it goes on with the
same behind the spaces and tabs that it begins with. -/
theorem dropWhile_eq_of_lineText_eq {original : List Char} (htext : lineText original = lineText line) :
    (isBlankLine original → isBlankLine line) ∧
      (isBlankLine original = false → line.dropWhile isBlank = original.dropWhile isBlank) := by
  have hblanks : isBlankLine original ↔ isBlankLine line := by
    rw [← lineText_eq_nil, htext, lineText_eq_nil]
  refine ⟨hblanks.mp, fun hblank => ?_⟩
  have hblank' : ¬ isBlankLine line := by
    rw [← hblanks, hblank]
    exact Bool.false_ne_true
  rw [lineText, lineText, hblank, if_neg Bool.false_ne_true, if_neg hblank'] at htext
  exact htext.symm

theorem lineText_dedent (hindent : indent.all isBlank) : lineText (dedent indent line) = lineText line := by
  unfold dedent
  split
  · rename_i hblank
    rw [lineText, lineText, if_pos hblank]
    rfl
  · split
    · rename_i hbegins
      obtain ⟨rest, rfl⟩ := List.isPrefixOf_iff_prefix.mp hbegins
      rw [List.drop_left, lineText_append hindent]
    · rfl

theorem lineText_expandTabs (width : Nat) (line : List Char) :
    lineText (expandTabs width line) = lineText line := by
  obtain ⟨tabs, rest, hline, htabs, hexpand⟩ : ∃ tabs rest, line = tabs ++ rest ∧ tabs.all isBlank ∧
      expandTabs width line = List.replicate (tabs.length * width) ' ' ++ rest := by
    refine ⟨line.takeWhile (· == '\t'), line.dropWhile (· == '\t'),
      List.takeWhile_append_dropWhile.symm, ?_, ?_⟩
    · rw [List.all_eq_true]
      intro character hmem
      have htab := List.mem_takeWhile_imp hmem
      simp [isBlank, beq_iff_eq.mp htab]
    · rw [expandTabs]
      congr 1
      nth_rewrite 2 [← List.takeWhile_append_dropWhile (p := (· == '\t')) (l := line)]
      exact List.drop_left
  have hspaces : (List.replicate (tabs.length * width) ' ').all isBlank := by
    simp [isBlank]
  rw [hexpand, lineText_append hspaces, hline, lineText_append htabs]

theorem expandTabs_eq_self (width : Nat) (htab : '\t' ∉ line) : expandTabs width line = line := by
  have hnone : line.takeWhile (· == '\t') = [] := by
    rw [List.takeWhile_eq_nil_iff]
    intro hpos hhead
    exact htab (beq_iff_eq.mp hhead ▸ List.getElem_mem hpos)
  simp [expandTabs, hnone]

end

/-! ## The text of a node at the left margin -/

section

variable {settings : TransformSettings} {source : Source} {node : Node} {first : List Char}
  {rest : List (List Char)}

/-- Octets of spaces and tabs are spaces and tabs. -/
theorem exists_blanks {octets : List UInt8} (hoctets : octets.all Source.isBlankOctet) :
    ∃ blanks : List Char, blanks.all isBlank ∧ encode blanks = octets := by
  induction octets with
  | nil => exact ⟨[], rfl, rfl⟩
  | cons octet octets ih =>
    rw [List.all_cons, Bool.and_eq_true, Source.isBlankOctet, Bool.or_eq_true, beq_iff_eq,
      beq_iff_eq] at hoctets
    obtain ⟨blanks, hblanks, rfl⟩ := ih hoctets.2
    rcases hoctets.1 with rfl | rfl
    · exact ⟨' ' :: blanks, by simp [isBlank, hblanks], rfl⟩
    · exact ⟨'\t' :: blanks, by simp [isBlank, hblanks], rfl⟩

theorem isBlank_of_lineIndent (source : Source) (row : Nat) : (source.lineIndent row).all isBlank := by
  unfold Source.lineIndent
  split
  · rename_i line _
    have hoctets : (line.takeWhile Source.isBlankOctet).all Source.isBlankOctet := List.all_takeWhile
    obtain ⟨blanks, hblanks, hencode⟩ := exists_blanks hoctets
    rw [decode_eq_ok.mpr hencode]
    exact hblanks
  · rfl

theorem newline_not_mem_expandTabs {line : List Char} (width : Nat) (hline : '\n' ∉ line) :
    '\n' ∉ expandTabs width line := by
  rw [expandTabs, List.mem_append, not_or]
  exact ⟨by simp, fun hmem => hline (List.mem_of_mem_drop hmem)⟩

theorem newline_not_mem_dedent {indent line : List Char} (hline : '\n' ∉ line) :
    '\n' ∉ dedent indent line := by
  unfold dedent
  split
  · exact List.not_mem_nil
  · split
    · exact fun hmem => hline (List.mem_of_mem_drop hmem)
    · exact hline

theorem lines_serialize (htext : lines (source.nodeText node) = first :: rest) :
    lines (serialize settings source node) =
      (first :: rest.map (dedent (source.lineIndent node.start.row))).map
        (expandTabs settings.indentWidth) := by
  simp only [serialize, htext]
  refine lines_unlines_map (List.cons_ne_nil _ _) fun line hline => newline_not_mem_expandTabs _ ?_
  rcases List.mem_cons.mp hline with rfl | hline
  · exact newline_not_mem_of_mem_lines (htext ▸ List.mem_cons_self)
  · obtain ⟨original, hmem, rfl⟩ := List.mem_map.mp hline
    exact newline_not_mem_dedent (newline_not_mem_of_mem_lines (htext ▸ List.mem_cons_of_mem _ hmem))

/-- Every line of a node keeps its text on its way to the left margin and to another indentation. -/
theorem map_lineText_indentLines_serialize (settings : TransformSettings) (source : Source) (node : Node)
    {indent : List Char} (hindent : indent.all isBlank) :
    (lines (indentLines indent (serialize settings source node))).map lineText =
      (lines (source.nodeText node)).map lineText := by
  obtain ⟨first, rest, htext⟩ :=
    List.exists_cons_of_ne_nil (List.splitOn_ne_nil '\n' (source.nodeText node))
  have hindented : ∀ line : List Char,
      lineText (if isBlankLine line then line else indent ++ line) = lineText line := by
    intro line
    split
    · rfl
    · exact lineText_append hindent
  rw [lines_indentLines hindent, lines_serialize htext, show lines _ = _ from htext]
  simp only [List.map_map, List.map_cons, Function.comp_def, hindented, lineText_expandTabs,
    lineText_dedent (isBlank_of_lineIndent source node.start.row)]

/-- A line without tabs that begins with the indentation it loses gets it back. -/
theorem indented_expandTabs_dedent {indent line : List Char} (width : Nat) (hindent : indent.all isBlank)
    (htab : '\t' ∉ line) (hbegins : isBlankLine line = false → indent <+: line) :
    (if isBlankLine (expandTabs width (dedent indent line)) then expandTabs width (dedent indent line)
      else indent ++ expandTabs width (dedent indent line)) = if isBlankLine line then [] else line := by
  cases hblank : isBlankLine line with
  | true =>
    rw [dedent, if_pos hblank, expandTabs_eq_self width List.not_mem_nil]
    rfl
  | false =>
    obtain ⟨rest, rfl⟩ := hbegins hblank
    have hrest : '\t' ∉ rest := fun hmem => htab (List.mem_append_right _ hmem)
    rw [dedent, hblank, if_neg Bool.false_ne_true,
      if_pos (List.isPrefixOf_iff_prefix.mpr (List.prefix_append ..)), List.drop_left,
      expandTabs_eq_self width hrest]
    rw [isBlankLine_append hindent] at hblank
    rw [hblank, if_neg Bool.false_ne_true, if_neg Bool.false_ne_true]

/-- At the indentation that a text without tabs had in the component, the two steps cancel. -/
theorem indentLines_serialize_eq (htext : lines (source.nodeText node) = first :: rest)
    (hfirst : isBlankLine first = false) (htab : '\t' ∉ source.nodeText node)
    (hbegins : ∀ line ∈ rest, isBlankLine line = false → source.lineIndent node.start.row <+: line) :
    indentLines (source.lineIndent node.start.row) (serialize settings source node) =
      source.lineIndent node.start.row ++
        unlines (first :: rest.map fun line => if isBlankLine line then [] else line) := by
  have hindent := isBlank_of_lineIndent source node.start.row
  have htabs : ∀ line ∈ first :: rest, '\t' ∉ line := by
    intro line hline hmem
    exact htab (mem_of_mem_lines (show line ∈ lines _ from htext ▸ hline) hmem).1
  rw [indentLines, lines_serialize htext, ← unlines_append_cons, List.map_cons, List.map_cons,
    expandTabs_eq_self _ (htabs first List.mem_cons_self), hfirst, if_neg Bool.false_ne_true,
    List.map_map, List.map_map]
  congr 2
  apply List.map_congr_left
  intro line hline
  exact indented_expandTabs_dedent _ hindent (htabs line (List.mem_cons_of_mem _ hline)) (hbegins line hline)

/-- Moved to the left margin and back to the indentation of the line that it begins on, the text of a node
is the same but for white space on blank lines, if no tab is in it and its lines have that indentation. At
any other indentation, too, each line keeps what stands behind its spaces and tabs, and blank lines stay
blank. -/
theorem indentLines_serialize (settings : TransformSettings) (source : Source) (node : Node) :
    (∀ first rest, lines (source.nodeText node) = first :: rest → isBlankLine first = false →
      '\t' ∉ source.nodeText node →
      (∀ line ∈ rest, isBlankLine line = false → source.lineIndent node.start.row <+: line) →
      (indentLines (source.lineIndent node.start.row) (serialize settings source node)).drop
          (source.lineIndent node.start.row).length =
        unlines (first :: rest.map fun line => if isBlankLine line then [] else line)) ∧
    ∀ indent, indent.all isBlank →
      List.Forall₂
        (fun original line => (isBlankLine original → isBlankLine line) ∧
          (isBlankLine original = false → line.dropWhile isBlank = original.dropWhile isBlank))
        (lines (source.nodeText node)) (lines (indentLines indent (serialize settings source node))) := by
  constructor
  · intro first rest htext hfirst htab hbegins
    rw [indentLines_serialize_eq htext hfirst htab hbegins, List.drop_left]
  · intro indent hindent
    have htexts := map_lineText_indentLines_serialize settings source node hindent
    rw [eq_comm, ← List.forall₂_eq_eq_eq, List.forall₂_map_left_iff, List.forall₂_map_right_iff] at htexts
    exact htexts.imp fun _ _ => dropWhile_eq_of_lineText_eq

end

/-- A call over four lines, two spaces from the margin; the third line holds white space only. -/
def nestedCall : Source :=
  .ofText "  f(\n    a,\n \n  )".toList

def nestedCallNode : Node :=
  { type := "call_expression", start := { octet := 2 }, stop := { octet := 17 } }

theorem indentLines_serialize_nestedCall :
    (indentLines "  ".toList (serialize {} nestedCall nestedCallNode)).drop 2 = "f(\n    a,\n\n  )".toList ∧
      List.Forall₂
        (fun original line => (isBlankLine original → isBlankLine line) ∧
          (isBlankLine original = false → line.dropWhile isBlank = original.dropWhile isBlank))
        ["f(".toList, "    a,".toList, " ".toList, "  )".toList]
        (lines (indentLines "\t".toList (serialize {} nestedCall nestedCallNode))) := by
  have htext : lines (nestedCall.nodeText nestedCallNode) =
      ["f(".toList, "    a,".toList, " ".toList, "  )".toList] := by
    decide +kernel
  have hindent : nestedCall.lineIndent nestedCallNode.start.row = "  ".toList := by
    decide +kernel
  obtain ⟨hcancel, hkeeps⟩ := indentLines_serialize {} nestedCall nestedCallNode
  rw [hindent] at hcancel
  rw [htext] at hcancel hkeeps
  refine ⟨?_, hkeeps "\t".toList rfl⟩
  exact hcancel "f(".toList _ rfl (by decide) (by decide +kernel) (by decide +kernel)

end PageGraft.Component
