import PageGraft.Proofs.Margin

/-!
# Octets and characters

A source is cut and split by its octets. No octet of a character of several octets is below 0x80
(`ascii_mem_utf8EncodeChar`), so the octets of newlines, spaces and tabs stand for these characters only:

* `splitOn_encode`: the lines of the octets are the octets of the lines;
* `takeWhile_encode`: the blanks that the octets begin with are the octets of the blanks.

The octets between the offsets of two characters are the octets of the text between the two, since encoding
distributes over the pieces of a text (`slice_of_spans`). With these, the texts of nodes and the
indentations of lines are those of the text itself (`Source.nodeText_and_lineIndent`).
-/

namespace PageGraft.Text

open PageGraft.Component PageGraft.Syntax

/-! ## Lines -/

/-- The octets of lines that are put together. -/
theorem encode_unlines (parts : List (List Char)) :
    encode (unlines parts) = [0x0A].intercalate (parts.map encode) := by
  induction parts with
  | nil => rfl
  | cons line parts ih =>
    cases parts with
    | nil => simp [unlines]
    | cons next parts =>
      have hunlines : unlines (line :: next :: parts) = line ++ '\n' :: unlines (next :: parts) := by
        simp [unlines]
      have hnewline : String.utf8EncodeChar '\n' = [0x0A] := by decide
      rw [hunlines, encode_append, encode_cons, hnewline, ih]
      simp

theorem splitOn_encode (text : List Char) : (encode text).splitOn 0x0A = (lines text).map encode := by
  have hjoined : unlines (lines text) = text := List.intercalate_splitOn '\n'
  have hnewline : ∀ line ∈ (lines text).map encode, (0x0A : UInt8) ∉ line := by
    intro line hline hmem
    obtain ⟨original, horiginal, rfl⟩ := List.mem_map.mp hline
    have hcharacter : '\n' ∈ original :=
      (ascii_mem_encode (show '\n'.val.toNat < 0x80 by decide)).mp hmem
    exact newline_not_mem_of_mem_lines horiginal hcharacter
  have hnonempty : (lines text).map encode ≠ [] := by
    simp [lines]
  calc (encode text).splitOn 0x0A
      = ([0x0A].intercalate ((lines text).map encode)).splitOn 0x0A := by
        rw [← encode_unlines, hjoined]
    _ = (lines text).map encode := List.splitOn_intercalate 0x0A hnewline hnonempty

/-! ## Blanks -/

/-- The octets of a character are blanks if it is one; otherwise the first of them is none. -/
theorem isBlankOctet_of_mem {character : Char} {octet : UInt8}
    (hmem : octet ∈ String.utf8EncodeChar character) :
    Source.isBlankOctet octet = isBlank character := by
  rw [Bool.eq_iff_iff]
  simp only [Source.isBlankOctet, isBlank, Bool.or_eq_true, beq_iff_eq]
  exact or_congr (eq_ascii_of_mem (show ' '.val.toNat < 0x80 by decide) hmem)
    (eq_ascii_of_mem (show '\t'.val.toNat < 0x80 by decide) hmem)

theorem takeWhile_encode (text : List Char) :
    (encode text).takeWhile Source.isBlankOctet = encode (leadingBlanks text) := by
  induction text with
  | nil => rfl
  | cons character text ih =>
    rw [leadingBlanks] at ih ⊢
    by_cases hblank : isBlank character
    · have hoctets : ∀ octet ∈ String.utf8EncodeChar character, Source.isBlankOctet octet := by
        intro octet hmem
        rw [isBlankOctet_of_mem hmem, hblank]
      rw [encode_cons, List.takeWhile_append_of_pos hoctets, ih, List.takeWhile_cons_of_pos hblank,
        encode_cons]
    · obtain ⟨octet, others, -, -, -, -, hoctets, -⟩ := exists_lead character []
      have hfirst : Source.isBlankOctet octet = isBlank character :=
        isBlankOctet_of_mem (by simp [hoctets])
      rw [List.takeWhile_cons_of_neg hblank, encode_cons, hoctets, List.cons_append,
        List.takeWhile_cons_of_neg (by rwa [hfirst]), encode_nil]

end PageGraft.Text

namespace PageGraft.Syntax.Source

open PageGraft.Text

/-- A node stands between two characters of the source: its octets begin and end where the octets of the
characters in front of the two do. -/
structure Spans (source : Source) (node : Node) (first last : Nat) : Prop where
  le : first ≤ last
  start : node.start.octet = (encode (source.text.take first)).length
  stop : node.stop.octet = (encode (source.text.take last)).length

variable {text : List Char} {node : Node} {first last : Nat}

theorem slice_of_spans (hspans : (ofText text).Spans node first last) :
    (ofText text).slice node.start.octet node.stop.octet = encode ((text.take last).drop first) := by
  have hwhole : encode text = encode (text.take last) ++ encode (text.drop last) := by
    rw [← encode_append, List.take_append_drop]
  have hsplit : text.take last = text.take first ++ (text.take last).drop first := by
    have hjoined := List.take_append_drop first (text.take last)
    rw [List.take_take, Nat.min_eq_left hspans.le] at hjoined
    exact hjoined.symm
  have hfront : encode (text.take last) =
      encode (text.take first) ++ encode ((text.take last).drop first) := by
    rw [← encode_append, ← hsplit]
  show (((encode text).take node.stop.octet).drop node.start.octet) = _
  rw [hspans.start, hspans.stop]
  show (((encode text).take (encode (text.take last)).length).drop (encode (text.take first)).length) = _
  rw [hwhole, List.take_left, hfront, List.drop_left]

theorem nodeText?_of_spans (hspans : (ofText text).Spans node first last) :
    (ofText text).nodeText? node = .ok ((text.take last).drop first) := by
  rw [nodeText?, slice_of_spans hspans, decode_eq_ok]

theorem lineIndent_ofText (text : List Char) (row : Nat) :
    (ofText text).lineIndent row = ((lines text)[row]?.map leadingBlanks).getD [] := by
  have hrow : ((ofText text).octets.splitOn 0x0A)[row]? = (lines text)[row]?.map encode := by
    show ((encode text).splitOn 0x0A)[row]? = (lines text)[row]?.map encode
    rw [splitOn_encode, List.getElem?_map]
  rw [lineIndent, hrow]
  cases (lines text)[row]? with
  | none => rfl
  | some line =>
    show (decode ((encode line).takeWhile isBlankOctet)).toOption.getD [] = leadingBlanks line
    rw [takeWhile_encode, decode_eq_ok.mpr rfl]
    rfl

/-- A node between two characters has the text between them, and a line begins with the spaces and tabs of
the text's line, although nodes and lines are cut out of the octets. -/
theorem nodeText_and_lineIndent (text : List Char) :
    (∀ node first last, (ofText text).Spans node first last →
      (ofText text).nodeText? node = .ok ((text.take last).drop first)) ∧
    ∀ row, (ofText text).lineIndent row = ((lines text)[row]?.map leadingBlanks).getD [] :=
  ⟨fun _ _ _ => nodeText?_of_spans, lineIndent_ofText text⟩

/-- Two lines with characters of one to four octets; the second begins with a space and a tab. -/
def mixedText : List Char :=
  "é\n \t✓x😀\n".toList

def mixedNode : Node :=
  { type := "identifier", start := { octet := 5, row := 1 }, stop := { octet := 13, row := 1 } }

theorem nodeText_and_lineIndent_mixedText :
    (ofText mixedText).Spans mixedNode 4 7 ∧
      (ofText mixedText).nodeText? mixedNode = .ok "✓x😀".toList ∧
      (ofText mixedText).lineIndent 1 = " \t".toList ∧ (ofText mixedText).lineIndent 7 = [] := by
  have hspans : (ofText mixedText).Spans mixedNode 4 7 := by
    refine ⟨by decide, ?_, ?_⟩
    · decide
    · decide
  obtain ⟨hnode, hline⟩ := nodeText_and_lineIndent mixedText
  refine ⟨hspans, hnode mixedNode 4 7 hspans, ?_, ?_⟩
  · rw [hline]
    decide
  · rw [hline]
    decide

end PageGraft.Syntax.Source
