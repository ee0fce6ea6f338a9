import PageGraft.Proofs.Header
import PageGraft.Proofs.Scan

/-!
# Declarations in their place

What the search for a declaration finds does not depend on the text in front of the declaration,
apart from the indentation of its line. `findFunction_append` puts a text that begins with a
declaration behind any front part in which no header begins.
-/

namespace PageGraft.Page

open PageGraft.Text PageGraft.Script

/-! ## The line of an index -/

/-- The text after the last newline. -/
def lastLine (text : List Char) : List Char :=
  (text.reverse.takeWhile (· ≠ '\n')).reverse

theorem lastLine_append_newline {front line : List Char} (hline : '\n' ∉ line) :
    lastLine (front ++ '\n' :: line) = line := by
  have hrun : line.reverse.all (· ≠ '\n') := by
    rw [List.all_eq_true]
    intro character hcharacter
    rw [List.mem_reverse] at hcharacter
    exact decide_eq_true (ne_of_mem_of_not_mem hcharacter hline)
  have htake : (line.reverse ++ '\n' :: front.reverse).takeWhile (· ≠ '\n') = line.reverse :=
    takeWhile_append_of_head hrun (by simp)
  rw [lastLine, List.reverse_append, List.reverse_cons, List.append_assoc, List.singleton_append,
    htake, List.reverse_reverse]

theorem not_mem_lastLine {text : List Char} : '\n' ∉ lastLine text := by
  intro hnewline
  rw [lastLine, List.mem_reverse] at hnewline
  simpa using List.mem_takeWhile_imp hnewline

theorem exists_eq_append_lastLine (text : List Char) :
    ∃ front, text = front ++ lastLine text ∧ (front = [] ∨ front.getLast? = some '\n') := by
  refine ⟨(text.reverse.dropWhile (· ≠ '\n')).reverse, ?_, ?_⟩
  · rw [lastLine, ← List.reverse_append, List.takeWhile_append_dropWhile, List.reverse_reverse]
  · have hhead := List.head?_dropWhile_not (· ≠ '\n') text.reverse
    cases hrest : text.reverse.dropWhile (· ≠ '\n') with
    | nil => exact .inl rfl
    | cons last rest =>
      right
      rw [hrest] at hhead
      simpa using hhead

theorem lineStart_append {front rest : List Char} :
    lineStart (front ++ rest) front.length = front.length - (lastLine front).length := by
  simp [lineStart, lastLine]

/-- The line of an index begins at another index: a newline or nothing stands in front of it, and no
newline between the two. -/
structure BeginsLine (text : List Char) (start index : Nat) : Prop where
  le : start ≤ index
  front : start = 0 ∨ text[start - 1]? = some '\n'
  within : ∀ position, start ≤ position → position < index → text[position]? ≠ some '\n'

theorem beginsLine_lineStart {text : List Char} {index : Nat} (hindex : index ≤ text.length) :
    BeginsLine text (lineStart text index) index := by
  have hstart : lineStart text index = index - (lastLine (text.take index)).length := by
    simp [lineStart, lastLine]
  have hlength : (text.take index).length = index := List.length_take_of_le hindex
  have hline := @not_mem_lastLine (text.take index)
  obtain ⟨front, hfront, hends⟩ := exists_eq_append_lastLine (text.take index)
  generalize lastLine (text.take index) = line at hstart hline hfront
  have hcount : front.length + line.length = index := by
    rw [← List.length_append, ← hfront, hlength]
  have hget : ∀ position < index, text[position]? = (front ++ line)[position]? := by
    intro position hposition
    rw [← hfront, List.getElem?_take_of_lt hposition]
  have hbegin : lineStart text index = front.length := by omega
  rw [hbegin]
  refine ⟨by omega, ?_, ?_⟩
  · rcases hends with rfl | hnewline
    · exact .inl rfl
    · right
      have hpositive : 0 < front.length := by
        cases front with
        | nil => simp at hnewline
        | cons first front => exact Nat.succ_pos _
      rw [hget _ (by omega), List.getElem?_append_left (by omega), ← List.getLast?_eq_getElem?]
      exact hnewline
  · intro position hle hlt hnewline
    rw [hget position hlt, List.getElem?_append_right hle] at hnewline
    exact hline (List.mem_of_getElem? hnewline)

theorem BeginsLine.unique {text : List Char} {start other index : Nat} (hstart : BeginsLine text start index)
    (hother : BeginsLine text other index) : start = other := by
  have hle : ∀ {first second : Nat}, BeginsLine text first index → BeginsLine text second index →
      second ≤ first := by
    intro first second hfirst hsecond
    by_contra hlt
    rcases hsecond.front with hzero | hnewline
    · omega
    · have hle := hsecond.le
      exact hfirst.within (second - 1) (by omega) (by omega) hnewline
  exact Nat.le_antisymm (hle hother hstart) (hle hstart hother)

/-- The indentation of a line is that of its part in front of an index, unless white space
follows. -/
theorem indentAt_append {front rest : List Char}
    (hrest : ∀ character ∈ rest.head?, isSpace character = false) :
    indentAt (front ++ rest) front.length = leadingBlanks (lastLine front) := by
  obtain ⟨begun, hsplit, -⟩ := exists_eq_append_lastLine front
  have hdrop : ∀ begun line : List Char, front = begun ++ line →
      (front ++ rest).drop (front.length - line.length) = line ++ rest := by
    rintro begun line rfl
    rw [List.length_append, Nat.add_sub_cancel, List.append_assoc, List.drop_left]
  rw [indentAt, lineStart_append, hdrop _ _ hsplit, leadingBlanks, leadingBlanks,
    List.takeWhile_append]
  split
  · rename_i hall
    have hblank : ∀ character ∈ rest.head?, isBlank character = false := by
      intro character hcharacter
      by_contra hblank
      have hspace := isSpace_of_isBlank (Bool.of_not_eq_false hblank)
      rw [hrest character hcharacter] at hspace
      exact Bool.false_ne_true hspace
    have hnone : ([] ++ rest).takeWhile isBlank = [] := takeWhile_append_of_head rfl hblank
    rw [List.nil_append] at hnone
    rw [hnone, List.append_nil]
    exact ((List.takeWhile_prefix _).eq_of_length hall).symm
  · rfl

/-! ## New lines -/

variable {indent : List Char}

theorem isSpace_of_indent (hindent : indent.all isBlank) : ('\n' :: indent).all isSpace := by
  rw [List.all_cons, Bool.and_eq_true]
  exact ⟨by decide, all_isSpace_of_isBlank hindent⟩

/-- A word can begin on a new line. -/
theorem startsWord_of_indent {front : List Char} (hindent : indent.all isBlank) :
    startsWord (front ++ '\n' :: indent).getLast? := by
  rw [List.getLast?_append, List.getLast?_cons, Option.some_or]
  cases hlast : indent.getLast? with
  | none => decide
  | some last =>
    have hblank := List.all_eq_true.mp hindent last (List.mem_of_getLast? hlast)
    simp only [isBlank, Bool.or_eq_true, beq_iff_eq] at hblank
    rcases hblank with rfl | rfl <;> decide

/-! ## Ends of bodies -/

/-- The first rule that finds the end of a body, and the length of the body. -/
def bodyEnd? (balancedMatching : Bool) (text : List Char) : Option (BodyEnd × Nat) :=
  (BodyEnd.order balancedMatching).findSome? fun rule =>
    (rule.bodyLength text).map fun length => (rule, length)

theorem findFunction_eq (balancedMatching : Bool) (text name : List Char) :
    findFunction balancedMatching text name =
      (findHeader text name).bind fun (start, brace) =>
        (bodyEnd? balancedMatching (text.drop brace)).map fun (rule, length) =>
          { start, stop := brace + length, indent := indentAt text start, bodyEnd := rule } := by
  unfold findFunction bodyEnd?
  simp only [List.map_findSome?, Function.comp_def, Option.map_map]
  rfl

/-- What a search finds: a header with a body, and the first rule that ends the body. -/
theorem findFunction_eq_some {balancedMatching : Bool} {text name : List Char}
    {span : FunctionSpan} :
    findFunction balancedMatching text name = some span ↔
      ∃ brace length, findHeader text name = some (span.start, brace) ∧
        bodyEnd? balancedMatching (text.drop brace) = some (span.bodyEnd, length) ∧
        span.stop = brace + length ∧ span.indent = indentAt text span.start := by
  rw [findFunction_eq]
  simp only [Option.bind_eq_some_iff, Option.map_eq_some_iff, Prod.exists]
  constructor
  · rintro ⟨start, brace, hheader, rule, length, hend, rfl⟩
    exact ⟨brace, length, hheader, hend, rfl, rfl⟩
  · rintro ⟨brace, length, hheader, hend, hstop, hindent⟩
    refine ⟨span.start, brace, hheader, span.bodyEnd, length, hend, ?_⟩
    rw [← hstop, ← hindent]

/-! ## Declarations behind a front part -/

variable {balancedMatching : Bool} {name : List Char}

/-- A text at whose beginning a declaration is found begins with a letter. -/
theorem isSpace_head_of_findFunction {text : List Char} {span : FunctionSpan}
    (hfound : findFunction balancedMatching text name = some span) (hstart : span.start = 0) :
    ∀ character ∈ text.head?, isSpace character = false := by
  obtain ⟨brace, -, hheader, -⟩ := findFunction_eq_some.mp hfound
  obtain ⟨front, rest, length, -, rfl, hfront, hheader, -⟩ := functionHeader_of_headerFrom hheader
  rw [hstart, List.length_eq_zero_iff] at hfront
  subst hfront
  exact isSpace_head_of_functionHeader hheader

/-- A declaration that a text begins with is found behind every front part in which no header
begins and that a word can follow. -/
theorem findFunction_append {front rest : List Char} {span : FunctionSpan}
    (hfound : findFunction balancedMatching rest name = some span) (hstart : span.start = 0)
    (hword : startsWord front.getLast?)
    (hpasses : Finder.Passes (functionHeader name) none front rest) :
    findFunction balancedMatching (front ++ rest) name =
      some { start := front.length
             stop := front.length + span.stop
             indent := leadingBlanks (lastLine front)
             bodyEnd := span.bodyEnd } := by
  have hletter := isSpace_head_of_findFunction hfound hstart
  obtain ⟨brace, length, hheader, hend, hstop, -⟩ := findFunction_eq_some.mp hfound
  rw [hstart] at hheader
  have hplaced : findHeader (front ++ rest) name = some (front.length, front.length + brace) :=
    headerFrom_append_of_start hheader (by simpa using hword) hpasses
  have hindent : leadingBlanks (lastLine front) = indentAt (front ++ rest) front.length :=
    (indentAt_append hletter).symm
  refine findFunction_eq_some.mpr ⟨front.length + brace, length, hplaced, ?_, ?_, hindent⟩
  · rw [← List.drop_drop, List.drop_left]
    exact hend
  · show front.length + span.stop = front.length + brace + length
    omega

/-! ## The last character of a declaration -/

/-- A bracket reader stops at a closing bracket. -/
theorem isCloser_of_closingDistance {text expected before : List Char} {previous : Option Char}
    {distance : Nat} (hdistance : closingDistance expected previous before text = some distance) :
    ∃ closer, text[distance]? = some closer ∧ isCloser closer := by
  have hrun : Scan.distance ⟨expected, previous, before, text⟩ = some distance := hdistance
  obtain ⟨last, hpasses, closer, rest, hcloser, -, hrest⟩ := Scan.exists_passes_of_distance hrun
  refine ⟨closer, ?_, hcloser⟩
  rw [← List.head?_drop, ← hpasses.rest_eq, hrest, List.head?_cons]

theorem getElem?_of_distanceTo {mark : Char} {text : List Char} {distance : Nat}
    (hdistance : distanceTo [mark] text = some distance) : text[distance]? = some mark := by
  induction text generalizing distance with
  | nil => simp [distanceTo] at hdistance
  | cons character text ih =>
    rw [distanceTo] at hdistance
    split at hdistance
    · rename_i hprefix
      obtain rfl : 0 = distance := by simpa using hdistance
      obtain rfl : mark = character := by simpa using hprefix
      rfl
    · obtain ⟨inner, hinner, rfl⟩ := Option.map_eq_some_iff.mp hdistance
      exact ih hinner

theorem getElem?_of_closingLineLength {text : List Char} {length : Nat}
    (hlength : closingLineLength text = some length) :
    ∃ further, length = further + 1 ∧ text[further]? = some '}' := by
  induction text generalizing length with
  | nil => simp [closingLineLength] at hlength
  | cons character text ih =>
    rw [closingLineLength] at hlength
    split at hlength
    · rename_i hcloser
      obtain rfl : _ + 2 = length := by simpa using hlength
      rw [Bool.and_eq_true, decide_eq_true_eq, decide_eq_true_eq, List.head?_drop] at hcloser
      exact ⟨_, rfl, hcloser.2⟩
    · obtain ⟨inner, hinner, rfl⟩ := Option.map_eq_some_iff.mp hlength
      obtain ⟨further, rfl, hfurther⟩ := ih hinner
      exact ⟨further + 1, rfl, hfurther⟩

/-- A body ends with a closing bracket, by whatever rule. -/
theorem isCloser_of_bodyLength {rule : BodyEnd} {text : List Char} {length : Nat}
    (hlength : rule.bodyLength text = some length) :
    ∃ further closer, length = further + 1 ∧ text[further]? = some closer ∧ isCloser closer := by
  cases rule with
  | balanced =>
    obtain ⟨distance, hdistance, rfl⟩ := Option.map_eq_some_iff.mp hlength
    unfold groupLength at hdistance
    split at hdistance
    · split at hdistance
      · obtain ⟨closer, hclosing, hcloser⟩ := isCloser_of_closingDistance hdistance
        exact ⟨distance, closer, rfl, hclosing, hcloser⟩
      · simp at hdistance
    · simp at hdistance
  | closingLine =>
    obtain ⟨inner, hinner, rfl⟩ := Option.map_eq_some_iff.mp hlength
    obtain ⟨further, rfl, hfurther⟩ := getElem?_of_closingLineLength hinner
    rw [List.getElem?_drop, Nat.add_comm] at hfurther
    exact ⟨further + 1, '}', rfl, hfurther, rfl⟩
  | firstBrace =>
    obtain ⟨distance, hdistance, rfl⟩ := Option.map_eq_some_iff.mp hlength
    have hbrace := getElem?_of_distanceTo hdistance
    rw [List.getElem?_drop, Nat.add_comm] at hbrace
    exact ⟨distance + 1, '}', rfl, hbrace, rfl⟩
  | afterReturn =>
    obtain ⟨toReturn, -, hlater⟩ := Option.bind_eq_some_iff.mp hlength
    obtain ⟨toBrace, hdistance, hsum⟩ := Option.bind_eq_some_iff.mp hlater
    obtain rfl : toReturn + toBrace + 8 = length := by simpa using hsum
    have hbrace := getElem?_of_distanceTo hdistance
    rw [List.getElem?_drop] at hbrace
    refine ⟨toReturn + 7 + toBrace, '}', by omega, hbrace, rfl⟩

/-- A declaration that is found: it begins where a word can begin and ends with a closing bracket. -/
theorem exists_of_findFunction {balancedMatching : Bool} {name text : List Char}
    {span : FunctionSpan} (hfound : findFunction balancedMatching text name = some span) :
    ∃ front old rest closer, text = front ++ (old ++ rest) ∧ span.start = front.length ∧
      span.stop = (front ++ old).length ∧ startsWord front.getLast? ∧
      old.getLast? = some closer ∧ isCloser closer := by
  obtain ⟨brace, length, hheader, hend, hstop, -⟩ := findFunction_eq_some.mp hfound
  obtain ⟨front, behind, headed, distance, rfl, hstart, hheader, -, hbrace⟩ :=
    functionHeader_of_headerFrom hheader
  obtain ⟨rule, -, hrule⟩ := List.exists_of_findSome?_eq_some hend
  obtain ⟨found, hlength, hpair⟩ := Option.map_eq_some_iff.mp hrule
  obtain ⟨further, closer, rfl, hcloser, hclosing⟩ := isCloser_of_bodyLength hlength
  obtain ⟨-, rfl⟩ : rule = span.bodyEnd ∧ further + 1 = length := by simpa using hpair
  have hword := (functionHeader_eq_some.mp hheader).1
  rw [Option.or_none] at hword
  -- the end is in the text behind the front part
  obtain ⟨position, hposition⟩ : ∃ position, brace + further = front.length + position :=
    ⟨headed - 1 + distance + further, by omega⟩
  rw [List.getElem?_drop, hposition, List.getElem?_append_right (Nat.le_add_right _ _),
    Nat.add_sub_cancel_left] at hcloser
  have hlong : position < behind.length := by
    by_contra hshort
    rw [List.getElem?_eq_none (by omega)] at hcloser
    simp at hcloser
  refine ⟨front, behind.take (position + 1), behind.drop (position + 1), closer, ?_, hstart.symm,
    ?_, hword, ?_, hclosing⟩
  · rw [List.take_append_drop]
  · rw [List.length_append, List.length_take, hstop]
    omega
  · rw [List.getLast?_take, if_neg (Nat.succ_ne_zero _), Nat.add_sub_cancel, hcloser]
    rfl
/-! ## Declarations that are a whole text -/

/-- A text from the parenthesis of its parameters on has a body if its parentheses close and only
white space stands in front of a brace. -/
theorem bodyDistance_eq_some {text : List Char} {distance : Nat} :
    bodyDistance text = some distance ↔
      ∃ parameters gap body, text = parameters ++ (gap ++ '\x7b' :: body) ∧ parameters ≠ [] ∧
        groupLength text = some (parameters.length - 1) ∧ gap.all isSpace ∧
        distance = parameters.length + gap.length := by
  unfold bodyDistance
  simp only [Option.bind_eq_bind, Option.bind_eq_some_iff]
  constructor
  · rintro ⟨closing, hgroup, h⟩
    split at h
    · rename_i hbrace
      obtain rfl : closing + 1 + _ = distance := by simpa using h
      have hdrop : ((text.drop (closing + 1)).drop
          ((text.drop (closing + 1)).takeWhile isSpace).length) =
            (text.drop (closing + 1)).dropWhile isSpace := by
        have hsplit :=
          List.takeWhile_append_dropWhile (p := isSpace) (l := text.drop (closing + 1))
        generalize (text.drop (closing + 1)).dropWhile isSpace = rest at hsplit ⊢
        generalize (text.drop (closing + 1)).takeWhile isSpace = gap at hsplit ⊢
        rw [← hsplit, List.drop_left]
      rw [hdrop] at hbrace
      obtain ⟨body, hbody⟩ := List.head?_eq_some_iff.mp hbrace
      have htext : text = text.take (closing + 1) ++
          ((text.drop (closing + 1)).takeWhile isSpace ++ '\x7b' :: body) := by
        rw [← hbody, List.takeWhile_append_dropWhile, List.take_append_drop]
      have hlength : (text.take (closing + 1)).length = closing + 1 := by
        rw [List.length_take]
        have hnonempty : text.drop (closing + 1) ≠ [] := by
          intro hempty
          simp [hempty] at hbody
        rw [ne_eq, List.drop_eq_nil_iff] at hnonempty
        omega
      refine ⟨text.take (closing + 1), (text.drop (closing + 1)).takeWhile isSpace, body, htext, ?_,
        ?_, by simp, ?_⟩
      · rw [← List.length_pos_iff, hlength]
        omega
      · rw [hlength, hgroup]
        rfl
      · rw [hlength]
    · simp at h
  · rintro ⟨parameters, gap, body, rfl, hparameters, hgroup, hgap, rfl⟩
    have hpositive := List.length_pos_iff.mpr hparameters
    have hclosing : parameters.length - 1 + 1 = parameters.length := by omega
    have htake : (gap ++ '\x7b' :: body).takeWhile isSpace = gap :=
      takeWhile_append_of_head hgap (by simp; decide)
    refine ⟨parameters.length - 1, hgroup, ?_⟩
    rw [hclosing, List.drop_left, htake, List.drop_left]
    rfl

/-- A declaration as the search reads it: a header, parameters in parentheses that close, white space,
and a body that ends with the text. -/
def IsDeclarationText (balancedMatching : Bool) (name text : List Char) : Prop :=
  ∃ head parameters gap body rule, IsHeader name head ∧
    text = head ++ '(' :: (parameters ++ (gap ++ '\x7b' :: body)) ∧
    groupLength ('(' :: (parameters ++ (gap ++ '\x7b' :: body))) = some parameters.length ∧
    gap.all isSpace ∧
    bodyEnd? balancedMatching ('\x7b' :: body) = some (rule, body.length + 1)

/-- The search finds a text from its beginning to its end exactly if it is a declaration. -/
theorem isDeclarationText_iff {text : List Char} :
    IsDeclarationText balancedMatching name text ↔
      ∃ span, findFunction balancedMatching text name = some span ∧ span.start = 0 ∧
        span.stop = text.length := by
  constructor
  · rintro ⟨head, parameters, gap, body, rule, hheader, rfl, hgroup, hgap, hend⟩
    have hbody : bodyDistance ('(' :: (parameters ++ (gap ++ '\x7b' :: body))) =
        some (('(' :: parameters).length + gap.length) :=
      bodyDistance_eq_some.mpr ⟨'(' :: parameters, gap, body, rfl, by simp, hgroup, hgap, rfl⟩
    have hplaced := findHeader_of_isHeader hheader hbody
    have hdrop : (head ++ '(' :: (parameters ++ (gap ++ '\x7b' :: body))).drop
        (head.length + (('(' :: parameters).length + gap.length)) = '\x7b' :: body := by
      rw [← List.drop_drop, List.drop_left, ← List.cons_append, ← List.drop_drop, List.drop_left,
        List.drop_left]
    rw [← hdrop] at hend
    refine ⟨⟨0, _, indentAt _ 0, rule⟩,
      findFunction_eq_some.mpr ⟨_, _, hplaced, hend, rfl, rfl⟩, rfl, ?_⟩
    simp only [List.length_append, List.length_cons]
    omega
  · rintro ⟨span, hfound, hstart, hstop⟩
    obtain ⟨brace, length, hplaced, hend, hlength, -⟩ := findFunction_eq_some.mp hfound
    obtain ⟨front, rest, found, distance, rfl, hfront, hheader, hbody, rfl⟩ :=
      functionHeader_of_headerFrom hplaced
    rw [hstart, List.length_eq_zero_iff] at hfront
    subst hfront
    obtain ⟨-, head, behind, hspelled, rfl, rfl⟩ := functionHeader_eq_some.mp hheader
    rw [Nat.add_sub_cancel, List.drop_left] at hbody
    obtain ⟨parameters, gap, body, htext, hparameters, hgroup, hgap, rfl⟩ :=
      bodyDistance_eq_some.mp hbody
    cases parameters with
    | nil => exact absurd rfl hparameters
    | cons first parameters =>
      rw [List.cons_append] at htext
      obtain ⟨rfl, rfl⟩ := List.cons.inj htext
      have hdrop : (head ++ '(' :: (parameters ++ (gap ++ '\x7b' :: body))).drop
          (head.length + (('(' :: parameters).length + gap.length)) = '\x7b' :: body := by
        rw [← List.drop_drop, List.drop_left, ← List.cons_append, ← List.drop_drop, List.drop_left,
          List.drop_left]
      rw [hstart, Nat.add_sub_cancel, Nat.zero_add, List.nil_append, hdrop] at hend
      obtain rfl : length = body.length + 1 := by
        simp only [hstart, List.length_append, List.length_cons, List.nil_append] at hlength hstop
        omega
      exact ⟨head, parameters, gap, body, span.bodyEnd, hspelled, rfl, hgroup, hgap, hend⟩

end PageGraft.Page
