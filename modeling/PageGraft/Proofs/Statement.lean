import PageGraft.Proofs.Reading
import PageGraft.Script.Statement

/-!
# Where statements end

A statement of a page ends in front of a semicolon, a newline or a comment, or with the text
(`endsStatement_drop_statementLength`), whatever it is made of. The literals of initial values are
read as one piece, so that a statement that begins with one ends where the literal would
(`InitialLiteral.statementLength_append`).
-/

namespace PageGraft.Script

open PageGraft.Text

/-- What ends a statement begins the text, or nothing is left of it. -/
def endsStatement : List Char → Bool
  | [] => true
  | character :: rest =>
    character = ';' || character = '\n' || startsComment (character :: rest)

@[simp]
theorem statementLength_of_endsStatement {text : List Char} (hends : endsStatement text) :
    statementLength text = 0 := by
  cases text with
  | nil => rw [statementLength]
  | cons character rest =>
    simp only [endsStatement] at hends
    rw [statementLength, if_pos hends]

theorem isBlank_head_of_endsStatement {text : List Char} (hends : endsStatement text) :
    ∀ character ∈ text.head?, isBlank character = false := by
  intro character hcharacter
  obtain ⟨rest, rfl⟩ := List.head?_eq_some_iff.mp hcharacter
  by_contra hblank
  simp only [isBlank, Bool.not_eq_false, Bool.or_eq_true, beq_iff_eq] at hblank
  rcases hblank with rfl | rfl
  · simp [endsStatement, startsComment] at hends
  · simp [endsStatement, startsComment] at hends

/-- No letter stands where only blanks separate it from the end of a statement. -/
theorem isAlpha_head_of_endsStatement {text : List Char}
    (hends : endsStatement (text.dropWhile isBlank)) :
    ∀ character ∈ text.head?, character.isAlpha = false := by
  intro character hcharacter
  obtain ⟨rest, rfl⟩ := List.head?_eq_some_iff.mp hcharacter
  by_cases hblank : isBlank character
  · exact isAlpha_of_isSpace (isSpace_of_isBlank hblank)
  · rw [List.dropWhile_cons_of_neg hblank, endsStatement, Bool.or_eq_true, Bool.or_eq_true,
      decide_eq_true_eq, decide_eq_true_eq] at hends
    rcases hends with (rfl | rfl) | hcomment
    · decide
    · decide
    · unfold startsComment at hcomment
      split at hcomment
      · rename_i hsplit
        rw [(List.cons.inj hsplit).1]
        decide
      · rename_i hsplit
        rw [(List.cons.inj hsplit).1]
        decide
      · exact absurd hcomment Bool.false_ne_true

/-- Behind a line comes a newline or nothing. -/
theorem endsStatement_drop_lineLength {text : List Char} :
    endsStatement (text.drop (lineLength text)) := by
  induction text with
  | nil => rfl
  | cons character rest ih =>
    by_cases hnewline : character = '\n'
    · simp [lineLength, endsStatement, hnewline]
    · simpa [lineLength, hnewline] using ih

/-- A statement goes on to something that ends it. -/
theorem endsStatement_drop_statementLength {text : List Char} :
    endsStatement (text.drop (statementLength text)) := by
  fun_induction statementLength text with
  | case1 => rfl
  | case2 character rest hends => simpa [endsStatement] using hends
  | case3 character rest hgoes hopening => exact endsStatement_drop_lineLength
  | case4 character rest hgoes further hopening ih =>
    rw [← Nat.add_assoc, List.drop_succ_cons, Nat.add_comm, ← List.drop_drop]
    exact ih
  | case5 character rest hgoes hopening hopener hgroup => exact endsStatement_drop_lineLength
  | case6 character rest hgoes hopening hopener distance hgroup ih =>
    rw [← Nat.add_assoc, List.drop_succ_cons, Nat.add_comm, ← List.drop_drop]
    exact ih
  | case7 character rest hgoes hopening hopener ih =>
    rw [List.drop_succ_cons]
    exact ih

/-- A statement without the blanks at its end is followed by these and by what ended it. -/
theorem drop_statement (text : List Char) :
    ∃ space, space.all isBlank ∧
      text.drop (dropEndWhile isBlank (text.take (statementLength text))).length =
        space ++ text.drop (statementLength text) := by
  obtain ⟨space, hspace, hsplit⟩ :=
    Page.dropEndWhile_append isBlank (text.take (statementLength text))
  refine ⟨space, hspace, ?_⟩
  have htext : text = dropEndWhile isBlank (text.take (statementLength text)) ++
      (space ++ text.drop (statementLength text)) := by
    rw [← List.append_assoc, hsplit, List.take_append_drop]
  generalize dropEndWhile isBlank (text.take (statementLength text)) = statement at htext ⊢
  generalize text.drop (statementLength text) = after at htext ⊢
  rw [htext, List.drop_left]

/-- A comment begins with two characters. -/
theorem startsComment_cons_cons (first second : Char) (rest : List Char) :
    startsComment (first :: second :: rest) =
      (first == '/' && (second == '/' || second == '*')) := by
  unfold startsComment
  split
  · rename_i hsplit
    simp only [List.cons.injEq] at hsplit
    simp [hsplit]
  · rename_i hsplit
    simp only [List.cons.injEq] at hsplit
    simp [hsplit]
  · rename_i hline hblock
    symm
    rw [Bool.eq_false_iff, ne_eq, Bool.and_eq_true, Bool.or_eq_true, beq_iff_eq, beq_iff_eq,
      beq_iff_eq]
    rintro ⟨rfl, rfl | rfl⟩
    · exact hline rest rfl
    · exact hblock rest rfl

/-- A statement still ends in the same place when something else follows there, if the end is not a
comment that only begins there, and if what follows ends the statement where nothing else did. -/
theorem endsStatement_append {tail text text' : List Char}
    (hends : endsStatement ((tail ++ text).dropWhile isBlank))
    (hslash : tail.getLast? ≠ some '/' ∨
      ∀ character ∈ text.head?, character ≠ '/' ∧ character ≠ '*')
    (hblanks : tail.all isBlank → endsStatement (text'.dropWhile isBlank)) :
    endsStatement ((tail ++ text').dropWhile isBlank) := by
  by_cases hall : tail.all isBlank
  · rw [List.dropWhile_append_of_pos (List.all_eq_true.mp hall)]
    exact hblanks hall
  · have hleft : (tail.dropWhile isBlank).isEmpty = false := by
      rw [List.isEmpty_eq_false_iff]
      intro hempty
      exact hall (List.all_eq_true.mpr (List.dropWhile_eq_nil_iff.mp hempty))
    rw [List.dropWhile_append, hleft, if_neg Bool.false_ne_true] at hends ⊢
    have hsplit := List.takeWhile_append_dropWhile (p := isBlank) (l := tail)
    cases hdrop : tail.dropWhile isBlank with
    | nil => simp [hdrop] at hleft
    | cons first more =>
      rw [hdrop] at hends hsplit
      cases more with
      | cons second more =>
        simpa only [endsStatement, List.cons_append, startsComment_cons_cons] using hends
      | nil =>
        simp only [endsStatement, List.cons_append, List.nil_append, Bool.or_eq_true,
          decide_eq_true_eq] at hends ⊢
        rcases hends with hends | hcomment
        · exact .inl hends
        · -- the comment would begin with the last character of the tail
          exfalso
          cases text with
          | nil => simp [startsComment] at hcomment
          | cons next text =>
            rw [startsComment_cons_cons, Bool.and_eq_true, Bool.or_eq_true, beq_iff_eq,
              beq_iff_eq, beq_iff_eq] at hcomment
            obtain ⟨rfl, hnext⟩ := hcomment
            rcases hslash with hslash | hslash
            · refine hslash ?_
              rw [← hsplit, List.getLast?_concat]
            · obtain ⟨hline, hblock⟩ := hslash next rfl
              exact hnext.elim hline hblock

/-! ## Literals of initial values -/

/-- A character of the words `null`, `true` and `false` and of numbers. -/
def isLiteralPart (character : Char) : Bool :=
  character.isAlphanum || character == '_' || character == '.' || character == '+' ||
    character == '-'

/-- The literals of initial values: words and numbers, complete strings in double quotes, and the
empty array and object. -/
inductive InitialLiteral : List Char → Prop
  | word {letters : List Char} (hletters : letters ≠ []) (hparts : letters.all isLiteralPart) :
    InitialLiteral letters
  | string {body : List Char} (hbody : stringLength '"' body = some body.length) :
    InitialLiteral ('"' :: body)
  | array : InitialLiteral "[]".toList
  | object : InitialLiteral "\x7b\x7d".toList

theorem stringLength_cons {quote character : Char} {rest : List Char}
    (hescape : character ≠ '\\') :
    stringLength quote (character :: rest) =
      if character = quote then some 1
      else if character = '\n' then none
      else (stringLength quote rest).map (· + 1) := by
  rw [stringLength.eq_4]
  · intro hbackslash _
    exact hescape hbackslash
  · intro _ _ hbackslash _
    exact hescape hbackslash

/-- The readers of literals take a character for a plain one if it is no backslash. -/
theorem ne_backslash {character : Char} {rest : List Char}
    (hlast : character = '\\' → rest = [] → False)
    (hescape : ∀ escaped tail, character = '\\' → rest = escaped :: tail → False) :
    character ≠ '\\' := by
  intro hbackslash
  cases rest with
  | nil => exact hlast hbackslash rfl
  | cons escaped rest => exact hescape escaped rest hbackslash rfl

/-- A string literal ends with its quote, whatever comes behind. -/
theorem stringLength_append {quote : Char} {text after : List Char} {length : Nat}
    (hlength : stringLength quote text = some length) :
    stringLength quote (text ++ after) = some length := by
  fun_induction stringLength quote text generalizing length with
  | case1 => simp at hlength
  | case2 => simp at hlength
  | case3 escaped rest ih =>
    obtain ⟨inner, hinner, rfl⟩ := Option.map_eq_some_iff.mp hlength
    rw [List.cons_append, List.cons_append, stringLength, ih hinner]
    rfl
  | case4 rest hlast hescape =>
    rw [List.cons_append, stringLength_cons (ne_backslash hlast hescape), if_pos rfl]
    exact hlength
  | case5 => simp at hlength
  | case6 character rest hlast hescape hquote hnewline ih =>
    obtain ⟨inner, hinner, rfl⟩ := Option.map_eq_some_iff.mp hlength
    rw [List.cons_append, stringLength_cons (ne_backslash hlast hescape), if_neg hquote, if_neg hnewline, ih hinner]
    rfl

/-- The last character of a string literal is its quote. -/
theorem getLast?_of_stringLength {quote : Char} {text : List Char}
    (hlength : stringLength quote text = some text.length) : text.getLast? = some quote := by
  fun_induction stringLength quote text with
  | case1 => simp at hlength
  | case2 => simp at hlength
  | case3 escaped rest ih =>
    obtain ⟨inner, hinner, hcount⟩ := Option.map_eq_some_iff.mp hlength
    obtain rfl : inner = rest.length := by simpa using hcount
    have hlast := ih hinner
    cases rest with
    | nil => simp at hlast
    | cons character rest => simpa [List.getLast?_cons_cons] using hlast
  | case4 rest =>
    obtain rfl : rest = [] := by simpa using hlength
    rfl
  | case5 => simp at hlength
  | case6 character rest hlast hescape hquote hnewline ih =>
    obtain ⟨inner, hinner, hcount⟩ := Option.map_eq_some_iff.mp hlength
    obtain rfl : inner = rest.length := by simpa using hcount
    have hlast := ih hinner
    cases rest with
    | nil => simp at hlast
    | cons next rest => simpa [List.getLast?_cons_cons] using hlast

/-- The literal of an initial value has no blanks at its ends. -/
theorem InitialLiteral.isBlank_eq_false {value : List Char} (hvalue : InitialLiteral value) :
    (∃ first, value.head? = some first ∧ isBlank first = false) ∧
      ∃ last, value.getLast? = some last ∧ isBlank last = false := by
  cases hvalue with
  | word hletters hparts =>
    have hblank : ∀ character ∈ value, isBlank character = false := by
      intro character hcharacter
      have hpart := List.all_eq_true.mp hparts character hcharacter
      by_contra hblank
      simp only [isBlank, Bool.not_eq_false, Bool.or_eq_true, beq_iff_eq] at hblank
      rcases hblank with rfl | rfl
      · exact absurd hpart (by decide)
      · exact absurd hpart (by decide)
    have hfirst := List.head?_eq_some_head hletters
    have hlast := List.getLast?_eq_some_getLast hletters
    exact ⟨⟨_, hfirst, hblank _ (List.mem_of_head? hfirst)⟩,
      _, hlast, hblank _ (List.mem_of_getLast? hlast)⟩
  | @string body hbody =>
    have hlast := getLast?_of_stringLength hbody
    refine ⟨⟨'"', rfl, by decide⟩, '"', ?_, by decide⟩
    rw [List.getLast?_cons, hlast]
    rfl
  | array => exact ⟨⟨'[', rfl, by decide⟩, ']', rfl, by decide⟩
  | object => exact ⟨⟨'\x7b', rfl, by decide⟩, '\x7d', rfl, by decide⟩

/-- No literal ends with an equals sign. -/
theorem InitialLiteral.getLast?_ne_equals {value : List Char} (hvalue : InitialLiteral value) :
    value.getLast? ≠ some '=' := by
  cases hvalue with
  | word hletters hparts =>
    intro hlast
    exact absurd (List.all_eq_true.mp hparts '=' (List.mem_of_getLast? hlast)) (by decide)
  | string hbody =>
    rw [List.getLast?_cons, getLast?_of_stringLength hbody]
    decide
  | array => decide
  | object => decide

theorem InitialLiteral.isBlank_head_append {value : List Char} (hvalue : InitialLiteral value)
    (rest : List Char) : ∀ character ∈ (value ++ rest).head?, isBlank character = false := by
  obtain ⟨first, hfirst, hblank⟩ := hvalue.isBlank_eq_false.1
  intro character hcharacter
  rw [List.head?_append, hfirst] at hcharacter
  obtain rfl : first = character := by simpa using hcharacter
  exact hblank

/-! ## Statements that begin with a literal -/

/-- A character that begins no literal, no comment and no regular expression is code. -/
theorem opening_of_plain {character : Char} {rest : List Char} (hsingle : character ≠ '\'')
    (hdouble : character ≠ '"') (hbacktick : character ≠ '\x60') (hslash : character ≠ '/') :
    opening (character :: rest) = .code := by
  rw [opening]
  · simp [hsingle]
  · simp [hdouble]
  · simp [hbacktick]
  · simp [hslash]
  · simp [hslash]

theorem startsComment_of_ne {character : Char} {rest : List Char} (hslash : character ≠ '/') :
    startsComment (character :: rest) = false := by
  simp [startsComment, hslash]

/-- Blanks and the characters of words and numbers are read one by one. -/
theorem statementLength_cons_of_plain {character : Char} {rest : List Char}
    (hplain : isLiteralPart character || isBlank character) :
    statementLength (character :: rest) = statementLength rest + 1 := by
  have hother : ∀ other, (isLiteralPart other || isBlank other) = false → character ≠ other := by
    rintro other hnot rfl
    rw [hnot] at hplain
    exact Bool.false_ne_true hplain
  have hslash := hother '/' (by decide)
  have hcode : opening (character :: rest) = .code :=
    opening_of_plain (hother _ (by decide)) (hother _ (by decide)) (hother _ (by decide)) hslash
  have hopener : ¬ isOpener character := by
    simp [isOpener, closerOf, hother '(' (by decide), hother '[' (by decide),
      hother '\x7b' (by decide)]
  rw [statementLength, if_neg, hcode]
  · simp only [if_neg hopener]
  · simp [hother ';' (by decide), hother '\n' (by decide), startsComment_of_ne hslash]

theorem statementLength_append_of_plain {run rest : List Char}
    (hrun : run.all fun character => isLiteralPart character || isBlank character) :
    statementLength (run ++ rest) = run.length + statementLength rest := by
  induction run with
  | nil => simp
  | cons character run ih =>
    rw [List.all_cons, Bool.and_eq_true] at hrun
    rw [List.cons_append, statementLength_cons_of_plain hrun.1, ih hrun.2, List.length_cons]
    omega

/-- An empty pair of brackets is read whole. -/
theorem statementLength_of_pair {opener closer : Char} {rest : List Char}
    (hopener : isOpener opener)
    (hgroup : groupLength (opener :: closer :: rest) = some 1) :
    statementLength (opener :: closer :: rest) = 2 + statementLength rest := by
  have hother : ∀ other, isOpener other = false → opener ≠ other := by
    rintro other hnot rfl
    rw [hnot] at hopener
    exact Bool.false_ne_true hopener
  have hslash := hother '/' (by decide)
  have hcode : opening (opener :: closer :: rest) = .code :=
    opening_of_plain (hother _ (by decide)) (hother _ (by decide)) (hother _ (by decide)) hslash
  rw [statementLength, if_neg, hcode]
  · simp only [if_pos hopener, hgroup, List.drop_succ_cons, List.drop_zero]
    omega
  · simp [hother ';' (by decide), hother '\n' (by decide), startsComment_of_ne hslash]

/-- A statement that begins with the literal of an initial value goes on behind the literal. -/
theorem InitialLiteral.statementLength_append {value rest : List Char}
    (hvalue : InitialLiteral value) :
    statementLength (value ++ rest) = value.length + statementLength rest := by
  cases hvalue with
  | word hletters hparts =>
    refine statementLength_append_of_plain (List.all_eq_true.mpr ?_)
    intro character hcharacter
    simp [List.all_eq_true.mp hparts character hcharacter]
  | @string body hbody =>
    have hpiece : opening ('"' :: (body ++ rest)) = .piece body.length := by
      rw [opening, stringLength_append hbody]
      rfl
    rw [List.cons_append, statementLength, if_neg (by simp [startsComment]), hpiece]
    simp only [List.drop_left, List.length_cons]
    omega
  | array => exact statementLength_of_pair (by decide) (by cbv)
  | object => exact statementLength_of_pair (by decide) (by cbv)

/-- With blanks behind it, the literal is the whole of a statement that ends there. -/
theorem InitialLiteral.dropEndWhile_statement {value blanks rest : List Char}
    (hvalue : InitialLiteral value) (hblanks : blanks.all isBlank) (hends : endsStatement rest) :
    dropEndWhile isBlank ((value ++ (blanks ++ rest)).take
      (statementLength (value ++ (blanks ++ rest)))) = value := by
  have hplain : blanks.all fun character => isLiteralPart character || isBlank character := by
    rw [List.all_eq_true]
    intro character hcharacter
    simp [List.all_eq_true.mp hblanks character hcharacter]
  have htake : (value ++ (blanks ++ rest)).take (value.length + (blanks.length + 0)) =
      value ++ blanks := by
    rw [← List.append_assoc, Nat.add_zero, ← List.length_append, List.take_left]
  rw [hvalue.statementLength_append, statementLength_append_of_plain hplain,
    statementLength_of_endsStatement hends, htake, dropEndWhile, List.reverse_append,
    Page.dropWhile_append_of_head (by simpa using hblanks), List.reverse_reverse]
  obtain ⟨-, last, hlast, hblank⟩ := hvalue.isBlank_eq_false
  intro character hcharacter
  rw [List.head?_reverse, hlast] at hcharacter
  obtain rfl : last = character := by simpa using hcharacter
  exact hblank

end PageGraft.Script
