import PageGraft.Proofs.Scan

/-!
# The bracket grammar

The lexical grammar of brackets, literals and comments that the bracket reader stands for, as a reading
from left to right (`Reads`). Priorities are part of it: a slash is a character by itself only where it
opens neither a comment nor a regular expression that ends.

Whether a slash opens a regular expression depends on the text in front of it, but only as far as the
nearest bracket that is open (`looksAlike_opener`), so that a group is read alike wherever it stands.

`Reads.isPassed` says that the readers take whatever the grammar allows.
-/

namespace PageGraft.Script

open PageGraft.Page PageGraft.Text

/-! ## How far back a slash looks -/

/-- Texts that look alike, nearest character first, to a slash behind them, whatever stands in
between. -/
def LooksAlike (before before' : List Char) : Prop :=
  ∀ between, endsWithKeyword (between ++ before) = endsWithKeyword (between ++ before')

theorem LooksAlike.append {before before' : List Char} (halike : LooksAlike before before')
    (between : List Char) : LooksAlike (between ++ before) (between ++ before') := by
  intro nearer
  rw [← List.append_assoc, ← List.append_assoc]
  exact halike (nearer ++ between)

theorem LooksAlike.regexAllowed_eq {before before' : List Char} (halike : LooksAlike before before')
    (previous : Option Char) : regexAllowed previous before = regexAllowed previous before' := by
  cases previous with
  | none => rfl
  | some character =>
    rw [regexAllowed, regexAllowed]
    rw [show endsWithKeyword before = endsWithKeyword before' from halike []]

/-- A text begins with white space, as much as there is. -/
theorem exists_spaces_append (text : List Char) : ∃ spaces rest, text = spaces ++ rest ∧
    spaces.all isSpace ∧ ∀ character ∈ rest.head?, isSpace character = false :=
  ⟨_, _, List.takeWhile_append_dropWhile.symm, List.all_takeWhile, head?_dropWhile_eq_false⟩

theorem endsWithKeyword_append {spaces text : List Char} (hspaces : spaces.all isSpace)
    (hhead : ∀ character ∈ text.head?, isSpace character = false) :
    endsWithKeyword (spaces ++ text) = regexKeywords.any fun keyword =>
      keyword.reverse.isPrefixOf (text.take (keywordReach - spaces.length)) &&
        !(text.drop keyword.length).head?.any isNamePart := by
  rw [endsWithKeyword, takeWhile_append_of_head hspaces hhead]
  refine congrArg regexKeywords.any (funext fun keyword => ?_)
  rw [List.drop_take, List.drop_left, ← List.drop_drop, List.drop_left]

theorem isNamePart_of_mem_keyword {keyword : List Char} {character : Char}
    (hkeyword : keyword ∈ regexKeywords) (hmem : character ∈ keyword) : isNamePart character := by
  have hall : (regexKeywords.all fun keyword => keyword.all isNamePart) = true := by decide
  exact List.all_eq_true.mp (List.all_eq_true.mp hall keyword hkeyword) character hmem

/-- No keyword reaches over a character that belongs to no name, and one behind it stands alone there. It
does not matter which character that is, if something else than white space stands behind it. -/
theorem endsWithKeyword_append_mark {mark mark' : Char} {between : List Char}
    (hmark : isNamePart mark = false) (hmark' : isNamePart mark' = false)
    (hspaces : between.all isSpace → isSpace mark = false ∧ isSpace mark' = false)
    (before before' : List Char) :
    endsWithKeyword (between ++ mark :: before) = endsWithKeyword (between ++ mark' :: before') := by
  have hnot : ∀ keyword ∈ regexKeywords, ∀ {other}, isNamePart other = false → other ∉ keyword.reverse := by
    intro keyword hkeyword other hother hmem
    rw [isNamePart_of_mem_keyword hkeyword (List.mem_reverse.mp hmem)] at hother
    exact Bool.noConfusion hother
  obtain ⟨spaces, word, rfl, hall, hword⟩ := exists_spaces_append between
  have hhead : ∀ {other}, (word = [] → isSpace other = false) → ∀ after,
      ∀ character ∈ (word ++ other :: after).head?, isSpace character = false := by
    intro other hother after
    cases word with
    | nil => simpa using hother rfl
    | cons => simpa using hword
  have hempty : word = [] → isSpace mark = false ∧ isSpace mark' = false := by
    rintro rfl
    exact hspaces (by simpa using hall)
  rw [List.append_assoc, List.append_assoc,
    endsWithKeyword_append hall (hhead (fun hnil => (hempty hnil).1) _),
    endsWithKeyword_append hall (hhead (fun hnil => (hempty hnil).2) _)]
  rw [Bool.eq_iff_iff, List.any_eq_true, List.any_eq_true]
  refine exists_congr fun keyword => and_congr_right fun hmem => ?_
  rw [Bool.and_eq_true, Bool.and_eq_true, List.isPrefixOf_iff_prefix, List.isPrefixOf_iff_prefix,
    List.prefix_take_iff, List.prefix_take_iff, prefix_append_cons (hnot keyword hmem hmark),
    prefix_append_cons (hnot keyword hmem hmark')]
  refine and_congr_right fun hprefix => ?_
  have hlength : keyword.length ≤ word.length := by
    rw [← List.length_reverse]
    exact hprefix.1.length_le
  rw [List.drop_append_of_le_length hlength, List.drop_append_of_le_length hlength,
    List.head?_append, List.head?_append, List.head?_cons, List.head?_cons]
  cases (word.drop keyword.length).head? with
  | none => simp [hmark, hmark']
  | some => rfl

/-- A keyword in front of a slash stands behind the nearest bracket that is open. -/
theorem looksAlike_opener {opener : Char} (hopener : isOpener opener) (before before' : List Char) :
    LooksAlike (opener :: before) (opener :: before') := by
  intro between
  have hmark : isNamePart opener = false := by
    rcases isOpener_iff.mp hopener with rfl | rfl | rfl <;> decide
  have hspace := isSpace_of_isOpener hopener
  exact endsWithKeyword_append_mark hmark hmark (fun _ => ⟨hspace, hspace⟩) before before'

/-! ## The grammar -/

/-- The parts of a script that the grammar tells apart: one item, a sequence of items, and a template
literal after its opening backtick. -/
inductive Part where
  | item
  | items
  | template

/-- A character of code that is an item by itself: no bracket, no quote, no backtick and no beginning of
a comment or of a regular expression that ends. -/
structure IsCode (previous : Option Char) (before : List Char) (character : Char) (rest : List Char) :
    Prop where
  opens : isOpener character = false
  closes : isCloser character = false
  quotes : isQuote character = false
  backtick : character ≠ '\x60'
  comments : startsComment (character :: rest) = false
  regex : character = '/' → regexAllowed previous before →
    ¬ ∃ body after, rest = body ++ after ∧ IsRegexBody false body

/-- How a part of a script is read from left to right, the lexical grammar of brackets.
`Reads part previous before piece rest last` says that `piece` is such a part where `before` stands in
front of it, nearest character first, and `rest` behind it. `previous` and `last` are the last characters
before and after it that are neither white space nor part of a comment. -/
inductive Reads :
    Part → Option Char → List Char → List Char → List Char → Option Char → Prop
  | string {previous : Option Char} {before body rest : List Char} {quote : Char}
      (hquote : isQuote quote) (hbody : IsStringBody quote body) :
      Reads .item previous before (quote :: body) rest (some quote)
  | templateLiteral {previous : Option Char} {before body rest : List Char}
      (hbody : Reads .template (some '\x60') ('\x60' :: before) body rest (some '\x60')) :
      Reads .item previous before ('\x60' :: body) rest (some '\x60')
  | lineComment {previous : Option Char} {before line rest : List Char} (hline : IsLine line rest) :
      Reads .item previous before ('/' :: '/' :: line) rest previous
  | blockComment {previous : Option Char} {before body rest : List Char} (hbody : IsBlockBody body) :
      Reads .item previous before ('/' :: '*' :: body) rest previous
  | regex {previous : Option Char} {before body flags rest : List Char}
      (hallowed : regexAllowed previous before) (hcomment : startsComment ('/' :: body) = false)
      (hbody : IsRegexBody false body) (hflags : IsFlags flags rest) :
      Reads .item previous before ('/' :: (body ++ flags)) rest (some '/')
  | group {previous last : Option Char} {before inside rest : List Char} {opener closer : Char}
      (hopener : closerOf opener = some closer)
      (hinside : Reads .items (some opener) (opener :: before) inside (closer :: rest) last) :
      Reads .item previous before (opener :: (inside ++ [closer])) rest (some closer)
  | code {previous : Option Char} {before rest : List Char} {character : Char}
      (hcode : IsCode previous before character rest) :
      Reads .item previous before [character] rest
        (if isSpace character then previous else some character)
  | nil {previous : Option Char} {before rest : List Char} :
      Reads .items previous before [] rest previous
  | cons {previous middle last : Option Char} {before item more rest : List Char}
      (hitem : Reads .item previous before item (more ++ rest) middle)
      (hmore : Reads .items middle (item.reverse ++ before) more rest last) :
      Reads .items previous before (item ++ more) rest last
  | close {previous : Option Char} {before rest : List Char} :
      Reads .template previous before ['\x60'] rest (some '\x60')
  | escape {previous last : Option Char} {before body rest : List Char} {escaped : Char}
      (hbody : Reads .template previous (escaped :: '\\' :: before) body rest last) :
      Reads .template previous before ('\\' :: escaped :: body) rest last
  | substitution {previous inner last : Option Char} {before inside body rest : List Char}
      (hinside : Reads .items (some '\x7b') ('\x7b' :: '$' :: before) inside
        ('\x7d' :: (body ++ rest)) inner)
      (hbody : Reads .template previous ('\x7d' :: (inside.reverse ++ '\x7b' :: '$' :: before)) body rest
        last) :
      Reads .template previous before ('$' :: '\x7b' :: (inside ++ '\x7d' :: body)) rest last
  | plain {previous last : Option Char} {before body rest : List Char} {character : Char}
      (hescape : character ≠ '\\') (hclose : character ≠ '\x60')
      (hsubstitution : character = '$' → (body ++ rest).head? ≠ some '\x7b')
      (hbody : Reads .template previous (character :: before) body rest last) :
      Reads .template previous before (character :: body) rest last

/-! ## The readers take what the grammar allows -/

/-- How the readers go over a part: the bracket reader passes an item or a sequence of them, whatever
brackets are open, and the template reader reads a template literal to its end. -/
def Part.IsPassed (part : Part) (previous : Option Char) (before piece rest : List Char)
    (last : Option Char) : Prop :=
  match part with
  | .template => templateLength (piece ++ rest) = some piece.length
  | .item | .items => ∀ expected before', expected ≠ [] → LooksAlike before before' →
      Scan.Passes ⟨expected, previous, before', piece ++ rest⟩ piece.length
        ⟨expected, last, piece.reverse ++ before', rest⟩

section

variable {previous last : Option Char} {before before' expected inside body rest : List Char}

/-- A slash that opens no regular expression is a character like any other. -/
theorem IsCode.lexeme?_eq {character : Char} (hcode : IsCode previous before character rest)
    (halike : LooksAlike before before') :
    lexeme? previous before' (character :: rest) = some .character := by
  refine lexeme?_character (opening_eq_code.mpr ⟨hcode.quotes, hcode.backtick, hcode.comments⟩) ?_
  intro hslash hallowed
  rw [← halike.regexAllowed_eq] at hallowed
  exact regexLength_eq_none.mpr (hcode.regex hslash hallowed)

theorem IsCode.expectedAfter_eq {character : Char} (hcode : IsCode previous before character rest) :
    expectedAfter expected character = some expected := by
  have hopener : closerOf character = none := by
    simpa [isOpener] using hcode.opens
  simp [expectedAfter, hopener, hcode.closes]

/-- A group is passed if its inside is, one bracket deeper. -/
theorem passes_group {opener closer : Char} (hopener : closerOf opener = some closer)
    (hexpected : expected ≠ [])
    (hinside : Scan.Passes ⟨closer :: expected, some opener, opener :: before, inside ++ closer :: rest⟩
      inside.length ⟨closer :: expected, last, inside.reverse ++ opener :: before, closer :: rest⟩) :
    Scan.Passes ⟨expected, previous, before, (opener :: (inside ++ [closer])) ++ rest⟩
      (opener :: (inside ++ [closer])).length
      ⟨expected, some closer, (opener :: (inside ++ [closer])).reverse ++ before, rest⟩ := by
  have hopening : Scan.Passes ⟨expected, previous, before, opener :: (inside ++ closer :: rest)⟩ 1
      ⟨closer :: expected, some opener, opener :: before, inside ++ closer :: rest⟩ :=
    Scan.passes_opener hopener
  have hclosing : Scan.Passes
      ⟨closer :: expected, last, inside.reverse ++ opener :: before, closer :: rest⟩ 1
      ⟨expected, some closer, closer :: (inside.reverse ++ opener :: before), rest⟩ :=
    Scan.passes_closer (isCloser_of_closerOf hopener) hexpected
  have hpasses := (hopening.trans hinside).trans hclosing
  simpa [Nat.add_comm] using hpasses

theorem IsRegexBody.ne_nil {inClass : Bool} (hbody : IsRegexBody inClass body) : body ≠ [] := by
  cases hbody <;> exact List.cons_ne_nil _ _

/-- Whether a comment begins with a slash is settled by the next character. -/
theorem startsComment_append (hbody : body ≠ []) :
    startsComment ('/' :: (body ++ rest)) = startsComment ('/' :: body) := by
  obtain ⟨second, body, rfl⟩ := List.exists_cons_of_ne_nil hbody
  rw [List.cons_append, startsComment_cons_cons, startsComment_cons_cons]

theorem templateLength_plain {character : Char} (hescape : character ≠ '\\')
    (hclose : character ≠ '\x60')
    (hsubstitution : character = '$' → rest.head? ≠ some '\x7b') :
    templateLength (character :: rest) = (templateLength rest).map (· + 1) := by
  rw [templateLength]
  · intro hbackslash _
    exact hescape hbackslash
  · intro _ _ hbackslash _
    exact hescape hbackslash
  · exact hclose
  · intro after hdollar hrest
    exact hsubstitution hdollar (by rw [hrest, List.head?_cons])

/-- A substitution of a template literal is passed if its braces match. -/
theorem templateLength_substitution
    (hinside : Scan.Passes ⟨['\x7d'], some '\x7b', ['\x7b'], inside ++ '\x7d' :: rest⟩ inside.length
      ⟨['\x7d'], last, inside.reverse ++ ['\x7b'], '\x7d' :: rest⟩) :
    templateLength ('$' :: '\x7b' :: (inside ++ '\x7d' :: rest)) =
      (templateLength rest).map (· + (inside.length + 3)) := by
  rw [templateLength, Scan.closingDistance_group rfl hinside]
  have hdrop : (inside ++ '\x7d' :: rest).drop (inside.length + 1) = rest := by
    rw [← List.drop_drop, List.drop_left, List.drop_one, List.tail_cons]
  simp only [hdrop]

end

theorem Reads.isPassed {part : Part} {previous last : Option Char} {before piece rest : List Char}
    (hreads : Reads part previous before piece rest last) :
    part.IsPassed previous before piece rest last := by
  induction hreads with
  | @string previous before body rest quote hquote hbody =>
    intro expected before' hexpected halike
    have hlength : stringLength quote (body ++ rest) = some body.length := by
      refine hbody.stringLength_append ?_
      rintro rfl
      exact absurd hquote (by decide)
    exact Scan.passes_piece (lexeme?_of_isQuote hquote hlength) Lexeme.noConfusion rfl
  | templateLiteral hbody ih =>
    intro expected before' hexpected halike
    exact Scan.passes_piece (lexeme?_template ih) Lexeme.noConfusion rfl
  | @lineComment previous before line rest hline =>
    intro expected before' hexpected halike
    have hlexeme : lexeme? previous before' ('/' :: ('/' :: line ++ rest)) =
        some (.comment (1 + line.length)) := by
      rw [List.cons_append, lexeme?_lineComment, hline.lineLength_append]
    exact Scan.passes_piece hlexeme Lexeme.noConfusion (by simp [Lexeme.width, Nat.add_comm])
  | @blockComment previous before body rest hbody =>
    intro expected before' hexpected halike
    have hlexeme : lexeme? previous before' ('/' :: ('*' :: body ++ rest)) =
        some (.comment (body.length + 1)) :=
      lexeme?_blockComment hbody.blockCommentLength_append
    exact Scan.passes_piece hlexeme Lexeme.noConfusion rfl
  | @regex previous before body flags rest hallowed hcomment hbody hflags =>
    intro expected before' hexpected halike
    have hlexeme : lexeme? previous before' ('/' :: ((body ++ flags) ++ rest)) =
        some (.literal (body ++ flags).length) := by
      refine lexeme?_regex ?_ ?_ ?_
      · rwa [← halike.regexAllowed_eq]
      · rwa [List.append_assoc, startsComment_append hbody.ne_nil]
      · rw [List.append_assoc]
        exact hbody.regexLength_append hflags
    exact Scan.passes_piece hlexeme Lexeme.noConfusion rfl
  | group hopener hinside ih =>
    intro expected before' hexpected halike
    exact passes_group hopener hexpected (ih _ _ (List.cons_ne_nil _ _) (halike.append [_]))
  | code hcode =>
    intro expected before' hexpected halike
    exact Scan.passes_character (hcode.lexeme?_eq halike) hcode.expectedAfter_eq
  | nil =>
    intro expected before' hexpected halike
    exact .refl
  | cons hitem hmore ihitem ihmore =>
    intro expected before' hexpected halike
    have hfirst := ihitem expected before' hexpected halike
    have hsecond := ihmore expected _ hexpected (halike.append _)
    simpa using hfirst.trans hsecond
  | close =>
    show templateLength _ = _
    rw [List.singleton_append, templateLength]
    rfl
  | escape hbody ih =>
    show templateLength _ = _
    rw [List.cons_append, List.cons_append, templateLength, ih]
    rfl
  | @substitution previous inner last before inside body rest hinside hbody ihinside ihbody =>
    have hbrace := ihinside ['\x7d'] ['\x7b'] (List.cons_ne_nil _ _) (looksAlike_opener rfl _ _)
    have hbody : templateLength (body ++ rest) = some body.length := ihbody
    show templateLength _ = _
    rw [List.cons_append, List.cons_append, List.append_assoc, List.cons_append,
      templateLength_substitution hbrace, hbody, Option.map_some]
    refine congrArg some ?_
    simp only [List.length_cons, List.length_append]
    omega
  | plain hescape hclose hsubstitution hbody ih =>
    show templateLength _ = _
    rw [List.cons_append, templateLength_plain hescape hclose, ih]
    · rfl
    · exact hsubstitution

end PageGraft.Script
