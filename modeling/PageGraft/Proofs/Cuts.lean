import PageGraft.Proofs.Matching

/-!
# Where arguments and statements are cut

Arguments and statements are cut by loops of their own. They read strings, template literals, comments
and bracket groups as the bracket reader does, but a slash is a plain character to them where it opens a
regular expression.

Both loops walk over a text from chunk to chunk (`Walks`). The scan of the bracket matcher over the same
text goes along as long as it is at the top level between two chunks (`Scan.IsTopLevel.step_along_walk`),
so that the end of the walk is within no literal that the scan reads
(`Scan.IsTopLevel.literal_along_walk`). `cut_outside_literals` says so for the two loops, and
`cut_within_literals` shows that its two conditions are needed.
-/

namespace PageGraft.Script

open PageGraft.Text

/-! ## How the text is walked through -/

/-- A character of code stands at the front that neither stops the walk nor opens a bracket. -/
def IsPlain (stops : Char → Bool) (text : List Char) : Prop :=
  ∃ character rest, text = character :: rest ∧ stops character = false ∧
    isOpener character = false ∧ opening text = .code

/-- What the cutting loops take in one step: a string, template literal or comment, a bracket group, or
a single character. -/
inductive IsChunk : List Char → Nat → Prop
  | piece {character : Char} {rest : List Char} {further : Nat}
      (hopening : opening (character :: rest) = .piece further) :
      IsChunk (character :: rest) (further + 1)
  | group {opener : Char} {rest : List Char} {distance : Nat}
      (hgroup : groupLength (opener :: rest) = some distance) :
      IsChunk (opener :: rest) (distance + 1)
  | single {character : Char} {rest : List Char}
      (hopener : isOpener character = false) (hopening : opening (character :: rest) = .code) :
      IsChunk (character :: rest) 1

theorem IsChunk.width_pos {text : List Char} {width : Nat} (hchunk : IsChunk text width) :
    0 < width := by
  cases hchunk <;> exact Nat.succ_pos _

/-- A walk over a text from chunk to chunk, up to something that is no plain character. -/
inductive Walks (stops : Char → Bool) : List Char → Nat → Prop
  | here {text : List Char} (hplain : ¬ IsPlain stops text) : Walks stops text 0
  | chunk {text : List Char} {width further : Nat} (hchunk : IsChunk text width)
      (hwalks : Walks stops (text.drop width) further) : Walks stops text (width + further)

theorem walks_of_topLevelDistance {stops : Char → Bool} {text : List Char} {distance : Nat}
    (hdistance : topLevelDistance stops text = some distance) : Walks stops text distance := by
  fun_induction topLevelDistance stops text generalizing distance with
  | case1 => simp at hdistance
  | case2 character rest hstops =>
    obtain rfl := Option.some.inj hdistance
    refine .here ?_
    rintro ⟨_, _, heq, hstop, -⟩
    obtain ⟨rfl, rfl⟩ := List.cons.inj heq
    rw [hstops] at hstop
    exact Bool.noConfusion hstop
  | case3 => simp at hdistance
  | case4 character rest hstops further hopening ih =>
    obtain ⟨inner, hinner, rfl⟩ := Option.map_eq_some_iff.mp hdistance
    rw [Nat.add_comm]
    exact .chunk (.piece hopening) (ih hinner)
  | case5 => simp at hdistance
  | case6 character rest hstops hopening hopener distance hgroup ih =>
    obtain ⟨inner, hinner, rfl⟩ := Option.map_eq_some_iff.mp hdistance
    rw [Nat.add_comm]
    exact .chunk (.group hgroup) (ih hinner)
  | case7 character rest hstops hopening hopener ih =>
    obtain ⟨inner, hinner, rfl⟩ := Option.map_eq_some_iff.mp hdistance
    rw [Nat.add_comm]
    exact .chunk (.single (by simpa using hopener) hopening) (ih hinner)

/-- The characters that end a statement by themselves. -/
def endsByItself (character : Char) : Bool :=
  character = ';' || character = '\n'

/-- A text begins with a literal or a comment that does not end, or with a bracket that is not closed. -/
def IsUnfinished (text : List Char) : Prop :=
  opening text = .unterminated ∨
    ∃ opener rest, text = opener :: rest ∧ isOpener opener ∧ groupLength text = none

/-- A walk over a statement, which goes on to the end of its line from something unfinished. -/
def WalksStatement (text : List Char) (length : Nat) : Prop :=
  Walks endsByItself text length ∨
    ∃ place, Walks endsByItself text place ∧ IsUnfinished (text.drop place) ∧
      length = place + lineLength (text.drop place)

theorem WalksStatement.chunk {text : List Char} {width further : Nat} (hchunk : IsChunk text width)
    (hwalks : WalksStatement (text.drop width) further) : WalksStatement text (width + further) := by
  rcases hwalks with hwalks | ⟨place, hwalks, hunfinished, rfl⟩
  · exact .inl (.chunk hchunk hwalks)
  · rw [List.drop_drop] at hunfinished
    refine .inr ⟨width + place, .chunk hchunk hwalks, hunfinished, ?_⟩
    rw [List.drop_drop, Nat.add_assoc]

theorem not_isPlain_of_isUnfinished {stops : Char → Bool} {text : List Char}
    (hunfinished : IsUnfinished text) : ¬ IsPlain stops text := by
  rintro ⟨character, rest, rfl, -, hopener, hcode⟩
  rcases hunfinished with hopening | ⟨opener, _, heq, hopens, -⟩
  · exact Opening.noConfusion (hopening.symm.trans hcode)
  · obtain ⟨rfl, rfl⟩ := List.cons.inj heq
    rw [hopener] at hopens
    exact Bool.noConfusion hopens

theorem WalksStatement.of_isUnfinished {text : List Char} (hunfinished : IsUnfinished text) :
    WalksStatement text (lineLength text) :=
  .inr ⟨0, .here (not_isPlain_of_isUnfinished hunfinished), hunfinished, (Nat.zero_add _).symm⟩

theorem walksStatement_statementLength (text : List Char) :
    WalksStatement text (statementLength text) := by
  fun_induction statementLength text with
  | case1 =>
    refine .inl (.here ?_)
    rintro ⟨_, _, heq, -⟩
    simp at heq
  | case2 character rest hends =>
    refine .inl (.here ?_)
    rintro ⟨_, _, heq, hstop, -, hcode⟩
    obtain ⟨rfl, rfl⟩ := List.cons.inj heq
    rw [Bool.or_eq_true] at hends
    rcases hends with hends | hcomment
    · exact absurd hends (by simpa [endsByItself] using hstop)
    · rw [(opening_eq_code.mp hcode).2.2] at hcomment
      exact Bool.noConfusion hcomment
  | case3 character rest hgoes hopening => exact .of_isUnfinished (.inl hopening)
  | case4 character rest hgoes further hopening ih =>
    rw [Nat.add_comm]
    exact .chunk (.piece hopening) ih
  | case5 character rest hgoes hopening hopener hgroup =>
    exact .of_isUnfinished (.inr ⟨character, rest, rfl, hopener, hgroup⟩)
  | case6 character rest hgoes hopening hopener distance hgroup ih =>
    rw [Nat.add_comm]
    exact .chunk (.group hgroup) ih
  | case7 character rest hgoes hopening hopener ih =>
    rw [Nat.add_comm]
    exact .chunk (.single (by simpa using hopener) hopening) ih

theorem isOpener_of_groupLength {character : Char} {rest : List Char} {distance : Nat}
    (hgroup : groupLength (character :: rest) = some distance) : isOpener character := by
  by_contra hopener
  simp [groupLength, hopener] at hgroup

/-- A walk goes on by one character from a plain one. -/
theorem Walks.of_isPlain {stops : Char → Bool} {text : List Char} {length : Nat}
    (hwalks : Walks stops text length) (hplain : IsPlain stops text) :
    ∃ further, length = 1 + further ∧ Walks stops (text.drop 1) further := by
  cases hwalks with
  | here hstops => exact absurd hplain hstops
  | @chunk _ width further hchunk hwalks =>
    obtain ⟨character, rest, rfl, -, hopener, hcode⟩ := hplain
    cases hchunk with
    | piece hopening => exact Opening.noConfusion (hcode.symm.trans hopening)
    | group hgroup =>
      rw [isOpener_of_groupLength hgroup] at hopener
      exact Bool.noConfusion hopener
    | single => exact ⟨further, rfl, hwalks⟩

theorem Walks.of_plain_run {stops : Char → Bool} {text : List Char} {length : Nat}
    (hwalks : Walks stops text length) (width : Nat)
    (hplain : ∀ place < width, IsPlain stops (text.drop place)) :
    ∃ further, length = width + further ∧ Walks stops (text.drop width) further := by
  induction width with
  | zero => exact ⟨length, (Nat.zero_add _).symm, hwalks⟩
  | succ width ih =>
    obtain ⟨further, rfl, hrest⟩ := ih fun place hplace => hplain place (Nat.lt_succ_of_lt hplace)
    obtain ⟨later, rfl, hlater⟩ := hrest.of_isPlain (hplain width (Nat.lt_succ_self _))
    rw [List.drop_drop] at hlater
    exact ⟨later, by omega, hlater⟩

/-! ## The bracket reader along a walk -/

/-- The scan of the bracket matcher over a text that stands behind an opening parenthesis. -/
def Scan.behindParenthesis (text : List Char) : Scan where
  expected := []
  previous := none
  before := []
  rest := '(' :: text

namespace Scan

variable {scan middle after literal : Scan} {stops : Char → Bool} {width further limit : Nat}

/-- Only the parenthesis in front of the text is open. -/
def IsTopLevel (scan : Scan) : Prop :=
  scan.expected = [')']

/-- Every regular expression that the scan reads at the top level within some characters consists of
plain characters. -/
def HasPlainRegexes (stops : Char → Bool) (scan : Scan) (limit : Nat) : Prop :=
  ∀ first literal further after, scan.Passes first literal →
    literal.next = some (.literal further, after) → literal.IsTopLevel →
      literal.rest.head? = some '/' → first < limit →
        ∀ place ≤ further, IsPlain stops (literal.rest.drop place)

theorem HasPlainRegexes.of_passes (hregexes : scan.HasPlainRegexes stops (width + limit))
    (hpasses : scan.Passes width middle) : middle.HasPlainRegexes stops limit := by
  intro first literal further after hfirst hnext htop hslash hlimit
  exact hregexes _ literal further after (hpasses.trans hfirst) hnext htop hslash (by omega)

/-- What the next step of a scan has to be for the regular expressions to consist of plain
characters. -/
theorem HasPlainRegexes.of_next {lexeme : Lexeme} (hnext : scan.next = some (lexeme, middle))
    (hplain : ∀ further, lexeme = .literal further → scan.IsTopLevel → scan.rest.head? = some '/' →
      ∀ place ≤ further, IsPlain stops (scan.rest.drop place))
    (hlater : middle.HasPlainRegexes stops (limit - lexeme.width)) :
    scan.HasPlainRegexes stops limit := by
  intro first literal further after hfirst hliteral htop hslash hlimit
  cases hfirst with
  | refl =>
    obtain ⟨rfl, rfl⟩ := Prod.mk.inj (Option.some.inj (hnext.symm.trans hliteral))
    exact hplain further rfl htop hslash
  | step hstep hpasses =>
    obtain ⟨rfl, rfl⟩ := Prod.mk.inj (Option.some.inj (hnext.symm.trans hstep))
    exact hlater _ literal further after hpasses hliteral htop hslash (by omega)

theorem hasPlainRegexes_zero : scan.HasPlainRegexes stops 0 := by
  intro first literal further after _ _ _ _ hlimit
  omega

/-- The bracket reader goes over a group as the cutting loops do. -/
theorem exists_passes_of_groupLength {expected before rest : List Char} {previous : Option Char}
    {opener : Char} {distance : Nat} (hgroup : groupLength (opener :: rest) = some distance)
    (hexpected : expected ≠ []) :
    ∃ after, Passes ⟨expected, previous, before, opener :: rest⟩ (distance + 1) after ∧
      after.expected = expected := by
  have hopens := isOpener_of_groupLength hgroup
  obtain ⟨closer, hopener⟩ := Option.isSome_iff_exists.mp hopens
  rw [groupLength, if_pos hopens] at hgroup
  obtain ⟨inside, behind, last, rfl, rfl, hinside⟩ :=
    exists_group_of_closingDistance hopener (readers_sound rest).2 hgroup
  have hpassed := hinside.isPassed (closer :: expected) (opener :: before) (List.cons_ne_nil _ _)
    (looksAlike_opener hopens _ _)
  refine ⟨⟨expected, some closer, (opener :: (inside ++ [closer])).reverse ++ before, behind⟩,
    ?_, rfl⟩
  simpa using passes_group hopener hexpected hpassed

/-- At the top level the scan stops, or goes over the next chunk of the walk, or reads a regular
expression where the walk goes on by one character. -/
theorem IsTopLevel.next_of_isChunk (htop : scan.IsTopLevel) (hchunk : IsChunk scan.rest width) :
    scan.next = none ∨
      (∃ middle, scan.Passes width middle ∧ middle.IsTopLevel) ∨
      ∃ further middle, scan.next = some (.literal further, middle) ∧ middle.IsTopLevel ∧
        scan.rest.head? = some '/' := by
  obtain ⟨expected, previous, before, text⟩ := scan
  obtain rfl : expected = [')'] := htop
  cases hchunk with
  | @piece character rest further hopening =>
    obtain ⟨lexeme, hlexeme, hpiece, hwidth⟩ : ∃ lexeme,
        lexeme? previous before (character :: rest) = some lexeme ∧ lexeme ≠ .character ∧
          lexeme.width = further + 1 := by
      by_cases hquote : isQuote character || character == '\x60'
      · exact ⟨.literal further, by simp [lexeme?, hopening, hquote], Lexeme.noConfusion, rfl⟩
      · exact ⟨.comment further, by simp [lexeme?, hopening, hquote], Lexeme.noConfusion, rfl⟩
    have hpasses : Passes ⟨[')'], previous, before, character :: rest⟩ lexeme.width _ :=
      .of_next (next_of_piece hlexeme hpiece)
    rw [hwidth] at hpasses
    exact .inr (.inl ⟨_, hpasses, rfl⟩)
  | group hgroup =>
    obtain ⟨middle, hpasses, hmiddle⟩ := exists_passes_of_groupLength hgroup (List.cons_ne_nil ')' [])
    exact .inr (.inl ⟨middle, hpasses, hmiddle⟩)
  | @single character rest hopener hcode =>
    cases hlexeme : lexeme? previous before (character :: rest) with
    | none => exact .inl (by simp [next, hlexeme])
    | some lexeme =>
      rcases lexeme?_cases hlexeme with
        ⟨_, hpiece, -⟩ | ⟨-, ⟨further, rfl, rfl, -, -⟩ | ⟨rfl, -⟩⟩
      · exact Opening.noConfusion (hcode.symm.trans hpiece)
      · exact .inr (.inr ⟨further, _, next_of_piece hlexeme Lexeme.noConfusion, rfl, rfl⟩)
      · cases hexpected : expectedAfter [')'] character with
        | none => exact .inl (by simp [next, hlexeme, hexpected])
        | some outer =>
          refine .inr (.inl ⟨_, passes_character hlexeme hexpected, ?_⟩)
          rcases expectedAfter_cases hexpected with
            ⟨closer, hcloser, -⟩ | ⟨-, heq, houter⟩ | ⟨-, -, rfl⟩
          · rw [isOpener_of_closerOf hcloser] at hopener
            exact Bool.noConfusion hopener
          · exact absurd (List.cons.inj heq).2.symm houter
          · rfl

theorem IsTopLevel.step_along_walk {length : Nat} (htop : scan.IsTopLevel)
    (hwalks : Walks stops scan.rest length) (hregexes : scan.HasPlainRegexes stops length) :
    length = 0 ∨ scan.next = none ∨
      ∃ width limit middle, 0 < width ∧ length = width + limit ∧ scan.Passes width middle ∧
        middle.IsTopLevel ∧ Walks stops middle.rest limit := by
  cases hwalks with
  | here => exact .inl rfl
  | @chunk _ width limit hchunk hrest =>
    have hpos := hchunk.width_pos
    rcases htop.next_of_isChunk hchunk with hnone | ⟨middle, hpasses, hmiddle⟩ |
      ⟨further, middle, hnext, hmiddle, hslash⟩
    · exact .inr (.inl hnone)
    · rw [← hpasses.rest_eq] at hrest
      exact .inr (.inr ⟨width, limit, middle, hpos, rfl, hpasses, hmiddle, hrest⟩)
    · -- the walk goes through the regular expression by plain characters
      have hplain := hregexes 0 scan further middle .refl hnext htop hslash (by omega)
      have hwalks : Walks stops scan.rest (width + limit) := .chunk hchunk hrest
      obtain ⟨later, hlength, hlater⟩ :=
        hwalks.of_plain_run (further + 1) fun place hplace => hplain place (Nat.le_of_lt_succ hplace)
      have hpasses : scan.Passes (further + 1) middle := .of_next hnext
      rw [← hpasses.rest_eq] at hlater
      exact .inr (.inr ⟨_, later, middle, Nat.succ_pos _, hlength, hpasses, hmiddle, hlater⟩)

/-- Along a walk the scan stays at the top level wherever it is between two chunks, so a literal that it
reads ends in front of the end of the walk or begins behind it. -/
theorem IsTopLevel.literal_along_walk {length : Nat} (htop : scan.IsTopLevel)
    (hwalks : Walks stops scan.rest length) (hregexes : scan.HasPlainRegexes stops length)
    {first : Nat} (hfirst : scan.Passes first literal)
    (hnext : literal.next = some (.literal further, after)) :
    first + (further + 1) ≤ length ∨
      ∃ middle behind, scan.Passes length middle ∧ middle.IsTopLevel ∧ first = length + behind ∧
        middle.Passes behind literal := by
  induction hlength : length using Nat.strong_induction_on generalizing scan length first with
  | _ length ih =>
    subst hlength
    rcases htop.step_along_walk hwalks hregexes with rfl | hnone |
      ⟨width, limit, middle, hpos, rfl, hpasses, hmiddle, hrest⟩
    · exact .inr ⟨scan, first, .refl, htop, (Nat.zero_add _).symm, hfirst⟩
    · rw [hfirst.next_eq_none hnone] at hnext
      simp at hnext
    · rcases hpasses.split hfirst hnext with hwithin | ⟨behind, rfl, hbehind⟩
      · have hwidth : (Lexeme.literal further).width = further + 1 := rfl
        exact .inl (by omega)
      · rcases ih limit (by omega) hmiddle hrest (hregexes.of_passes hpasses) hbehind rfl with
          hbefore | ⟨last, later, hlast, htop', rfl, hlater⟩
        · exact .inl (by omega)
        · exact .inr ⟨last, later, hpasses.trans hlast, htop', by omega, hlater⟩

theorem next_of_unterminated (hopening : opening scan.rest = .unterminated) : scan.next = none := by
  obtain ⟨expected, previous, before, text⟩ := scan
  cases text with
  | nil => rfl
  | cons character rest => simp [next, lexeme?, hopening]

/-- The scan of a text behind a parenthesis, once it is over the parenthesis. -/
def inParenthesis (text : List Char) : Scan where
  expected := [')']
  previous := some '('
  before := ['(']
  rest := text

theorem passes_parenthesis (text : List Char) :
    (behindParenthesis text).Passes 1 (inParenthesis text) :=
  passes_opener rfl

end Scan

/-! ## Cuts and literals -/

/-- A literal, from one index of a text up to another, that the bracket matcher skips as one item when it
reads the text from an index on behind an opening parenthesis. -/
def IsSkippedLiteral (text : List Char) (start first stop : Nat) : Prop :=
  ∃ literal further after, start ≤ first ∧
    (Scan.behindParenthesis (text.drop start)).Passes (first - start + 1) literal ∧
    literal.next = some (.literal further, after) ∧ stop = first + further + 1

/-- The end of the line of a bracket that stands outside all brackets and literals and that the bracket
matcher does not close. -/
def IsLineEndOfUnclosed (text : List Char) (start index : Nat) : Prop :=
  ∃ bracket scan opener, start ≤ bracket ∧
    (Scan.behindParenthesis (text.drop start)).Passes (bracket - start + 1) scan ∧ scan.IsTopLevel ∧
    text[bracket]? = some opener ∧ isOpener opener ∧ findMatching text bracket = none ∧
    index = bracket + lineLength (text.drop bracket)

/-- The regular expressions that the bracket matcher reads outside all brackets, up to an index, when it
reads a text from an index on behind an opening parenthesis, consist of plain characters. -/
def HasPlainRegexes (stops : Char → Bool) (text : List Char) (start index : Nat) : Prop :=
  (Scan.behindParenthesis (text.drop start)).HasPlainRegexes stops (1 + (index - start))

variable {text : List Char} {start first stop index : Nat}

theorem HasPlainRegexes.mono {stops : Char → Bool} {limit : Nat}
    (hregexes : HasPlainRegexes stops text start index) (hlimit : limit ≤ index) :
    HasPlainRegexes stops text start limit := by
  intro first literal further after hfirst hnext htop hslash hless
  exact hregexes first literal further after hfirst hnext htop hslash (by omega)

theorem literal_outside_walk {stops : Char → Bool} {length : Nat}
    (hwalks : Walks stops (text.drop start) length)
    (hregexes : HasPlainRegexes stops text start (start + length))
    (hliteral : IsSkippedLiteral text start first stop) :
    stop ≤ start + length ∨ start + length ≤ first ∧
      ∃ middle behind literal further after,
        (Scan.inParenthesis (text.drop start)).Passes length middle ∧
        middle.IsTopLevel ∧ middle.Passes behind literal ∧
        literal.next = some (.literal further, after) := by
  obtain ⟨literal, further, after, hstart, hfirst, hnext, rfl⟩ := hliteral
  rw [HasPlainRegexes, Nat.add_sub_cancel_left] at hregexes
  have hparenthesis := Scan.passes_parenthesis (text.drop start)
  rcases hparenthesis.split hfirst hnext with hwithin | ⟨place, hplace, hinside⟩
  · have hwidth : (Lexeme.literal further).width = further + 1 := rfl
    omega
  · have htop : (Scan.inParenthesis (text.drop start)).IsTopLevel := rfl
    rcases htop.literal_along_walk hwalks (hregexes.of_passes hparenthesis) hinside hnext with
      hbefore | ⟨middle, behind, hmiddle, htop, rfl, hbehind⟩
    · exact .inl (by omega)
    · exact .inr ⟨by omega, middle, behind, literal, further, after, hmiddle, htop, hbehind, hnext⟩

/-- Arguments and statements are cut outside the literals that the bracket matcher skips, as long as
regular expressions outside brackets hold nothing that the cutting loops look for; only a bracket that
is not closed ends a statement with its line, and so perhaps within a literal. -/
theorem cut_outside_literals (hliteral : IsSkippedLiteral text start first stop) :
    (∀ stops index, findTopLevel text stops start = some index →
        HasPlainRegexes stops text start index → ¬ (first < index ∧ index < stop)) ∧
      (HasPlainRegexes endsByItself text start (findStatementEnd text start) →
        first < findStatementEnd text start → findStatementEnd text start < stop →
          IsLineEndOfUnclosed text start (findStatementEnd text start)) := by
  constructor
  · intro stops index hfound hregexes
    obtain ⟨distance, hdistance, rfl⟩ := Option.map_eq_some_iff.mp hfound
    rw [Nat.add_comm] at hregexes ⊢
    rcases literal_outside_walk (walks_of_topLevelDistance hdistance) hregexes hliteral with
      hbefore | ⟨hbehind, -⟩
    · omega
    · omega
  · intro hregexes hfirst hstop
    have hstart : start ≤ first := hliteral.choose_spec.choose_spec.choose_spec.1
    have hend : findStatementEnd text start = start + statementLength (text.drop start) := by
      by_cases hwithin : start ≤ text.length
      · rw [findStatementEnd, Nat.min_eq_left hwithin]
      · -- nothing is left of the text, and no literal is in it
        have hnil : text.drop start = [] := List.drop_eq_nil_of_le (Nat.le_of_not_le hwithin)
        rw [findStatementEnd, hnil, statementLength] at hfirst
        omega
    rw [hend] at hregexes hfirst hstop ⊢
    rcases walksStatement_statementLength (text.drop start) with
      hwalks | ⟨place, hwalks, hunfinished, hlength⟩
    · rcases literal_outside_walk hwalks hregexes hliteral with hbefore | ⟨hbehind, -⟩
      · omega
      · omega
    · have hplain : HasPlainRegexes endsByItself text start (start + place) :=
        hregexes.mono (by omega)
      rcases literal_outside_walk hwalks hplain hliteral with
        hbefore | ⟨-, middle, behind, literal, further, after, hmiddle, htop, hbehind, hnext⟩
      · omega
      · have hrest : middle.rest = (text.drop start).drop place := hmiddle.rest_eq
        rcases hunfinished with hopening | ⟨opener, rest, htext, hopens, hgroup⟩
        · -- the bracket matcher stops where a literal does not end
          rw [← hrest] at hopening
          rw [hbehind.next_eq_none (Scan.next_of_unterminated hopening)] at hnext
          simp at hnext
        · rw [List.drop_drop] at htext hgroup hlength
          refine ⟨start + place, middle, opener, Nat.le_add_right _ _, ?_, htop, ?_, hopens, ?_, ?_⟩
          · rw [Nat.add_sub_cancel_left, Nat.add_comm]
            exact (Scan.passes_parenthesis _).trans hmiddle
          · rw [← List.head?_drop, htext, List.head?_cons]
          · rw [findMatching, hgroup, Option.map_none]
          · omega

theorem isSkippedLiteral_of_next {further : Nat} {after : Scan}
    (hnext : (Scan.inParenthesis text).next = some (.literal further, after)) :
    IsSkippedLiteral text 0 0 (further + 1) :=
  ⟨_, further, after, le_rfl, Scan.passes_parenthesis _, hnext, by rw [Nat.zero_add]⟩

/-- Neither condition can go: a regular expression may hold a semicolon or a comma, and the line of an
open bracket may end within a template literal. -/
theorem cut_within_literals :
    (IsSkippedLiteral "/a;b/".toList 0 0 5 ∧ findStatementEnd "/a;b/".toList 0 = 2) ∧
      (IsSkippedLiteral "/a,b/".toList 0 0 5 ∧ findTopLevel "/a,b/".toList (· == ',') 0 = some 2) ∧
      IsSkippedLiteral "(\x60a\nb\x60".toList 0 1 6 ∧
        findStatementEnd "(\x60a\nb\x60".toList 0 = 3 := by
  have hsemicolon : (Scan.inParenthesis "/a;b/".toList).next =
      some (.literal 4, ⟨[')'], some '/', "/b;a/(".toList, []⟩) := by
    cbv
  have hcomma : (Scan.inParenthesis "/a,b/".toList).next =
      some (.literal 4, ⟨[')'], some '/', "/b,a/(".toList, []⟩) := by
    cbv
  have hbracket : (Scan.inParenthesis "(\x60a\nb\x60".toList).next =
      some (.character, ⟨[')', ')'], some '(', ['(', '('], "\x60a\nb\x60".toList⟩) := by
    cbv
  have htemplate : Scan.next ⟨[')', ')'], some '(', ['(', '('], "\x60a\nb\x60".toList⟩ =
      some (.literal 4, ⟨[')', ')'], some '\x60', "\x60b\na\x60((".toList, []⟩) := by
    cbv
  refine ⟨⟨isSkippedLiteral_of_next hsemicolon, by cbv⟩,
    ⟨isSkippedLiteral_of_next hcomma, by cbv⟩,
    ⟨_, 4, _, Nat.zero_le 1, ?_, htemplate, rfl⟩, by cbv⟩
  exact (Scan.passes_parenthesis _).trans (.of_next hbracket)

/-- A regular expression is passed over when it holds no semicolon. -/
theorem cut_outside_literals_regex :
    IsSkippedLiteral "/a/;".toList 0 0 3 ∧ findTopLevel "/a/;".toList (· == ';') 0 = some 3 ∧
      HasPlainRegexes (· == ';') "/a/;".toList 0 3 ∧ ¬ (0 < 3 ∧ 3 < 3) := by
  have hparenthesis : (Scan.behindParenthesis "/a/;".toList).next =
      some (.character, Scan.inParenthesis "/a/;".toList) := by
    cbv
  have hregex : (Scan.inParenthesis "/a/;".toList).next =
      some (.literal 2, ⟨[')'], some '/', "/a/(".toList, ";".toList⟩) := by
    have hflags : IsFlags [] [';'] := ⟨rfl, by simp; decide⟩
    have hbody : IsRegexBody false "a/".toList := .plain (by decide) (by decide) (by decide) .close
    exact Scan.next_of_piece (lexeme?_regex rfl rfl (hbody.regexLength_append hflags))
      Lexeme.noConfusion
  have hliteral : IsSkippedLiteral "/a/;".toList 0 0 3 := isSkippedLiteral_of_next hregex
  have hfound : findTopLevel "/a/;".toList (· == ';') 0 = some 3 := by
    cbv
  have hplain : HasPlainRegexes (· == ';') "/a/;".toList 0 3 := by
    refine .of_next hparenthesis (by simp) (.of_next hregex ?_ Scan.hasPlainRegexes_zero)
    rintro further hfurther - - place hplace
    obtain rfl : 2 = further := Lexeme.literal.inj hfurther
    have hcode : opening "/a/;".toList = .code ∧ opening "a/;".toList = .code ∧
        opening "/;".toList = .code := by
      refine ⟨?_, ?_, ?_⟩ <;> cbv
    interval_cases place
    · exact ⟨'/', _, rfl, rfl, rfl, hcode.1⟩
    · exact ⟨'a', _, rfl, rfl, rfl, hcode.2.1⟩
    · exact ⟨'/', _, rfl, rfl, rfl, hcode.2.2⟩
  exact ⟨hliteral, hfound, hplain, (cut_outside_literals hliteral).1 _ _ hfound hplain⟩

end PageGraft.Script
