import PageGraft.Proofs.Literal

/-!
# The bracket reader step by step

The bracket reader takes one lexeme after the other: a literal or a comment whole, or a single character
of code. `Scan` is what it knows in between, and `Scan.next` is one step of it. The distance that the
reader answers is the length of a run of steps (`Scan.distance_of_next`) up to the closer of the outermost
bracket (`Scan.distance_of_closes`).

`Scan.Passes` is such a run, whether or not the closer is reached. Steps are determined, so that of two
runs the longer one goes through the end of the shorter one (`Scan.Passes.split`).
-/

namespace PageGraft.Script

open PageGraft.Text

/-! ## What a text begins with -/

section

variable {character : Char} {rest : List Char} {further : Nat}

theorem isQuote_iff : isQuote character ↔ character = '\'' ∨ character = '"' := by
  simp [isQuote]

theorem opening_of_isQuote (hquote : isQuote character) :
    opening (character :: rest) = .ofLength (stringLength character rest) := by
  rcases isQuote_iff.mp hquote with rfl | rfl <;> rw [opening]

theorem opening_backtick : opening ('\x60' :: rest) = .ofLength (templateLength rest) := by
  rw [opening]

theorem opening_lineComment : opening ('/' :: '/' :: rest) = .piece (1 + lineLength rest) := by
  rw [opening]

theorem opening_blockComment :
    opening ('/' :: '*' :: rest) = .ofLength ((blockCommentLength rest).map (· + 1)) := by
  rw [opening]

theorem ofLength_eq_piece {length : Option Nat} :
    Opening.ofLength length = .piece further ↔ length = some further := by
  cases length <;> simp [Opening.ofLength]

theorem ofLength_ne_code {length : Option Nat} : Opening.ofLength length ≠ .code := by
  cases length <;> simp [Opening.ofLength]

/-- A piece is a string, a template literal, a line comment or a block comment. -/
theorem opening_eq_piece (hopening : opening (character :: rest) = .piece further) :
    (isQuote character ∧ stringLength character rest = some further) ∨
      (character = '\x60' ∧ templateLength rest = some further) ∨
      (character = '/' ∧ ∃ text, rest = '/' :: text ∧ further = 1 + lineLength text) ∨
      (character = '/' ∧ ∃ text length, rest = '*' :: text ∧
        blockCommentLength text = some length ∧ further = length + 1) := by
  rw [opening.eq_def] at hopening
  split at hopening
  case h_1 heq =>
    obtain ⟨rfl, rfl⟩ := List.cons.inj heq
    exact .inl ⟨rfl, ofLength_eq_piece.mp hopening⟩
  case h_2 heq =>
    obtain ⟨rfl, rfl⟩ := List.cons.inj heq
    exact .inl ⟨rfl, ofLength_eq_piece.mp hopening⟩
  case h_3 heq =>
    obtain ⟨rfl, rfl⟩ := List.cons.inj heq
    exact .inr (.inl ⟨rfl, ofLength_eq_piece.mp hopening⟩)
  case h_4 text heq =>
    obtain ⟨rfl, rfl⟩ := List.cons.inj heq
    exact .inr (.inr (.inl ⟨rfl, text, rfl, (Opening.piece.inj hopening).symm⟩))
  case h_5 text heq =>
    obtain ⟨rfl, rfl⟩ := List.cons.inj heq
    obtain ⟨length, hlength, rfl⟩ := Option.map_eq_some_iff.mp (ofLength_eq_piece.mp hopening)
    exact .inr (.inr (.inr ⟨rfl, text, length, rfl, hlength, rfl⟩))
  case h_6 => exact Opening.noConfusion hopening

theorem opening_eq_code :
    opening (character :: rest) = .code ↔
      isQuote character = false ∧ character ≠ '\x60' ∧ startsComment (character :: rest) = false := by
  constructor
  · intro hopening
    refine ⟨?_, ?_, ?_⟩
    · rw [Bool.eq_false_iff]
      intro hquote
      exact ofLength_ne_code ((opening_of_isQuote hquote).symm.trans hopening)
    · rintro rfl
      exact ofLength_ne_code (opening_backtick.symm.trans hopening)
    · rw [Bool.eq_false_iff]
      intro hcomment
      unfold startsComment at hcomment
      split at hcomment
      · rename_i heq
        rw [heq, opening_lineComment] at hopening
        exact Opening.noConfusion hopening
      · rename_i heq
        rw [heq, opening_blockComment] at hopening
        exact ofLength_ne_code hopening
      · exact Bool.false_ne_true hcomment
  · rintro ⟨hquote, hbacktick, hcomment⟩
    have hnot : character ≠ '\'' ∧ character ≠ '"' := by
      simpa [isQuote] using hquote
    rw [opening]
    · intro text heq
      exact hnot.1 (List.cons.inj heq).1
    · intro text heq
      exact hnot.2 (List.cons.inj heq).1
    · intro text heq
      exact hbacktick (List.cons.inj heq).1
    · intro text heq
      rw [heq] at hcomment
      exact Bool.noConfusion hcomment
    · intro text heq
      rw [heq] at hcomment
      exact Bool.noConfusion hcomment

end

/-! ## Lexemes -/

/-- What the reader takes in one step. Literals and comments count the characters after their first. -/
inductive Lexeme where
  | literal (further : Nat)
  | comment (further : Nat)
  | character
deriving Repr, DecidableEq

def Lexeme.width : Lexeme → Nat
  | .literal further => further + 1
  | .comment further => further + 1
  | .character => 1

/-- The last character that is neither white space nor part of a comment, after a lexeme with a given
first character. -/
def Lexeme.last (lexeme : Lexeme) (previous : Option Char) (character : Char) : Option Char :=
  match lexeme with
  | .literal _ => some character
  | .comment _ => previous
  | .character => if isSpace character then previous else some character

/-- The lexeme that a text begins with, unless it is a literal or comment that does not end. -/
def lexeme? (previous : Option Char) (before : List Char) : List Char → Option Lexeme
  | [] => none
  | character :: rest =>
    match opening (character :: rest) with
    | .unterminated => none
    | .piece further =>
      some (if isQuote character || character == '\x60' then .literal further else .comment further)
    | .code =>
      match if character = '/' && regexAllowed previous before then regexLength false rest else none with
      | some further => some (.literal further)
      | none => some .character

/-- The closers of the open brackets after a character of code. The scan ends at the closer of the
outermost bracket, and at one that is not expected. -/
def expectedAfter (expected : List Char) (character : Char) : Option (List Char) :=
  match closerOf character with
  | some closer => some (closer :: expected)
  | none =>
    if isCloser character then
      match expected with
      | [] => none
      | closer :: outer => if closer = character && !outer.isEmpty then some outer else none
    else some expected

theorem Lexeme.width_pos (lexeme : Lexeme) : 0 < lexeme.width := by
  cases lexeme <;> simp [Lexeme.width]

theorem isOpener_iff {character : Char} :
    isOpener character ↔ character = '(' ∨ character = '[' ∨ character = '\x7b' := by
  constructor
  · intro hopener
    unfold isOpener closerOf at hopener
    split at hopener <;> simp_all
  · rintro (rfl | rfl | rfl) <;> rfl

theorem isCloser_iff {character : Char} :
    isCloser character ↔ character = ')' ∨ character = ']' ∨ character = '}' := by
  simp [isCloser, or_assoc]

theorem isOpener_of_closerOf {opener closer : Char} (hopener : closerOf opener = some closer) :
    isOpener opener := by
  simp [isOpener, hopener]

theorem isCloser_of_closerOf {opener closer : Char} (hopener : closerOf opener = some closer) :
    isCloser closer := by
  unfold closerOf at hopener
  split at hopener
  · obtain rfl := Option.some.inj hopener
    rfl
  · obtain rfl := Option.some.inj hopener
    rfl
  · obtain rfl := Option.some.inj hopener
    rfl
  · simp at hopener

theorem isSpace_of_isOpener {opener : Char} (hopener : isOpener opener) : isSpace opener = false := by
  rcases isOpener_iff.mp hopener with rfl | rfl | rfl <;> rfl

theorem opening_of_isOpener {opener : Char} {rest : List Char} (hopener : isOpener opener) :
    opening (opener :: rest) = .code := by
  rcases isOpener_iff.mp hopener with rfl | rfl | rfl <;> simp [opening]

/-- A character of code opens a bracket, closes the innermost one, or leaves them as they are. -/
theorem expectedAfter_cases {expected outer : List Char} {character : Char}
    (houter : expectedAfter expected character = some outer) :
    (∃ closer, closerOf character = some closer ∧ outer = closer :: expected) ∨
      (isCloser character ∧ expected = character :: outer ∧ outer ≠ []) ∨
      (isOpener character = false ∧ isCloser character = false ∧ outer = expected) := by
  unfold expectedAfter at houter
  cases hopener : closerOf character with
  | some closer =>
    rw [hopener] at houter
    exact .inl ⟨closer, rfl, (Option.some.inj houter).symm⟩
  | none =>
    simp only [hopener] at houter
    cases hcloser : isCloser character with
    | false =>
      rw [hcloser, if_neg Bool.false_ne_true] at houter
      exact .inr (.inr ⟨by simp [isOpener, hopener], rfl, (Option.some.inj houter).symm⟩)
    | true =>
      rw [hcloser, if_pos rfl] at houter
      cases expected with
      | nil => simp at houter
      | cons closer inner =>
        simp only [Option.ite_none_right_eq_some, Bool.and_eq_true, decide_eq_true_eq,
          Option.some.injEq] at houter
        obtain ⟨⟨rfl, hinner⟩, rfl⟩ := houter
        exact .inr (.inl ⟨rfl, rfl, by simpa using hinner⟩)

theorem opening_of_isCloser {closer : Char} {rest : List Char} (hcloser : isCloser closer) :
    opening (closer :: rest) = .code := by
  rcases isCloser_iff.mp hcloser with rfl | rfl | rfl <;> simp [opening]

theorem closerOf_of_isCloser {closer : Char} (hcloser : isCloser closer) : closerOf closer = none := by
  rcases isCloser_iff.mp hcloser with rfl | rfl | rfl <;> rfl

theorem isSpace_of_isCloser {closer : Char} (hcloser : isCloser closer) : isSpace closer = false := by
  rcases isCloser_iff.mp hcloser with rfl | rfl | rfl <;> rfl

theorem slash_ne_of_isCloser {closer : Char} (hcloser : isCloser closer) : closer ≠ '/' := by
  rintro rfl
  exact absurd hcloser (by decide)

section

variable {character : Char} {previous : Option Char} {before rest : List Char} {further : Nat}

theorem lexeme?_of_isQuote (hquote : isQuote character)
    (hlength : stringLength character rest = some further) :
    lexeme? previous before (character :: rest) = some (.literal further) := by
  simp [lexeme?, opening_of_isQuote hquote, hlength, Opening.ofLength, hquote]

theorem lexeme?_template (hlength : templateLength rest = some further) :
    lexeme? previous before ('\x60' :: rest) = some (.literal further) := by
  simp [lexeme?, opening_backtick, hlength, Opening.ofLength]

theorem lexeme?_lineComment :
    lexeme? previous before ('/' :: '/' :: rest) = some (.comment (1 + lineLength rest)) := by
  rw [lexeme?, opening_lineComment]
  rfl

theorem lexeme?_blockComment (hlength : blockCommentLength rest = some further) :
    lexeme? previous before ('/' :: '*' :: rest) = some (.comment (further + 1)) := by
  rw [lexeme?, opening_blockComment, hlength]
  rfl

/-- A regular expression is read where a slash opens one that ends. -/
theorem lexeme?_regex (hallowed : regexAllowed previous before)
    (hcomment : startsComment ('/' :: rest) = false) (hlength : regexLength false rest = some further) :
    lexeme? previous before ('/' :: rest) = some (.literal further) := by
  have hcode : opening ('/' :: rest) = .code := opening_eq_code.mpr ⟨rfl, by decide, hcomment⟩
  simp [lexeme?, hcode, hallowed, hlength]

theorem lexeme?_character (hcode : opening (character :: rest) = .code)
    (hregex : character = '/' → regexAllowed previous before → regexLength false rest = none) :
    lexeme? previous before (character :: rest) = some .character := by
  rw [lexeme?, hcode]
  by_cases hslash : character = '/' && regexAllowed previous before
  · rw [Bool.and_eq_true, decide_eq_true_eq] at hslash
    simp [hslash.1, hslash.2, hregex hslash.1 hslash.2]
  · simp [hslash]

/-- A character that begins no literal and no comment is read by itself. -/
theorem lexeme?_of_ne (hquote : isQuote character = false) (hbacktick : character ≠ '\x60')
    (hslash : character ≠ '/') :
    lexeme? previous before (character :: rest) = some .character :=
  lexeme?_character (opening_eq_code.mpr ⟨hquote, hbacktick, startsComment_of_ne hslash⟩)
    fun heq => absurd heq hslash

theorem lexeme?_of_isOpener (hopener : isOpener character) :
    lexeme? previous before (character :: rest) = some .character := by
  apply lexeme?_character (opening_of_isOpener hopener)
  rintro rfl
  exact absurd hopener (by decide)

theorem lexeme?_of_isCloser (hcloser : isCloser character) :
    lexeme? previous before (character :: rest) = some .character := by
  apply lexeme?_character (opening_of_isCloser hcloser)
  intro hslash
  exact absurd hslash (slash_ne_of_isCloser hcloser)

end

/-! ## Steps -/

/-- What the reader knows between two lexemes, and the text that is left. -/
structure Scan where
  expected : List Char
  previous : Option Char
  before : List Char
  rest : List Char

namespace Scan

/-- The scan after a lexeme with a given first character, with these brackets open. -/
def advance (scan : Scan) (lexeme : Lexeme) (character : Char) (expected : List Char) : Scan where
  expected
  previous := lexeme.last scan.previous character
  before := (scan.rest.take lexeme.width).reverse ++ scan.before
  rest := scan.rest.drop lexeme.width

/-- The lexeme that comes next, and what the reader knows after it. -/
def next (scan : Scan) : Option (Lexeme × Scan) :=
  match scan.rest with
  | [] => none
  | character :: _ =>
    (lexeme? scan.previous scan.before scan.rest).bind fun lexeme =>
      (if lexeme = .character then expectedAfter scan.expected character
        else some scan.expected).map fun expected =>
          (lexeme, scan.advance lexeme character expected)

/-- The number of characters before the closer of the outermost bracket. -/
def distance (scan : Scan) : Option Nat :=
  closingDistance scan.expected scan.previous scan.before scan.rest

/-- The closer of the outermost bracket comes next. -/
def Closes (scan : Scan) : Prop :=
  ∃ closer rest, isCloser closer ∧ scan.expected = [closer] ∧ scan.rest = closer :: rest

variable {expected before rest : List Char} {previous : Option Char} {character : Char}

theorem distance_nil : distance ⟨expected, previous, before, []⟩ = none := by
  rw [distance, closingDistance]

theorem distance_of_closes {scan : Scan} (hcloses : scan.Closes) : scan.distance = some 0 := by
  obtain ⟨expected, previous, before, text⟩ := scan
  obtain ⟨closer, rest, hcloser, rfl, rfl⟩ := hcloses
  rw [distance, closingDistance]
  simp [opening_of_isCloser hcloser, slash_ne_of_isCloser hcloser, closerOf_of_isCloser hcloser, hcloser]

/-- As long as the outermost bracket does not close, the reader takes the next lexeme. -/
theorem distance_eq_bind {scan : Scan} (hopen : ¬ scan.Closes) :
    scan.distance = scan.next.bind fun (lexeme, after) => after.distance.map (· + lexeme.width) := by
  obtain ⟨expected, previous, before, text⟩ := scan
  cases text with
  | nil => exact distance_nil
  | cons character rest =>
    rw [distance, closingDistance]
    cases hopening : opening (character :: rest) with
    | unterminated => simp [next, lexeme?, hopening]
    | piece further =>
      by_cases hquote : isQuote character || character == '\x60'
      · simp [next, lexeme?, hopening, hquote, distance, advance, Lexeme.width, Lexeme.last]
      · simp [next, lexeme?, hopening, hquote, distance, advance, Lexeme.width, Lexeme.last]
    | code =>
      simp only [next, lexeme?, hopening]
      cases hregex : if character = '/' && regexAllowed previous before then regexLength false rest
          else none with
      | some further =>
        obtain rfl : character = '/' := by
          by_contra hslash
          simp [hslash] at hregex
        simp [distance, advance, Lexeme.width, Lexeme.last]
      | none =>
        cases hcloser : closerOf character with
        | some closer =>
          simp [expectedAfter, hcloser, distance, advance, Lexeme.width, Lexeme.last]
        | none =>
          by_cases hcloses : isCloser character
          · cases expected with
            | nil => simp [expectedAfter, hcloser, hcloses]
            | cons closer outer =>
              by_cases hmatch : closer = character
              · subst hmatch
                cases outer with
                | nil => exact absurd ⟨closer, rest, hcloses, rfl, rfl⟩ hopen
                | cons =>
                  simp [expectedAfter, hcloser, hcloses, distance, advance, Lexeme.width, Lexeme.last]
              · simp [expectedAfter, hcloser, hcloses, hmatch]
          · simp [expectedAfter, hcloser, hcloses, distance, advance, Lexeme.width, Lexeme.last]

/-- Nothing comes after the closer of the outermost bracket. -/
theorem next_of_closes {scan : Scan} (hcloses : scan.Closes) : scan.next = none := by
  obtain ⟨expected, previous, before, text⟩ := scan
  obtain ⟨closer, rest, hcloser, rfl, rfl⟩ := hcloses
  simp [next, lexeme?, opening_of_isCloser hcloser, slash_ne_of_isCloser hcloser, expectedAfter,
    closerOf_of_isCloser hcloser, hcloser]

variable {scan middle after last : Scan} {lexeme : Lexeme} {width further : Nat}

theorem distance_of_next (hnext : scan.next = some (lexeme, after)) :
    scan.distance = after.distance.map (· + lexeme.width) := by
  rw [distance_eq_bind, hnext]
  · rfl
  · intro hcloses
    simp [next_of_closes hcloses] at hnext

/-- A reader that answers has the closer before it, or a lexeme after which it answers too. -/
theorem closes_or_next (hdistance : scan.distance = some width) :
    scan.Closes ∧ width = 0 ∨
      ∃ lexeme after further, scan.next = some (lexeme, after) ∧ after.distance = some further ∧
        width = lexeme.width + further := by
  by_cases hcloses : scan.Closes
  · rw [distance_of_closes hcloses] at hdistance
    exact .inl ⟨hcloses, (Option.some.inj hdistance).symm⟩
  · rw [distance_eq_bind hcloses, Option.bind_eq_some_iff] at hdistance
    obtain ⟨⟨lexeme, after⟩, hnext, hmap⟩ := hdistance
    obtain ⟨further, hfurther, rfl⟩ := Option.map_eq_some_iff.mp hmap
    exact .inr ⟨lexeme, after, further, hnext, hfurther, Nat.add_comm _ _⟩

/-- What a step does to a literal or a comment, and to a character of code. -/
theorem next_cases {expected before rest : List Char} {previous : Option Char} {character : Char}
    (hnext : next ⟨expected, previous, before, character :: rest⟩ = some (lexeme, after)) :
    lexeme? previous before (character :: rest) = some lexeme ∧
      (lexeme ≠ .character ∧
          after = advance ⟨expected, previous, before, character :: rest⟩ lexeme character expected ∨
        lexeme = .character ∧ ∃ outer, expectedAfter expected character = some outer ∧
          after = ⟨outer, if isSpace character then previous else some character,
            character :: before, rest⟩) := by
  obtain ⟨found, hlexeme, hnext⟩ := Option.bind_eq_some_iff.mp hnext
  obtain ⟨outer, houter, hafter⟩ := Option.map_eq_some_iff.mp hnext
  obtain ⟨rfl, rfl⟩ := Prod.mk.inj hafter
  refine ⟨hlexeme, ?_⟩
  by_cases hcharacter : found = .character
  · subst hcharacter
    exact .inr ⟨rfl, outer, houter, rfl⟩
  · rw [if_neg hcharacter] at houter
    obtain rfl := Option.some.inj houter
    exact .inl ⟨hcharacter, rfl⟩

/-! ## Runs -/

/-- A run of steps over some characters. -/
inductive Passes : Scan → Nat → Scan → Prop
  | refl {scan : Scan} : Passes scan 0 scan
  | step {scan middle after : Scan} {lexeme : Lexeme} {width : Nat}
      (hnext : scan.next = some (lexeme, middle)) (hpasses : Passes middle width after) :
      Passes scan (lexeme.width + width) after

theorem Passes.of_next (hnext : scan.next = some (lexeme, after)) : scan.Passes lexeme.width after :=
  .step hnext .refl

theorem next_of_piece {expected before rest : List Char} {previous : Option Char} {character : Char}
    (hlexeme : lexeme? previous before (character :: rest) = some lexeme) (hpiece : lexeme ≠ .character) :
    next ⟨expected, previous, before, character :: rest⟩ = some (lexeme,
      advance ⟨expected, previous, before, character :: rest⟩ lexeme character expected) := by
  simp [next, hlexeme, hpiece]

/-- A literal or a comment is passed whole, and the brackets that are open stay so. -/
theorem passes_piece {expected before more rest : List Char} {previous : Option Char} {character : Char}
    {lexeme : Lexeme} (hlexeme : lexeme? previous before (character :: (more ++ rest)) = some lexeme)
    (hpiece : lexeme ≠ .character) (hwidth : lexeme.width = more.length + 1) :
    Passes ⟨expected, previous, before, (character :: more) ++ rest⟩ (character :: more).length
      ⟨expected, lexeme.last previous character, (character :: more).reverse ++ before, rest⟩ := by
  have hnext : next ⟨expected, previous, before, (character :: more) ++ rest⟩ = some (lexeme,
      ⟨expected, lexeme.last previous character, (character :: more).reverse ++ before, rest⟩) := by
    rw [List.cons_append, next_of_piece hlexeme hpiece]
    simp [advance, hwidth]
  have hpasses := Passes.of_next hnext
  rwa [hwidth] at hpasses

theorem passes_character {expected outer before rest : List Char} {previous : Option Char}
    {character : Char} (hlexeme : lexeme? previous before (character :: rest) = some .character)
    (hexpected : expectedAfter expected character = some outer) :
    Passes ⟨expected, previous, before, character :: rest⟩ 1
      ⟨outer, if isSpace character then previous else some character, character :: before, rest⟩ := by
  have hnext : next ⟨expected, previous, before, character :: rest⟩ = some (.character,
      ⟨outer, if isSpace character then previous else some character, character :: before, rest⟩) := by
    simp [next, hlexeme, hexpected, advance, Lexeme.width, Lexeme.last]
  exact .of_next hnext

theorem next_of_opener {expected before rest : List Char} {previous : Option Char}
    {opener closer : Char} (hopener : closerOf opener = some closer) :
    next ⟨expected, previous, before, opener :: rest⟩ =
      some (.character, ⟨closer :: expected, some opener, opener :: before, rest⟩) := by
  have hopens := isOpener_of_closerOf hopener
  have hexpected : expectedAfter expected opener = some (closer :: expected) := by
    simp [expectedAfter, hopener]
  simp [next, lexeme?_of_isOpener hopens, hexpected, advance, Lexeme.width, Lexeme.last,
    isSpace_of_isOpener hopens]

theorem passes_opener {expected before rest : List Char} {previous : Option Char}
    {opener closer : Char} (hopener : closerOf opener = some closer) :
    Passes ⟨expected, previous, before, opener :: rest⟩ 1
      ⟨closer :: expected, some opener, opener :: before, rest⟩ :=
  .of_next (next_of_opener hopener)

/-- The closer of an inner bracket is passed, and the brackets around it stay open. -/
theorem passes_closer {expected before rest : List Char} {previous : Option Char} {closer : Char}
    (hcloser : isCloser closer) (hexpected : expected ≠ []) :
    Passes ⟨closer :: expected, previous, before, closer :: rest⟩ 1
      ⟨expected, some closer, closer :: before, rest⟩ := by
  have hafter : expectedAfter (closer :: expected) closer = some expected := by
    simp [expectedAfter, closerOf_of_isCloser hcloser, hcloser, hexpected]
  simpa [isSpace_of_isCloser hcloser] using passes_character (lexeme?_of_isCloser hcloser) hafter

theorem Passes.trans (hfirst : scan.Passes width middle) (hsecond : middle.Passes further after) :
    scan.Passes (width + further) after := by
  induction hfirst with
  | refl => rwa [Nat.zero_add]
  | step hnext _ ih =>
    rw [Nat.add_assoc]
    exact .step hnext (ih hsecond)

/-- A run puts its width in front of the distance that is left. -/
theorem Passes.distance_eq (hpasses : scan.Passes width after) :
    scan.distance = after.distance.map (· + width) := by
  induction hpasses with
  | refl => simp
  | step hnext _ ih =>
    rw [distance_of_next hnext, ih, Option.map_map]
    refine congrArg (Option.map · _) (funext fun further => ?_)
    rw [Function.comp_apply, Nat.add_assoc, Nat.add_comm (Lexeme.width _)]

/-- A bracket closes where a run over its inside ends. -/
theorem closingDistance_group {opener closer : Char} {inside before rest : List Char}
    {last : Option Char} (hopener : closerOf opener = some closer)
    (hinside : Passes ⟨[closer], some opener, [opener], inside ++ closer :: rest⟩ inside.length
      ⟨[closer], last, before, closer :: rest⟩) :
    closingDistance [] none [] (opener :: (inside ++ closer :: rest)) = some (inside.length + 1) := by
  have hcloses : Closes ⟨[closer], last, before, closer :: rest⟩ :=
    ⟨closer, rest, isCloser_of_closerOf hopener, rfl, rfl⟩
  have hopening : Passes ⟨[], none, [], opener :: (inside ++ closer :: rest)⟩ 1
      ⟨[closer], some opener, [opener], inside ++ closer :: rest⟩ := passes_opener hopener
  have hdistance := (hopening.trans hinside).distance_eq
  rw [distance_of_closes hcloses, Option.map_some, Nat.zero_add, Nat.add_comm] at hdistance
  exact hdistance

theorem next_rest {lexeme : Lexeme} (hnext : scan.next = some (lexeme, after)) :
    after.rest = scan.rest.drop lexeme.width := by
  obtain ⟨expected, previous, before, text⟩ := scan
  cases text with
  | nil => simp [next] at hnext
  | cons character rest =>
    obtain ⟨-, ⟨-, rfl⟩ | ⟨rfl, _, -, rfl⟩⟩ := next_cases hnext
    · rfl
    · rfl

/-- What a run has passed is behind it. -/
theorem Passes.rest_eq (hpasses : scan.Passes width after) : after.rest = scan.rest.drop width := by
  induction hpasses with
  | refl => rfl
  | step hnext _ ih => rw [ih, next_rest hnext, List.drop_drop]

/-- Nothing is read where no lexeme comes next. -/
theorem Passes.next_eq_none (hpasses : scan.Passes width after) (hnone : scan.next = none) :
    after.next = none := by
  cases hpasses with
  | refl => exact hnone
  | step hnext _ => exact absurd (hnone.symm.trans hnext) (by simp)

/-- The reader answers the width of a run up to the closer of the outermost bracket. -/
theorem exists_passes_of_distance {distance : Nat} (hdistance : scan.distance = some distance) :
    ∃ last, scan.Passes distance last ∧ last.Closes := by
  induction distance using Nat.strong_induction_on generalizing scan with
  | _ distance ih =>
    rcases closes_or_next hdistance with
      ⟨hcloses, rfl⟩ | ⟨lexeme, after, further, hnext, hfurther, rfl⟩
    · exact ⟨scan, .refl, hcloses⟩
    · have hpos := lexeme.width_pos
      obtain ⟨last, hpasses, hcloses⟩ := ih further (by omega) hfurther
      exact ⟨last, .step hnext hpasses, hcloses⟩

/-- Of two runs one goes on where the other ends: a lexeme that is read after the second one lies within
the first one, or behind it. -/
theorem Passes.split (hfirst : scan.Passes width middle) {start : Nat} {after : Scan}
    (hsecond : scan.Passes start after) (hnext : after.next = some (lexeme, last)) :
    start + lexeme.width ≤ width ∨
      ∃ further, start = width + further ∧ middle.Passes further after := by
  induction hfirst generalizing start with
  | refl => exact .inr ⟨start, (Nat.zero_add start).symm, hsecond⟩
  | step hstep _ ih =>
    cases hsecond with
    | refl =>
      obtain ⟨rfl, rfl⟩ := Prod.mk.inj (Option.some.inj (hstep.symm.trans hnext))
      exact .inl (by omega)
    | step hstep' hpasses =>
      obtain ⟨rfl, rfl⟩ := Prod.mk.inj (Option.some.inj (hstep.symm.trans hstep'))
      obtain hwithin | ⟨further, rfl, hbehind⟩ := ih hpasses
      · exact .inl (by omega)
      · exact .inr ⟨further, by omega, hbehind⟩

end Scan

end PageGraft.Script
