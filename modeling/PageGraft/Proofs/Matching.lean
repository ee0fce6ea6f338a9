import PageGraft.Proofs.BracketGrammar

/-!
# The bracket matcher decides the bracket grammar

The converse of `Reads.isPassed`: what the readers take is a reading of the grammar. The bracket reader
keeps the closers of all open brackets on a stack, and the template reader calls it for every
substitution; both are followed by induction over the length of the text (`readers_sound`). `Closes` is
the grammar's view of the stack. With both directions the bracket matcher finds a closing bracket exactly
where the grammar has one (`findMatching_decides`).
-/

namespace PageGraft.Script

open PageGraft.Page PageGraft.Text

/-! ## The grammar allows what the readers take -/

/-- Brackets that are closed one after the other, innermost first: items, the closer of the innermost
bracket, and so on up to the closer of the outermost one, which is not part of the piece. -/
inductive Closes : List Char → Option Char → List Char → List Char → List Char → Prop
  | outermost {previous last : Option Char} {before inside rest : List Char} {closer : Char}
      (hcloser : isCloser closer)
      (hinside : Reads .items previous before inside (closer :: rest) last) :
      Closes [closer] previous before inside (closer :: rest)
  | inner {previous last : Option Char} {before inside outside rest expected : List Char} {closer : Char}
      (hinside : Reads .items previous before inside (closer :: (outside ++ rest)) last)
      (houtside : Closes expected (some closer) (closer :: (inside.reverse ++ before)) outside rest) :
      Closes (closer :: expected) previous before (inside ++ closer :: outside) rest

section

variable {part : Part} {previous middle last : Option Char}
  {before before' expected item more inside piece rest : List Char}

theorem Closes.prepend (hitem : Reads .item previous before item (more ++ rest) middle)
    (hcloses : Closes expected middle (item.reverse ++ before) more rest) :
    Closes expected previous before (item ++ more) rest := by
  cases hcloses with
  | outermost hcloser hinside => exact .outermost hcloser (.cons hitem hinside)
  | @inner _ _ _ inside outside _ expected closer hinside houtside =>
    rw [← List.append_assoc]
    refine .inner (.cons ?_ hinside) ?_
    · simpa using hitem
    · simpa using houtside

/-- The group that an inner bracket opens is an item of what is outside it. -/
theorem Closes.group {opener closer : Char} (hopener : closerOf opener = some closer)
    (hexpected : expected ≠ [])
    (hcloses : Closes (closer :: expected) (some opener) (opener :: before) piece rest) :
    Closes expected previous before (opener :: piece) rest := by
  generalize hstack : closer :: expected = stack at hcloses
  cases hcloses with
  | outermost hcloser hinside =>
    exact absurd (List.cons.inj hstack).2 hexpected
  | @inner _ _ _ inside outside _ _ _ hinside houtside =>
    obtain ⟨rfl, rfl⟩ := List.cons.inj hstack
    have hgroup : Reads .item previous before (opener :: (inside ++ [closer])) (outside ++ rest)
        (some closer) := .group hopener hinside
    have houter : Closes expected (some closer) ((opener :: (inside ++ [closer])).reverse ++ before)
        outside rest := by
      simpa using houtside
    simpa using Closes.prepend hgroup houter

/-- What stands in front counts only as far as it can be seen. -/
theorem Reads.congr (hreads : Reads part previous before piece rest last)
    (halike : LooksAlike before before') : Reads part previous before' piece rest last := by
  induction hreads generalizing before' with
  | string hquote hbody => exact .string hquote hbody
  | templateLiteral hbody ih => exact .templateLiteral (ih (halike.append [_]))
  | lineComment hline => exact .lineComment hline
  | blockComment hbody => exact .blockComment hbody
  | regex hallowed hcomment hbody hflags =>
    rw [halike.regexAllowed_eq] at hallowed
    exact .regex hallowed hcomment hbody hflags
  | group hopener hinside ih => exact .group hopener (ih (halike.append [_]))
  | code hcode =>
    refine .code ⟨hcode.opens, hcode.closes, hcode.quotes, hcode.backtick, hcode.comments, ?_⟩
    rw [← halike.regexAllowed_eq]
    exact hcode.regex
  | nil => exact .nil
  | cons hitem hmore ihitem ihmore => exact .cons (ihitem halike) (ihmore (halike.append _))
  | close => exact .close
  | escape hbody ih => exact .escape (ih (halike.append [_, _]))
  | @substitution _ _ _ before inside _ _ _ _ ihinside ihbody =>
    have hbody : LooksAlike ('\x7d' :: (inside.reverse ++ '\x7b' :: '$' :: before))
        ('\x7d' :: (inside.reverse ++ '\x7b' :: '$' :: before')) := by
      simpa using halike.append ('\x7d' :: (inside.reverse ++ ['\x7b', '$']))
    exact .substitution (ihinside (halike.append [_, _])) (ihbody hbody)
  | plain hescape hclose hsubstitution hbody ih =>
    exact .plain hescape hclose hsubstitution (ih (halike.append [_]))

/-- The three ways a lexeme is found. -/
theorem lexeme?_cases {lexeme : Lexeme} {character : Char}
    (hlexeme : lexeme? previous before (character :: rest) = some lexeme) :
    (∃ further, opening (character :: rest) = .piece further ∧
        lexeme = if isQuote character || character == '\x60' then .literal further
          else .comment further) ∨
      opening (character :: rest) = .code ∧
        ((∃ further, lexeme = .literal further ∧ character = '/' ∧ regexAllowed previous before ∧
            regexLength false rest = some further) ∨
          lexeme = .character ∧
            (character = '/' → regexAllowed previous before → regexLength false rest = none)) := by
  rw [lexeme?] at hlexeme
  cases hopening : opening (character :: rest) with
  | unterminated => simp [hopening] at hlexeme
  | piece further =>
    rw [hopening] at hlexeme
    exact .inl ⟨further, rfl, (Option.some.inj hlexeme).symm⟩
  | code =>
    refine .inr ⟨rfl, ?_⟩
    simp only [hopening] at hlexeme
    by_cases hslash : character = '/' && regexAllowed previous before
    · rw [if_pos hslash] at hlexeme
      rw [Bool.and_eq_true, decide_eq_true_eq] at hslash
      cases hlength : regexLength false rest with
      | some further =>
        rw [hlength] at hlexeme
        exact .inl ⟨further, (Option.some.inj hlexeme).symm, hslash.1, hslash.2, rfl⟩
      | none =>
        rw [hlength] at hlexeme
        exact .inr ⟨(Option.some.inj hlexeme).symm, fun _ _ => rfl⟩
    · rw [if_neg hslash] at hlexeme
      refine .inr ⟨(Option.some.inj hlexeme).symm, ?_⟩
      intro hcharacter hallowed
      simp [hcharacter, hallowed] at hslash

/-- The template reader stops behind a template literal of the grammar. -/
def ReadsTemplates (text : List Char) : Prop :=
  ∀ ⦃previous before length⦄, templateLength text = some length →
    ∃ body rest, text = body ++ rest ∧ body.length = length ∧
      Reads .template previous before body rest (some '\x60')

/-- The bracket reader stops in front of the closer that the grammar has for the outermost bracket. -/
def ReadsBrackets (text : List Char) : Prop :=
  ∀ ⦃expected previous before distance⦄, expected ≠ [] →
    closingDistance expected previous before text = some distance →
      ∃ piece rest, text = piece ++ rest ∧ piece.length = distance ∧
        Closes expected previous before piece rest

/-- A literal or a comment that the reader takes is an item. -/
theorem exists_item_of_lexeme {lexeme : Lexeme} {character : Char}
    (htemplates : ReadsTemplates rest)
    (hlexeme : lexeme? previous before (character :: rest) = some lexeme)
    (hpiece : lexeme ≠ .character) :
    ∃ item after, character :: rest = item ++ after ∧ item.length = lexeme.width ∧
      Reads .item previous before item after (lexeme.last previous character) := by
  rcases lexeme?_cases hlexeme with ⟨further, hopening, hlexeme⟩ | ⟨hcode, hregex | hcharacter⟩
  · rcases opening_eq_piece hopening with
      ⟨hquote, hlength⟩ | ⟨rfl, hlength⟩ | ⟨rfl, text, rfl, rfl⟩ |
        ⟨rfl, text, length, rfl, hlength, rfl⟩
    · obtain ⟨body, after, rfl, rfl, hbody⟩ := exists_of_stringLength hlength
      simp only [hquote, Bool.true_or, if_true] at hlexeme
      subst hlexeme
      exact ⟨character :: body, after, rfl, rfl, .string hquote hbody⟩
    · obtain ⟨body, after, rfl, rfl, hbody⟩ :=
        @htemplates (some '\x60') ('\x60' :: before) further hlength
      simp only [beq_self_eq_true, Bool.or_true, if_true] at hlexeme
      subst hlexeme
      exact ⟨'\x60' :: body, after, rfl, rfl, .templateLiteral hbody⟩
    · simp only [show (isQuote '/' || '/' == '\x60') = false by decide] at hlexeme
      subst hlexeme
      refine ⟨'/' :: '/' :: text.takeWhile (· ≠ '\n'), text.dropWhile (· ≠ '\n'), ?_, ?_,
        .lineComment (isLine_takeWhile text)⟩
      · rw [List.cons_append, List.cons_append, List.takeWhile_append_dropWhile]
      · simp [Lexeme.width, lineLength, Nat.add_comm]
    · simp only [show (isQuote '/' || '/' == '\x60') = false by decide] at hlexeme
      subst hlexeme
      obtain ⟨body, after, rfl, rfl, hbody⟩ := exists_of_blockCommentLength hlength
      exact ⟨'/' :: '*' :: body, after, rfl, rfl, .blockComment hbody⟩
  · obtain ⟨further, rfl, rfl, hallowed, hlength⟩ := hregex
    obtain ⟨body, flags, after, rfl, rfl, hbody, hflags⟩ := exists_of_regexLength hlength
    have hcomment := (opening_eq_code.mp hcode).2.2
    rw [startsComment_append hbody.ne_nil] at hcomment
    refine ⟨'/' :: (body ++ flags), after, ?_, rfl, .regex hallowed hcomment hbody hflags⟩
    simp
  · exact absurd hcharacter.1 hpiece

theorem isCode_of_lexeme {character : Char}
    (hlexeme : lexeme? previous before (character :: rest) = some .character)
    (hopener : isOpener character = false) (hcloser : isCloser character = false) :
    IsCode previous before character rest := by
  rcases lexeme?_cases hlexeme with
    ⟨further, -, hpiece⟩ | ⟨hcode, ⟨_, hliteral, -⟩ | ⟨-, hregex⟩⟩
  · split at hpiece <;> exact Lexeme.noConfusion hpiece
  · exact Lexeme.noConfusion hliteral
  · obtain ⟨hquote, hbacktick, hcomment⟩ := opening_eq_code.mp hcode
    exact ⟨hopener, hcloser, hquote, hbacktick, hcomment, fun hslash hallowed =>
      regexLength_eq_none.mp (hregex hslash hallowed)⟩

theorem Closes.of_singleton {closer : Char} (hcloses : Closes [closer] previous before inside rest) :
    ∃ after last, rest = closer :: after ∧ Reads .items previous before inside rest last := by
  cases hcloses with
  | outermost hcloser hinside => exact ⟨_, _, rfl, hinside⟩
  | inner hinside houtside => cases houtside

/-- The readers of a text are sound if they are so on every shorter text. -/
theorem readsBrackets_of_shorter {text : List Char}
    (hshorter : ∀ text', text'.length < text.length → ReadsTemplates text' ∧ ReadsBrackets text') :
    ReadsBrackets text := by
  intro expected previous before distance hexpected hdistance
  have hrun : Scan.distance ⟨expected, previous, before, text⟩ = some distance := hdistance
  rcases Scan.closes_or_next hrun with
    ⟨hcloses, rfl⟩ | ⟨lexeme, after, further, hnext, hfurther, rfl⟩
  · obtain ⟨closer, rest, hcloser, hsingle, rfl⟩ := hcloses
    obtain rfl : expected = [closer] := hsingle
    exact ⟨[], closer :: rest, rfl, rfl, .outermost hcloser .nil⟩
  · cases text with
    | nil => simp [Scan.next] at hnext
    | cons character rest =>
      obtain ⟨hlexeme, ⟨hpiece, rfl⟩ | ⟨rfl, outer, houter, rfl⟩⟩ := Scan.next_cases hnext
      · -- a literal or a comment is an item in front of what is closed later
        obtain ⟨htemplates, -⟩ := hshorter rest (Nat.lt_succ_self _)
        obtain ⟨item, after, htext, hwidth, hitem⟩ := exists_item_of_lexeme htemplates hlexeme hpiece
        have hadvance : Scan.advance ⟨expected, previous, before, character :: rest⟩ lexeme character
            expected = ⟨expected, lexeme.last previous character, item.reverse ++ before, after⟩ := by
          simp [Scan.advance, htext, ← hwidth]
        rw [hadvance] at hfurther
        have hless : after.length < (character :: rest).length := by
          have hpos := lexeme.width_pos
          rw [htext, List.length_append]
          omega
        obtain ⟨-, hbrackets⟩ := hshorter after hless
        obtain ⟨piece, behind, rfl, rfl, hcloses⟩ := hbrackets hexpected hfurther
        refine ⟨item ++ piece, behind, ?_, ?_, .prepend hitem hcloses⟩
        · rw [htext, List.append_assoc]
        · rw [List.length_append, hwidth]
      · have hless : rest.length < (character :: rest).length := Nat.lt_succ_self _
        obtain ⟨-, hbrackets⟩ := hshorter rest hless
        rcases expectedAfter_cases houter with ⟨closer, hopener, rfl⟩ |
          ⟨hcloser, rfl, hopen⟩ | ⟨hopener, hcloser, rfl⟩
        · -- the group that begins here is an item
          obtain ⟨piece, after, rfl, rfl, hcloses⟩ := hbrackets (List.cons_ne_nil _ _) hfurther
          rw [isSpace_of_isOpener (isOpener_of_closerOf hopener)] at hcloses
          exact ⟨character :: piece, after, rfl, Nat.add_comm _ _, hcloses.group hopener hexpected⟩
        · obtain ⟨piece, after, rfl, rfl, hcloses⟩ := hbrackets hopen hfurther
          rw [isSpace_of_isCloser hcloser] at hcloses
          exact ⟨character :: piece, after, rfl, Nat.add_comm _ _, .inner .nil hcloses⟩
        · obtain ⟨piece, after, rfl, rfl, hcloses⟩ := hbrackets hexpected hfurther
          have hcode := isCode_of_lexeme hlexeme hopener hcloser
          exact ⟨[character] ++ piece, after, rfl, Nat.add_comm _ _, .prepend (.code hcode) hcloses⟩

/-- A bracket that the reader closes opens a group of the grammar. -/
theorem exists_group_of_closingDistance {opener closer : Char} {distance : Nat}
    (hopener : closerOf opener = some closer) (hbrackets : ReadsBrackets rest)
    (hdistance : closingDistance [] none [] (opener :: rest) = some distance) :
    ∃ inside after last, rest = inside ++ closer :: after ∧ distance = inside.length + 1 ∧
      Reads .items (some opener) [opener] inside (closer :: after) last := by
  have hopening : Scan.Passes ⟨[], none, [], opener :: rest⟩ 1
      ⟨[closer], some opener, [opener], rest⟩ := Scan.passes_opener hopener
  have hrun := hopening.distance_eq
  rw [Scan.distance, hdistance] at hrun
  obtain ⟨inner, hinner, rfl⟩ := Option.map_eq_some_iff.mp hrun.symm
  obtain ⟨inside, behind, rfl, rfl, hcloses⟩ := hbrackets (List.cons_ne_nil _ _) hinner
  obtain ⟨after, last, rfl, hinside⟩ := hcloses.of_singleton
  exact ⟨inside, after, last, rfl, rfl, hinside⟩

theorem readsTemplates_of_shorter {text : List Char}
    (hshorter : ∀ text', text'.length < text.length → ReadsTemplates text' ∧ ReadsBrackets text') :
    ReadsTemplates text := by
  intro previous before length hlength
  rw [templateLength.eq_def] at hlength
  split at hlength
  case h_1 => simp at hlength
  case h_2 => simp at hlength
  case h_3 escaped rest =>
    obtain ⟨inner, hinner, rfl⟩ := Option.map_eq_some_iff.mp hlength
    obtain ⟨htemplates, -⟩ := hshorter rest (by simp)
    obtain ⟨body, after, rfl, rfl, hbody⟩ := @htemplates previous (escaped :: '\\' :: before) _ hinner
    exact ⟨_, after, rfl, rfl, .escape hbody⟩
  case h_4 rest =>
    obtain rfl := Option.some.inj hlength
    exact ⟨['\x60'], rest, rfl, rfl, .close⟩
  case h_5 rest =>
    split at hlength
    · simp at hlength
    · rename_i distance hdistance
      obtain ⟨-, hbrackets⟩ := hshorter rest (by simp)
      obtain ⟨inside, behind, inner, rfl, rfl, hinside⟩ :=
        exists_group_of_closingDistance rfl hbrackets hdistance
      have hdrop : (inside ++ '\x7d' :: behind).drop (inside.length + 1) = behind := by
        rw [← List.drop_drop, List.drop_left, List.drop_one, List.tail_cons]
      rw [hdrop] at hlength
      obtain ⟨further, hfurther, rfl⟩ := Option.map_eq_some_iff.mp hlength
      obtain ⟨htemplates, -⟩ := hshorter behind (by simp; omega)
      obtain ⟨body, after, rfl, rfl, hbody⟩ :=
        @htemplates previous ('\x7d' :: (inside.reverse ++ '\x7b' :: '$' :: before)) _ hfurther
      have hbraces := hinside.congr (looksAlike_opener rfl [] ('$' :: before))
      refine ⟨'$' :: '\x7b' :: (inside ++ '\x7d' :: body), after, ?_, ?_, .substitution hbraces hbody⟩
      · simp
      · simp only [List.length_cons, List.length_append]
        omega
  case h_6 character rest hlast hescape hclose hsubstitution =>
    obtain ⟨inner, hinner, rfl⟩ := Option.map_eq_some_iff.mp hlength
    obtain ⟨htemplates, -⟩ := hshorter rest (Nat.lt_succ_self _)
    obtain ⟨body, after, rfl, rfl, hbody⟩ := @htemplates previous (character :: before) _ hinner
    refine ⟨_, after, rfl, rfl, .plain (ne_backslash hlast hescape) hclose ?_ hbody⟩
    intro hdollar hbrace
    obtain ⟨tail, htail⟩ := List.head?_eq_some_iff.mp hbrace
    exact hsubstitution tail hdollar htail

theorem readers_sound (text : List Char) : ReadsTemplates text ∧ ReadsBrackets text := by
  induction hlength : text.length using Nat.strong_induction_on generalizing text with
  | _ length ih =>
    have hshorter : ∀ text', text'.length < text.length →
        ReadsTemplates text' ∧ ReadsBrackets text' :=
      fun text' hless => ih _ (hlength ▸ hless) text' rfl
    exact ⟨readsTemplates_of_shorter hshorter, readsBrackets_of_shorter hshorter⟩

end

/-! ## Matching brackets -/

/-- The bracket at an index of a text opens a group that the grammar closes at another one. -/
def IsGroup (text : List Char) (start stop : Nat) : Prop :=
  ∃ front opener closer inside after last,
    text = front ++ opener :: (inside ++ closer :: after) ∧ closerOf opener = some closer ∧
      Reads .items (some opener) (opener :: front.reverse) inside (closer :: after) last ∧
      start = front.length ∧ stop = front.length + 1 + inside.length

theorem isGroup_of_findMatching {text : List Char} {start stop : Nat}
    (hmatching : findMatching text start = some stop) : IsGroup text start stop := by
  obtain ⟨distance, hgroup, rfl⟩ := Option.map_eq_some_iff.mp hmatching
  unfold groupLength at hgroup
  split at hgroup
  · rename_i opener rest hdrop
    split at hgroup
    · rename_i hopens
      obtain ⟨closer, hopener⟩ := Option.isSome_iff_exists.mp hopens
      obtain ⟨-, hbrackets⟩ := readers_sound rest
      rw [hdrop] at hgroup
      obtain ⟨inside, after, last, rfl, rfl, hinside⟩ :=
        exists_group_of_closingDistance hopener hbrackets hgroup
      have hstart : start < text.length := by
        rw [← List.drop_eq_nil_iff.not.trans not_le, hdrop]
        exact List.cons_ne_nil _ _
      have hfront : (text.take start).length = start := by
        rw [List.length_take, Nat.min_eq_left hstart.le]
      refine ⟨text.take start, opener, closer, inside, after, last, ?_, hopener,
        hinside.congr (looksAlike_opener hopens _ _), ?_, ?_⟩
      · rw [← hdrop, List.take_append_drop]
      · exact hfront.symm
      · rw [hfront]
        omega
    · simp at hgroup
  · simp at hgroup

theorem findMatching_of_isGroup {text : List Char} {start stop : Nat}
    (hgroup : IsGroup text start stop) : findMatching text start = some stop := by
  obtain ⟨front, opener, closer, inside, after, last, rfl, hopener, hinside, rfl, rfl⟩ := hgroup
  have hopens := isOpener_of_closerOf hopener
  have hpassed := hinside.isPassed [closer] [opener] (List.cons_ne_nil _ _)
    (looksAlike_opener hopens _ _)
  rw [findMatching, List.drop_left, groupLength]
  simp only [hopens, if_true]
  rw [Scan.closingDistance_group hopener hpassed, Option.map_some]
  exact congrArg some (by omega)

/-- The bracket matcher decides the bracket grammar. -/
theorem findMatching_decides (text : List Char) (start : Nat) :
    (∀ stop, findMatching text start = some stop ↔ IsGroup text start stop) ∧
      (findMatching text start = none ↔ ¬ ∃ stop, IsGroup text start stop) := by
  have hdecides : ∀ stop, findMatching text start = some stop ↔ IsGroup text start stop :=
    fun stop => ⟨isGroup_of_findMatching, findMatching_of_isGroup⟩
  refine ⟨hdecides, ?_⟩
  rw [Option.eq_none_iff_forall_ne_some, not_exists]
  exact forall_congr' fun stop => not_congr (hdecides stop)

end PageGraft.Script
