import PageGraft.Proofs.BracketForest
import PageGraft.Proofs.Cleaning
import PageGraft.Proofs.Nesting

/-!
# Bracket matching and white space

One more space behind a blank of code moves the closer of a bracket by one index
(`findMatching_widen`), unless the white space that grows leads from a keyword to a regular expression
and the keyword is just in view of the slash (`IsAtReach`). There the slash divides in the wider text, and
the brackets of the regular expression count (`findMatching_not_widen`).

In front of the space the scan takes the same steps, since another text stands in for the one behind
each lexeme (`Scan.Passes.of_standsIn`). Behind it the two scans differ in the text that a slash looks back
on. They agree from the first character on that is no white space, whatever it is
(`closingDistance_space`): no keyword reaches over white space.
-/

namespace PageGraft.Script

open PageGraft.Page PageGraft.Text StateTransition

/-! ## Texts that stand in for each other behind a lexeme -/

section

variable {previous : Option Char} {before more rest rest' : List Char} {character blank : Char}

theorem regexLength_cons_of_isBlank {inClass : Bool} (hblank : isBlank blank) :
    regexLength inClass (blank :: rest) = (regexLength inClass rest).map (· + 1) := by
  simp only [isBlank, Bool.or_eq_true, beq_iff_eq] at hblank
  rcases hblank with rfl | rfl
  · cases inClass <;> rfl
  · cases inClass <;> rfl

/-- One more space behind a blank lets no regular expression end. -/
theorem standsIn_space (hblank : isBlank blank) :
    StandsIn (blank :: ' ' :: rest) (blank :: rest) where
  head?_eq := rfl
  regexLength_eq_none := by
    intro front inClass hnone
    have hspace : ∀ inClass, regexLength inClass rest = none →
        regexLength inClass (' ' :: rest) = none := by
      intro inClass hrest
      rw [regexLength_cons_of_isBlank (by decide), hrest]
      rfl
    fun_induction regexLength inClass front with
    | case1 =>
      rw [List.nil_append, regexLength_cons_of_isBlank hblank, Option.map_eq_none_iff] at hnone ⊢
      exact hspace _ hnone
    | case2 =>
      -- the backslash takes the blank with it
      rw [List.singleton_append, regexLength, Option.map_eq_none_iff] at hnone ⊢
      exact hspace _ hnone
    | case3 inClass escaped front ih =>
      rw [List.cons_append, List.cons_append, regexLength, Option.map_eq_none_iff] at hnone ⊢
      exact ih hnone
    | case4 => rfl
    | case5 character front hlast hescape hnewline ih =>
      rw [List.cons_append, regexLength_cons (ne_backslash hlast hescape), if_neg hnewline, if_pos rfl,
        Option.map_eq_none_iff] at hnone ⊢
      exact ih hnone
    | case6 inClass front hclass =>
      rw [List.cons_append, regexLength_cons (by decide), if_neg (by decide), if_neg hclass,
        if_pos rfl] at hnone
      simp at hnone
    | case7 inClass character front hlast hescape hnewline hclass hslash ih =>
      rw [List.cons_append, regexLength_cons (ne_backslash hlast hescape), if_neg hnewline,
        if_neg hclass, if_neg hslash, Option.map_eq_none_iff] at hnone ⊢
      exact ih hnone

/-- A piece at the beginning of a text lies in what is known of it, if that is long enough. -/
theorem exists_gap {piece after : List Char} (htext : more ++ rest = piece ++ after)
    (hlength : piece.length ≤ more.length) : ∃ gap, more = piece ++ gap ∧ after = gap ++ rest := by
  obtain ⟨gap, rfl⟩ := List.prefix_of_prefix_length_le (List.prefix_append piece after)
    (htext ▸ List.prefix_append more rest) hlength
  rw [List.append_assoc] at htext
  exact ⟨gap, rfl, (List.append_cancel_left htext).symm⟩

/-- A string, a template literal or a comment is read in the same way where another text stands in for
the one behind it. -/
theorem opening_of_standsIn {further : Nat} (hstandsIn : StandsIn rest' rest)
    (hopening : opening (character :: (more ++ rest)) = .piece further)
    (hfurther : further ≤ more.length) :
    opening (character :: (more ++ rest')) = .piece further := by
  rcases opening_eq_piece hopening with
    ⟨hquote, hlength⟩ | ⟨rfl, hlength⟩ | ⟨rfl, text, htext, rfl⟩ |
      ⟨rfl, text, length, htext, hlength, rfl⟩
  · obtain ⟨body, after, htext, rfl, hbody⟩ := exists_of_stringLength hlength
    obtain ⟨gap, rfl, -⟩ := exists_gap htext hfurther
    have hescape : character ≠ '\\' := by
      rintro rfl
      exact absurd hquote (by decide)
    rw [opening_of_isQuote hquote, List.append_assoc, hbody.stringLength_append hescape]
    rfl
  · obtain ⟨htemplates, -⟩ := readers_sound (more ++ rest)
    obtain ⟨body, after, htext, rfl, hbody⟩ := @htemplates none [] further hlength
    obtain ⟨gap, rfl, rfl⟩ := exists_gap htext hfurther
    have hread : templateLength (body ++ (gap ++ rest')) = some body.length :=
      (hbody.standsIn (hstandsIn.append gap)).isPassed
    rw [opening_backtick, List.append_assoc, hread]
    rfl
  · obtain ⟨second, more, rfl⟩ := List.exists_cons_of_length_pos (show 0 < more.length by omega)
    rw [List.cons_append, List.cons.injEq] at htext
    obtain ⟨rfl, rfl⟩ := htext
    obtain ⟨line, after, htext, hlength, hline⟩ : ∃ line after, more ++ rest = line ++ after ∧
        lineLength (more ++ rest) = line.length ∧ IsLine line after :=
      ⟨_, _, List.takeWhile_append_dropWhile.symm, rfl, isLine_takeWhile _⟩
    rw [hlength] at hfurther ⊢
    obtain ⟨gap, rfl, rfl⟩ := exists_gap htext (by simpa [Nat.add_comm] using hfurther)
    have hline' : IsLine line (gap ++ rest') :=
      ⟨hline.1, (hstandsIn.append gap).head?_eq ▸ hline.2⟩
    rw [List.cons_append, opening_lineComment, List.append_assoc, hline'.lineLength_append]
  · obtain ⟨second, more, rfl⟩ := List.exists_cons_of_length_pos (show 0 < more.length by omega)
    rw [List.cons_append, List.cons.injEq] at htext
    obtain ⟨rfl, rfl⟩ := htext
    obtain ⟨body, after, htext, rfl, hbody⟩ := exists_of_blockCommentLength hlength
    obtain ⟨gap, rfl, -⟩ := exists_gap htext (by simpa using hfurther)
    rw [List.cons_append, opening_blockComment, List.append_assoc, hbody.blockCommentLength_append]
    rfl

/-- What comes next is the same where another text stands in for the one behind it. -/
theorem lexeme?_of_standsIn {lexeme : Lexeme} (hstandsIn : StandsIn rest' rest)
    (hlexeme : lexeme? previous before (character :: (more ++ rest)) = some lexeme)
    (hwidth : lexeme.width ≤ more.length + 1) :
    lexeme? previous before (character :: (more ++ rest')) = some lexeme := by
  rcases lexeme?_cases hlexeme with ⟨further, hopening, rfl⟩ | ⟨hcode, hregex⟩
  · have hfurther : further ≤ more.length := by
      split at hwidth <;> simpa [Lexeme.width] using hwidth
    rw [lexeme?, opening_of_standsIn hstandsIn hopening hfurther]
  · have hcode' : opening (character :: (more ++ rest')) = .code := by
      rw [opening_eq_code, startsComment_of_head? (hstandsIn.append more).head?_eq]
      exact opening_eq_code.mp hcode
    rcases hregex with ⟨further, rfl, rfl, hallowed, hlength⟩ | ⟨rfl, hnone⟩
    · obtain ⟨body, flags, after, htext, rfl, hbody, hflags⟩ := exists_of_regexLength hlength
      rw [← List.append_assoc] at htext
      obtain ⟨gap, rfl, rfl⟩ := exists_gap htext (by simpa [Lexeme.width] using hwidth)
      have hflags' : IsFlags flags (gap ++ rest') :=
        ⟨hflags.1, (hstandsIn.append gap).head?_eq ▸ hflags.2⟩
      apply lexeme?_regex hallowed (opening_eq_code.mp hcode').2.2
      rw [List.append_assoc, List.append_assoc, hbody.regexLength_append hflags']
    · apply lexeme?_character hcode'
      intro hslash hallowed
      exact hstandsIn.regexLength_eq_none more false (hnone hslash hallowed)

end

/-! ## Scans over the same text -/

namespace Scan

variable {scan after : Scan} {lexeme : Lexeme} {width : Nat} {more rest rest' : List Char}

theorem next_of_standsIn (hstandsIn : StandsIn rest' rest) (hrest : scan.rest = more ++ rest)
    (hnext : scan.next = some (lexeme, after)) (hwidth : lexeme.width ≤ more.length) :
    next { scan with rest := more ++ rest' } =
      some (lexeme, { after with rest := more.drop lexeme.width ++ rest' }) := by
  obtain ⟨character, tail, htext, hlexeme, houter, hafter⟩ := next_eq_some.mp hnext
  obtain ⟨first, more, rfl⟩ := List.exists_cons_of_length_pos (lexeme.width_pos.trans_le hwidth)
  rw [hrest] at htext hlexeme
  obtain ⟨rfl, rfl⟩ := List.cons.inj htext
  refine next_eq_some.mpr ⟨first, more ++ rest', rfl, ?_, houter, ?_⟩
  · exact lexeme?_of_standsIn hstandsIn hlexeme hwidth
  · have hbefore := congrArg before hafter
    have hprevious := congrArg previous hafter
    simp only [advance, hrest] at hbefore hprevious
    rw [List.take_append_of_le_length hwidth] at hbefore
    simp only [advance, hbefore, hprevious, List.take_append_of_le_length hwidth,
      List.drop_append_of_le_length hwidth]

/-- A run goes over the same characters where another text stands in for the one behind them. -/
theorem Passes.of_standsIn (hpasses : scan.Passes width after) (hstandsIn : StandsIn rest' rest)
    (hrest : scan.rest = more ++ rest) (hwidth : more.length = width) :
    Passes { scan with rest := more ++ rest' } width { after with rest := rest' } := by
  induction hpasses generalizing more with
  | refl =>
    rw [List.length_eq_zero_iff.mp hwidth]
    exact .refl
  | @step scan middle after lexeme width hnext hpasses ih =>
    have hmiddle : middle.rest = more.drop lexeme.width ++ rest := by
      rw [next_rest hnext, hrest, List.drop_append_of_le_length (by omega)]
    exact .step (next_of_standsIn hstandsIn hrest hnext (by omega))
      (ih hmiddle (by rw [List.length_drop]; omega))

/-- The text that a run has passed stands in front of what is left. -/
theorem Passes.before_eq (hpasses : scan.Passes width after) :
    after.before = (scan.rest.take width).reverse ++ scan.before := by
  induction hpasses with
  | refl => rfl
  | step hnext _ ih =>
    obtain ⟨_, _, _, -, -, hafter⟩ := next_eq_some.mp hnext
    rw [ih, next_rest hnext, congrArg before hafter, advance, ← List.append_assoc,
      ← List.reverse_append, ← List.take_add]

/-- A slash that divides is a character of its own. -/
theorem next_of_dividing {before : List Char} {previous : Option Char}
    (hdivides : regexAllowed previous before = false) (expected rest : List Char)
    (hcomment : startsComment ('/' :: rest) = false) :
    next ⟨expected, previous, before, '/' :: rest⟩ =
      some (.character, ⟨expected, some '/', '/' :: before, rest⟩) := by
  have hcode : opening ('/' :: rest) = .code := opening_eq_code.mpr ⟨rfl, by decide, hcomment⟩
  have hlexeme := lexeme?_character hcode fun _ hallowed =>
    absurd hallowed (ne_true_of_eq_false hdivides)
  exact next_eq_some.mpr ⟨_, _, rfl, hlexeme, rfl, rfl⟩

/-- White space is passed, and the last character in front of it stays the last one. -/
theorem passes_spaces {expected before spaces : List Char} {previous : Option Char}
    (hspaces : spaces.all isSpace) :
    Passes ⟨expected, previous, before, spaces ++ rest⟩ spaces.length
      ⟨expected, previous, spaces.reverse ++ before, rest⟩ := by
  induction spaces generalizing before with
  | nil => exact .refl
  | cons space spaces ih =>
    rw [List.all_cons, Bool.and_eq_true] at hspaces
    have hnext : next ⟨expected, previous, before, space :: (spaces ++ rest)⟩ =
        some (.character, ⟨expected, previous, space :: before, spaces ++ rest⟩) := by
      rw [next_of_isPlain (isPlain_of_isSpace hspaces.1), if_pos hspaces.1]
    have hpasses := Passes.step hnext (ih hspaces.2)
    rwa [List.reverse_cons, List.append_assoc, List.length_cons, Nat.add_comm]

end Scan

/-! ## Keywords behind white space -/

/-- A regular expression follows a keyword over white space that holds a place, and the keyword begins
with the last character that can be seen from the slash. -/
def IsAtReach (text : List Char) (index : Nat) : Prop :=
  ∃ front keyword spaces body after,
    text = front ++ (keyword ++ (spaces ++ '/' :: (body ++ after))) ∧ keyword ∈ regexKeywords ∧
      front.getLast?.any isNamePart = false ∧ spaces.all isSpace ∧
      keyword.length + spaces.length = keywordReach ∧
      front.length + keyword.length ≤ index ∧
      index < front.length + keyword.length + spaces.length ∧
      startsComment ('/' :: body) = false ∧ IsRegexBody false body

section

variable {expected before before' spaces spaces' word rest : List Char} {previous : Option Char}

/-- A keyword is seen over one more character of white space, unless it was just in view. -/
theorem endsWithKeyword_of_longer (hspaces : spaces.all isSpace) (hspaces' : spaces'.all isSpace)
    (hlength : spaces'.length = spaces.length + 1)
    (hword : ∀ character ∈ word.head?, isSpace character = false)
    (hreach : ∀ keyword ∈ regexKeywords, keyword.reverse <+: word →
      (word.drop keyword.length).head?.any isNamePart = false →
        keyword.length + spaces.length ≠ keywordReach) :
    endsWithKeyword (spaces' ++ word) = endsWithKeyword (spaces ++ word) := by
  rw [endsWithKeyword_append hspaces hword, endsWithKeyword_append hspaces' hword]
  rw [Bool.eq_iff_iff, List.any_eq_true, List.any_eq_true]
  refine exists_congr fun keyword => and_congr_right fun hmem => ?_
  simp only [Bool.and_eq_true, Bool.not_eq_true', List.isPrefixOf_iff_prefix, List.prefix_take_iff,
    List.length_reverse, hlength]
  have hpositive : 0 < keyword.length := by
    have hall : ∀ keyword ∈ regexKeywords, 0 < keyword.length := by decide
    exact hall keyword hmem
  constructor
  · rintro ⟨⟨hbegins, hfits⟩, halone⟩
    exact ⟨⟨hbegins, by omega⟩, halone⟩
  · rintro ⟨⟨hbegins, hfits⟩, halone⟩
    have hne := hreach keyword hmem hbegins halone
    exact ⟨⟨hbegins, by omega⟩, halone⟩

/-- Behind a character that is no white space, it does not matter which white space is in front. -/
theorem looksAlike_of_spaces {character : Char} (hcharacter : isSpace character = false)
    (hspaces : spaces.all isSpace) (hspaces' : spaces'.all isSpace) (hne : spaces ≠ [])
    (hne' : spaces' ≠ []) :
    LooksAlike (character :: (spaces ++ before)) (character :: (spaces' ++ before')) := by
  intro between
  obtain ⟨mark, spaces, rfl⟩ := List.exists_cons_of_ne_nil hne
  obtain ⟨mark', spaces', rfl⟩ := List.exists_cons_of_ne_nil hne'
  rw [List.all_cons, Bool.and_eq_true] at hspaces hspaces'
  rw [List.append_cons between character (mark :: spaces ++ before),
    List.append_cons between character (mark' :: spaces' ++ before'), List.cons_append,
    List.cons_append]
  apply endsWithKeyword_append_mark (isNamePart_of_isSpace hspaces.1).1
    (isNamePart_of_isSpace hspaces'.1).1
  intro hall
  simp [hcharacter] at hall

theorem LooksAlike.closingDistance_eq (halike : LooksAlike before before') (text : List Char) :
    closingDistance expected previous before text = closingDistance expected previous before' text := by
  obtain ⟨-, hbrackets⟩ := readersAgree text
  rw [← hbrackets expected previous before before fun _ => rfl, hbrackets _ _ _ _ halike]

/-- Two scans agree if they read the same lexeme first and the texts in front look alike behind its first
character. -/
theorem closingDistance_of_lexeme? {character : Char}
    (hlexeme : lexeme? previous before (character :: rest) = lexeme? previous before' (character :: rest))
    (halike : LooksAlike (character :: before) (character :: before')) :
    closingDistance expected previous before (character :: rest) =
      closingDistance expected previous before' (character :: rest) := by
  by_cases hcloses : Scan.Closes ⟨expected, previous, before, character :: rest⟩
  · have hcloses' : Scan.Closes ⟨expected, previous, before', character :: rest⟩ := hcloses
    exact (Scan.distance_of_closes hcloses).trans (Scan.distance_of_closes hcloses').symm
  · have hcloses' : ¬ Scan.Closes ⟨expected, previous, before', character :: rest⟩ := hcloses
    have hdistance := Scan.distance_eq_bind hcloses
    have hdistance' := Scan.distance_eq_bind hcloses'
    rw [Scan.distance] at hdistance hdistance'
    rw [hdistance, hdistance', Scan.next, Scan.next]
    simp only [hlexeme]
    cases lexeme? previous before' (character :: rest) with
    | none => rfl
    | some lexeme =>
      simp only [Option.bind_some]
      cases if lexeme = .character then expectedAfter expected character else some expected with
      | none => rfl
      | some outer =>
        obtain ⟨width, hwidth⟩ := Nat.exists_eq_succ_of_ne_zero lexeme.width_pos.ne'
        simp only [Option.map_some, Option.bind_some, Scan.distance, Scan.advance, hwidth,
          List.take_succ_cons, List.reverse_cons, List.append_assoc, List.singleton_append]
        rw [(halike.append _).closingDistance_eq]

/-- A keyword that stops being seen over one more character of white space is at the end of its reach. -/
theorem isAtReach_of_keyword {earlier later keyword : List Char} {blank : Char} {further : Nat}
    (hspaces : (later.reverse ++ blank :: earlier).all isSpace) (hkeyword : keyword ∈ regexKeywords)
    (hbegins : keyword.reverse <+: word)
    (halone : (word.drop keyword.length).head?.any isNamePart = false)
    (hlength : keyword.length + (later.reverse ++ blank :: earlier).length = keywordReach)
    (hcode : opening ('/' :: rest) = .code) (hregex : regexLength false rest = some further) :
    IsAtReach ((earlier ++ word).reverse ++ blank :: (later ++ '/' :: rest)) (earlier ++ word).length := by
  obtain ⟨front, rfl⟩ := hbegins
  obtain ⟨body, flags, after, rfl, -, hbody, -⟩ := exists_of_regexLength hregex
  have hcomment := (opening_eq_code.mp hcode).2.2
  rw [startsComment_append hbody.ne_nil] at hcomment
  rw [List.drop_left' (List.length_reverse ..)] at halone
  refine ⟨front.reverse, keyword, earlier.reverse ++ blank :: later, body, flags ++ after, by simp,
    hkeyword, ?_, ?_, ?_, ?_, ?_, hcomment, hbody⟩
  · rwa [List.getLast?_reverse]
  · simpa [List.all_reverse, and_comm, and_assoc, and_left_comm] using hspaces
  · simp only [List.length_append, List.length_reverse, List.length_cons] at hlength ⊢
    omega
  · simp only [List.length_append, List.length_reverse]
    omega
  · simp only [List.length_append, List.length_reverse, List.length_cons]
    omega

/-- One more space in front of the rest of a scan changes nothing, unless the white space leads from a
keyword that is just in view to a regular expression. -/
theorem closingDistance_space {blank : Char} (hblank : isBlank blank)
    (hreach : ¬ IsAtReach (before.reverse ++ blank :: rest) before.length) :
    closingDistance expected previous (' ' :: blank :: before) rest =
      closingDistance expected previous (blank :: before) rest := by
  -- the white space goes on behind the blank, and back from it to the last character that is none
  obtain ⟨later, rest, rfl, hlater, hrest⟩ := exists_spaces_append rest
  obtain ⟨earlier, word, rfl, hearlier, hword⟩ := exists_spaces_append before
  have hspace := isSpace_of_isBlank hblank
  have hpasses : ∀ before, closingDistance expected previous before (later ++ rest) =
      (closingDistance expected previous (later.reverse ++ before) rest).map (· + later.length) :=
    fun before => (Scan.passes_spaces hlater).distance_eq
  rw [hpasses, hpasses]
  cases rest with
  | nil => rw [closingDistance, closingDistance]
  | cons character rest =>
    have hcharacter : isSpace character = false := hrest character rfl
    have hsplit : later.reverse ++ blank :: (earlier ++ word) =
        (later.reverse ++ blank :: earlier) ++ word := by simp
    have hsplit' : later.reverse ++ ' ' :: blank :: (earlier ++ word) =
        (later.reverse ++ ' ' :: blank :: earlier) ++ word := by simp
    have hall : (later.reverse ++ blank :: earlier).all isSpace := by
      simp [List.all_reverse, hlater, hearlier, hspace]
    have hall' : (later.reverse ++ ' ' :: blank :: earlier).all isSpace := by
      simp [List.all_reverse, hlater, hearlier, hspace, show isSpace ' ' by decide]
    rw [hsplit, hsplit']
    congr 1
    apply closingDistance_of_lexeme? _
      (looksAlike_of_spaces hcharacter hall' hall (by simp) (by simp))
    -- only a slash looks back, and only in front of what could be a regular expression
    by_cases hslash : character = '/'
    · subst hslash
      rw [lexeme?, lexeme?]
      cases hcode : opening ('/' :: rest) with
      | unterminated => rfl
      | piece => rfl
      | code =>
        cases hregex : regexLength false rest with
        | none => simp
        | some further =>
          have hends : endsWithKeyword ((later.reverse ++ ' ' :: blank :: earlier) ++ word) =
              endsWithKeyword ((later.reverse ++ blank :: earlier) ++ word) := by
            have hlength : (later.reverse ++ ' ' :: blank :: earlier).length =
                (later.reverse ++ blank :: earlier).length + 1 := by
              simp only [List.length_append, List.length_cons]
              omega
            apply endsWithKeyword_of_longer hall hall' hlength hword
            intro keyword hkeyword hbegins halone hlength
            exact hreach (isAtReach_of_keyword hall hkeyword hbegins halone hlength hcode hregex)
          simp only [regexAllowed, hends]
    · unfold lexeme?
      simp [hslash]

end

/-! ## One more space in a text -/

/-- A text with one more space behind the character at an index. -/
def widen (text : List Char) (index : Nat) : List Char :=
  text.take (index + 1) ++ ' ' :: text.drop (index + 1)

/-- The scan of the bracket at `start` comes to the character at an index and reads it as code. -/
def ReadsCodeAt (text : List Char) (start index : Nat) : Prop :=
  ∃ trail after, Reaches Trail.next (.start text start) trail ∧ trail.index = index ∧
    trail.scan.next = some (.character, after)

/-- The points of a scan with the places of its open brackets are those of the scan. -/
theorem Trail.exists_passes {trail after : Trail} (hreaches : Reaches Trail.next trail after) :
    ∃ width, trail.scan.Passes width after.scan ∧ after.index = trail.index + width := by
  induction hreaches using Relation.ReflTransGen.head_induction_on with
  | refl => exact ⟨0, .refl, rfl⟩
  | head hstep _ ih =>
    obtain ⟨lexeme, _, _, -, hscan, hindex, -⟩ := Trail.next_cases hstep
    obtain ⟨width, hpasses, hafter⟩ := ih
    exact ⟨lexeme.width + width, .step hscan hpasses, by omega⟩

section

variable {text : List Char} {start stop index : Nat}

theorem widen_append (passed back : List Char) (blank : Char) :
    widen (passed ++ blank :: back) passed.length = passed ++ blank :: ' ' :: back := by
  rw [widen, List.append_cons passed blank back, List.take_left' (by simp), List.drop_left' (by simp),
    List.append_assoc, List.singleton_append]

/-- One more space behind a blank that has been reached: the scan goes on by one character more. -/
theorem Scan.distance_space {expected before rest : List Char} {previous : Option Char} {blank : Char}
    (hblank : isBlank blank) (hreach : ¬ IsAtReach (before.reverse ++ blank :: rest) before.length) :
    distance ⟨expected, previous, before, blank :: ' ' :: rest⟩ =
      (distance ⟨expected, previous, before, blank :: rest⟩).map (· + 1) := by
  have hblanks : [blank].all isSpace ∧ [blank, ' '].all isSpace := by
    simp [isSpace_of_isBlank hblank, show isSpace ' ' by decide]
  have hnarrow : Passes ⟨expected, previous, before, blank :: rest⟩ 1
      ⟨expected, previous, blank :: before, rest⟩ := passes_spaces hblanks.1
  have hwide : Passes ⟨expected, previous, before, blank :: ' ' :: rest⟩ 2
      ⟨expected, previous, ' ' :: blank :: before, rest⟩ := passes_spaces hblanks.2
  rw [hnarrow.distance_eq, hwide.distance_eq, distance, distance, closingDistance_space hblank hreach,
    Option.map_map]
  rfl

theorem exists_append_of_getElem? {width : Nat} {character : Char}
    (hat : text[start + width]? = some character) :
    ∃ front more back, text = front ++ (more ++ character :: back) ∧ front.length = start ∧
      more.length = width := by
  obtain ⟨hlt, hget⟩ := List.getElem?_eq_some_iff.mp hat
  refine ⟨text.take start, (text.drop start).take width, text.drop (start + width + 1), ?_, ?_, ?_⟩
  · rw [← hget, ← List.drop_eq_getElem_cons hlt, ← List.drop_drop, List.take_append_drop,
      List.take_append_drop]
  · rw [List.length_take]
    omega
  · rw [List.length_take, List.length_drop]
    omega

/-- One more space behind a blank that a scan comes to: it goes on by one character more. -/
theorem Scan.Passes.distance_widen {scan after : Scan} {more back : List Char} {blank : Char}
    (hpasses : scan.Passes more.length after) (hblank : isBlank blank)
    (hrest : scan.rest = more ++ blank :: back)
    (hreach : ¬ IsAtReach (scan.before.reverse ++ scan.rest) (scan.before.length + more.length)) :
    distance { scan with rest := more ++ blank :: ' ' :: back } = scan.distance.map (· + 1) := by
  have hwide := hpasses.of_standsIn (standsIn_space hblank) hrest rfl
  have hbehind := hpasses.rest_eq
  have hbefore := hpasses.before_eq
  obtain ⟨expected, previous, before, behind⟩ := after
  rw [hrest, List.drop_left] at hbehind
  rw [hrest, List.take_left] at hbefore
  subst hbehind hbefore
  have hspace := @distance_space expected (more.reverse ++ scan.before) back previous blank hblank
    (by simpa [hrest, Nat.add_comm] using hreach)
  rw [hwide.distance_eq, hpasses.distance_eq, hspace, Option.map_map, Option.map_map]
  congr 1
  funext distance
  simp only [Function.comp_apply]
  omega

/-- One more space behind a blank of code moves the closer of a bracket by one index, unless the blank is
on the way from a keyword that is just in view to a regular expression. -/
theorem findMatching_widen (hmatching : findMatching text start = some stop)
    (hblank : text[index]?.any isBlank) (hcode : ReadsCodeAt text start index)
    (hreach : ¬ IsAtReach text index) :
    findMatching (widen text index) start = some (stop + 1) := by
  obtain ⟨trail, _, hreaches, htrail, -⟩ := hcode
  obtain ⟨⟨-, hstop, -, -⟩, opener, rest, hopener, hopens⟩ := Trail.isSound_start hmatching
  obtain ⟨width, hpasses, hindex⟩ := Trail.exists_passes hreaches
  obtain rfl : start + width = index := hindex.symm.trans htrail
  obtain ⟨blank, hat, hspace⟩ := (Option.any_eq_true _ _).mp hblank
  obtain ⟨front, more, back, rfl, rfl, rfl⟩ := exists_append_of_getElem? hat
  have hstart : ∀ behind, Trail.start (front ++ behind) front.length =
      ⟨⟨[], none, front.reverse, behind⟩, front.length, []⟩ := by
    simp [Trail.start]
  rw [hstart] at hpasses hopens hstop
  have hdistance := hpasses.distance_widen hspace rfl (by simpa using hreach)
  -- the wider text begins with the same bracket, whether or not the blank stands right behind it
  have hopens' : ∃ rest', more ++ blank :: ' ' :: back = opener :: rest' := by
    rw [← List.head?_eq_some_iff, ((standsIn_space hspace).append more).head?_eq]
    exact List.head?_eq_some_iff.mpr ⟨rest, hopens⟩
  obtain ⟨rest', hopens'⟩ := hopens'
  have hwiden : widen (front ++ (more ++ blank :: back)) (front.length + more.length) =
      front ++ (more ++ blank :: ' ' :: back) := by
    rw [← List.length_append, ← List.append_assoc, widen_append, List.append_assoc]
  rw [hwiden, Trail.findMatching_eq_distance hopener ((List.drop_left ..).trans hopens'), hstart,
    hdistance]
  obtain ⟨distance, hdistance', rfl⟩ := Option.map_eq_some_iff.mp hstop
  have hone : distance + 1 + front.length = distance + front.length + 1 := by omega
  rw [hdistance']
  exact congrArg some hone

/-- A scan goes over characters that stand for themselves, one after the other. -/
theorem Trail.reaches_stretch {stretch : List Char} (hplain : stretch.all isPlain)
    (expected before rest : List Char) (previous : Option Char) (index : Nat) (opened : List Nat) :
    Reaches Trail.next ⟨⟨expected, previous, before, stretch ++ rest⟩, index, opened⟩
      ⟨⟨expected, stretch.foldl Lexeme.character.last previous, stretch.reverse ++ before, rest⟩,
        index + stretch.length, opened⟩ := by
  induction stretch generalizing previous before index with
  | nil => exact .refl
  | cons character stretch ih =>
    rw [List.all_cons, Bool.and_eq_true] at hplain
    obtain ⟨hopener, hcloser, -⟩ := isPlain_iff.mp hplain.1
    have hstep : Trail.next ⟨⟨expected, previous, before, character :: (stretch ++ rest)⟩, index, opened⟩ =
        some ⟨⟨expected, Lexeme.character.last previous character, character :: before,
          stretch ++ rest⟩, index + 1, opened⟩ := by
      simp [Trail.next, Scan.next_of_isPlain hplain.1, openedAfter, hopener, hcloser, Lexeme.width,
        Lexeme.last]
    have hmore := ih hplain.2 (character :: before) (Lexeme.character.last previous character)
      (index + 1)
    rw [Nat.add_right_comm, Nat.add_assoc] at hmore
    rw [List.reverse_cons, List.append_assoc]
    exact hmore.head hstep

/-- The scan of a bracket goes over the stretch behind it. -/
theorem Trail.reaches_opener_stretch {opener closer : Char} {stretch : List Char}
    (hopener : closerOf opener = some closer) (hplain : stretch.all isPlain) (rest : List Char) :
    Reaches Trail.next (.start (opener :: (stretch ++ rest)) 0)
      ⟨⟨[closer], stretch.foldl Lexeme.character.last (some opener), stretch.reverse ++ [opener], rest⟩,
        1 + stretch.length, [0]⟩ := by
  have hnext : (Trail.start (opener :: (stretch ++ rest)) 0).next =
      some ⟨⟨[closer], some opener, [opener], stretch ++ rest⟩, 1, [0]⟩ := next_of_opener hopener rfl
  exact (reaches_stretch hplain [closer] [opener] rest (some opener) 1 [0]).head hnext

theorem IsAtReach.slash_mem (hreach : IsAtReach text index) : '/' ∈ text.drop keywordReach := by
  obtain ⟨front, keyword, spaces, body, after, rfl, -, -, -, hlength, -⟩ := hreach
  rw [← List.append_assoc keyword, ← List.append_assoc,
    List.drop_append_of_le_length (by simp only [List.length_append]; omega)]
  exact List.mem_append_right _ List.mem_cons_self

end

/-- A block with the test of a regular expression that holds a brace, some spaces behind the keyword. -/
def testingBlock (spaces : Nat) : List Char :=
  '\x7b' :: (" return".toList ++ (List.replicate spaces ' ' ++ "/\x7d/.test(s); \x7d".toList))

/-- The first space behind the keyword is read as code. -/
theorem readsCodeAt_testingBlock (spaces : Nat) : ReadsCodeAt (testingBlock (spaces + 1)) 0 8 := by
  have hplain : " return".toList.all isPlain := by decide
  exact ⟨_, _, Trail.reaches_opener_stretch rfl hplain _, rfl, Scan.next_of_isPlain (by decide)⟩

set_option maxRecDepth 8000 in
/-- White space between a keyword and a regular expression may grow as long as the keyword is in view. -/
theorem findMatching_widen_testingBlock :
    findMatching (testingBlock 1) 0 = some 22 ∧ (testingBlock 1)[8]?.any isBlank ∧
      ReadsCodeAt (testingBlock 1) 0 8 ∧ ¬ IsAtReach (testingBlock 1) 8 ∧
      findMatching (widen (testingBlock 1) 8) 0 = some 23 := by
  have htext : testingBlock 1 = "\x7b return /\x7d/.test(s); \x7d".toList := by decide
  have hmatching : findMatching (testingBlock 1) 0 = some 22 := by
    rw [htext]
    cbv
  have hblank : (testingBlock 1)[8]?.any isBlank := by decide
  have hreach : ¬ IsAtReach (testingBlock 1) 8 := fun hreach => absurd hreach.slash_mem (by decide)
  exact ⟨hmatching, hblank, readsCodeAt_testingBlock 0, hreach,
    findMatching_widen hmatching hblank (readsCodeAt_testingBlock 0) hreach⟩

/-- Where the keyword is out of view, the slash divides, and the brace behind it closes the block. -/
theorem findMatching_testingBlock_of_divides {spaces : Nat}
    (hdivides : regexAllowed (some 'n') (List.replicate spaces ' ' ++ "nruter \x7b".toList) = false) :
    findMatching (testingBlock spaces) 0 = some (spaces + 9) := by
  have hopener : closerOf '\x7b' = some '}' := rfl
  have hplain : (" return".toList ++ List.replicate spaces ' ').all isPlain := by
    rw [List.all_append, List.all_replicate]
    split <;> decide
  have hlast : (" return".toList ++ List.replicate spaces ' ').foldl Lexeme.character.last
      (some '\x7b') = some 'n' := by
    rw [List.foldl_append]
    clear hdivides hplain
    induction spaces with
    | zero => rfl
    | succ spaces ih => exact ih
  have hbefore : (" return".toList ++ List.replicate spaces ' ').reverse ++ ['\x7b'] =
      List.replicate spaces ' ' ++ "nruter \x7b".toList := by
    rw [List.reverse_append, List.reverse_replicate, List.append_assoc]
    rfl
  have hreaches := Trail.reaches_opener_stretch hopener hplain "/\x7d/.test(s); \x7d".toList
  rw [hlast, hbefore] at hreaches
  generalize List.replicate spaces ' ' ++ "nruter \x7b".toList = before at hdivides hreaches
  obtain ⟨width, hpasses, hindex⟩ := Trail.exists_passes hreaches
  have hslash := Scan.next_of_dividing hdivides ['}'] "\x7d/.test(s); \x7d".toList (by decide)
  have hdistance := (hpasses.trans (.of_next hslash)).distance_eq
  have hcloses : Scan.Closes ⟨['}'], some '/', '/' :: before, "\x7d/.test(s); \x7d".toList⟩ :=
    ⟨'}', _, rfl, rfl, rfl⟩
  rw [Scan.distance_of_closes hcloses] at hdistance
  have hwidth : 1 + (" return".toList ++ List.replicate spaces ' ').length = 0 + width := hindex
  have hlength : " return".toList.length = 7 := rfl
  rw [List.length_append, List.length_replicate, hlength] at hwidth
  have hstop : 0 + (width + 1) + 0 = spaces + 9 := by omega
  rw [testingBlock, ← List.append_assoc, Trail.findMatching_eq_distance rfl rfl, hdistance]
  exact congrArg some hstop

set_option maxRecDepth 8000 in
/-- The keyword is just in view of the slash. One space more, and it is not. -/
theorem findMatching_not_widen :
    findMatching (testingBlock 10) 0 = some 31 ∧ (testingBlock 10)[8]?.any isBlank ∧
      ReadsCodeAt (testingBlock 10) 0 8 ∧ widen (testingBlock 10) 8 = testingBlock 11 ∧
      findMatching (testingBlock 11) 0 = some 20 := by
  have htext : testingBlock 10 = "\x7b return          /\x7d/.test(s); \x7d".toList := by decide
  have hmatching : findMatching (testingBlock 10) 0 = some 31 := by
    rw [htext]
    cbv
  exact ⟨hmatching, by decide, readsCodeAt_testingBlock 9, by decide,
    findMatching_testingBlock_of_divides (by decide)⟩

end PageGraft.Script
