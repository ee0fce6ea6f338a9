import PageGraft.Proofs.Matching

/-!
# Brackets match whatever stands around them

The bracket reader is given the text from a bracket on, and so sees neither what stands in front of it nor,
in a substitution of a template literal, the literal around it. `findMatchingInPlace` reads the same text
in its place: a slash is judged by all of the text in front of it. Both find the same closers
(`findMatchingInPlace_eq`), since no keyword in front of a slash reaches over an opening bracket. What
stands behind the closer does not matter either: another text can stand in for it in a reading, if it begins
with the same character and lets no more regular expressions end (`Reads.standsIn`).
-/

namespace PageGraft.Script

open PageGraft.Page PageGraft.Text

/-! ## Reading brackets in their place -/

mutual

/-- Reads a template literal after its opening backtick, which `before` ends with. -/
def templateLengthInPlace (before : List Char) : List Char → Option Nat
  | [] => none
  | ['\\'] => none
  | '\\' :: escaped :: rest =>
    (templateLengthInPlace (escaped :: '\\' :: before) rest).map (· + 2)
  | '\x60' :: _ => some 1
  | '$' :: '\x7b' :: rest =>
    match closingDistanceInPlace [] none ('$' :: before) ('\x7b' :: rest) with
    | none => none
    | some distance =>
      (templateLengthInPlace ((rest.take distance).reverse ++ '\x7b' :: '$' :: before)
        (rest.drop distance)).map (· + (distance + 2))
  | character :: rest => (templateLengthInPlace (character :: before) rest).map (· + 1)
termination_by text => (text.length, 0)
decreasing_by all_goals simp only [List.length_drop, List.length_cons]; omega

/-- The lexeme that a text begins with, template literals read in their place. -/
def lexemeInPlace? (previous : Option Char) (before : List Char) : List Char → Option Lexeme
  | '\x60' :: rest => (templateLengthInPlace ('\x60' :: before) rest).map .literal
  | text => lexeme? previous before text
termination_by text => (text.length, 1)
decreasing_by simp only [List.length_cons]; omega

/-- The number of characters before the bracket that closes the outermost one still open. -/
def closingDistanceInPlace (expected : List Char) (previous : Option Char) (before : List Char) :
    List Char → Option Nat
  | [] => none
  | character :: rest =>
    if isCloser character && expected == [character] then some 0
    else
      match lexemeInPlace? previous before (character :: rest) with
      | none => none
      | some lexeme =>
        match if lexeme = .character then expectedAfter expected character else some expected with
        | none => none
        | some outer =>
          (closingDistanceInPlace outer (lexeme.last previous character)
            (((character :: rest).take lexeme.width).reverse ++ before)
            ((character :: rest).drop lexeme.width)).map (· + lexeme.width)
termination_by text => (text.length, 2)
decreasing_by
  · simp only [List.length_cons]; omega
  · have := lexeme.width_pos
    simp only [List.length_drop, List.length_cons]; omega

end

/-- The number of characters from an opening bracket to its closing one, with the text in front of it,
nearest character first. -/
def groupLengthInPlace (before text : List Char) : Option Nat :=
  match text with
  | character :: _ =>
    if isOpener character then closingDistanceInPlace [] none before text else none
  | [] => none

/-- The index of the bracket that closes the one at an index, read with all of the text in view. -/
def findMatchingInPlace (text : List Char) (openIndex : Nat) : Option Nat :=
  (groupLengthInPlace (text.take openIndex).reverse (text.drop openIndex)).map (· + openIndex)

/-! ## What stands in front -/

/-- Both readers find the same end of a template literal, whatever stands in front of it. -/
def TemplatesAgree (text : List Char) : Prop :=
  ∀ before, templateLengthInPlace before text = templateLength text

/-- Both readers find the same closer where the texts in front of the brackets look alike. -/
def BracketsAgree (text : List Char) : Prop :=
  ∀ expected previous before before', LooksAlike before before' →
    closingDistanceInPlace expected previous before text =
      closingDistance expected previous before' text

variable {text rest : List Char}

/-- What is read next depends on the text in front only as far as it can be seen. -/
theorem LooksAlike.lexeme?_eq {before before' : List Char} (halike : LooksAlike before before')
    (previous : Option Char) (text : List Char) :
    lexeme? previous before text = lexeme? previous before' text := by
  unfold lexeme?
  simp only [halike.regexAllowed_eq]

theorem lexemeInPlace?_eq {previous : Option Char} {before before' : List Char} {character : Char}
    (htemplates : TemplatesAgree rest) (halike : LooksAlike before before') :
    lexemeInPlace? previous before (character :: rest) =
      lexeme? previous before' (character :: rest) := by
  by_cases hbacktick : character = '\x60'
  · subst hbacktick
    rw [lexemeInPlace?, htemplates]
    cases hlength : templateLength rest with
    | none => simp [lexeme?, opening_backtick, hlength, Opening.ofLength]
    | some further => rw [lexeme?_template hlength]; rfl
  · rw [lexemeInPlace?]
    · exact halike.lexeme?_eq _ _
    · intro tail heq
      exact hbacktick (List.cons.inj heq).1

/-- Behind an opening bracket, the texts in front of it look alike. -/
theorem closingDistanceInPlace_opener {opener : Char} (hopener : isOpener opener)
    (hbrackets : BracketsAgree rest) (before before' : List Char) :
    closingDistanceInPlace [] none before (opener :: rest) =
      closingDistance [] none before' (opener :: rest) := by
  obtain ⟨closer, hcloser⟩ := Option.isSome_iff_exists.mp hopener
  have hlexeme : lexemeInPlace? none before (opener :: rest) = some .character := by
    rw [lexemeInPlace?]
    · exact lexeme?_of_isOpener hopener
    · intro tail heq
      obtain rfl := (List.cons.inj heq).1
      exact absurd hopener (by decide)
  have hexpected : expectedAfter [] opener = some [closer] := by
    simp [expectedAfter, hcloser]
  have hopening : Scan.Passes ⟨[], none, before', opener :: rest⟩ 1
      ⟨[closer], some opener, opener :: before', rest⟩ := Scan.passes_opener hcloser
  have hrun := hopening.distance_eq
  rw [Scan.distance, Scan.distance] at hrun
  rw [hrun, closingDistanceInPlace]
  rw [if_neg (by simp), hlexeme]
  simp only [if_true, hexpected, Lexeme.width, Lexeme.last, isSpace_of_isOpener hopener]
  rw [← hbrackets _ _ _ _ (looksAlike_opener hopener before before')]
  rfl

theorem bracketsAgree_of_shorter
    (hshorter : ∀ text', text'.length < text.length → TemplatesAgree text' ∧ BracketsAgree text') :
    BracketsAgree text := by
  intro expected previous before before' halike
  cases text with
  | nil => rw [closingDistanceInPlace, closingDistance]
  | cons character rest =>
    by_cases hcloses : Scan.Closes ⟨expected, previous, before', character :: rest⟩
    · have hdistance := Scan.distance_of_closes hcloses
      rw [Scan.distance] at hdistance
      rw [hdistance, closingDistanceInPlace]
      obtain ⟨closer, after, hcloser, hexpected, htext⟩ := hcloses
      obtain ⟨rfl, rfl⟩ := List.cons.inj htext
      have hexpected : expected = [character] := hexpected
      simp [hcloser, hexpected]
    · have hdistance := Scan.distance_eq_bind hcloses
      rw [Scan.distance] at hdistance
      obtain ⟨htemplates, -⟩ := hshorter rest (Nat.lt_succ_self _)
      have hopen : ¬ (isCloser character && expected == [character]) = true := by
        intro hboth
        rw [Bool.and_eq_true, beq_iff_eq] at hboth
        exact hcloses ⟨character, rest, hboth.1, hboth.2, rfl⟩
      rw [hdistance, closingDistanceInPlace, if_neg hopen, lexemeInPlace?_eq htemplates halike,
        Scan.next]
      cases hlexeme : lexeme? previous before' (character :: rest) with
      | none => rfl
      | some lexeme =>
        simp only [Option.bind_some]
        cases hexpected : if lexeme = .character then expectedAfter expected character
            else some expected with
        | none => rfl
        | some outer =>
          simp only [Option.map_some, Option.bind_some, Scan.distance, Scan.advance]
          have hlength : ((character :: rest).drop lexeme.width).length <
              (character :: rest).length := by
            have hpositive := lexeme.width_pos
            rw [List.length_drop, List.length_cons]
            omega
          obtain ⟨-, hbrackets⟩ := hshorter _ hlength
          rw [hbrackets _ _ _ _ (halike.append _)]

theorem templatesAgree_of_shorter
    (hshorter : ∀ text', text'.length < text.length → TemplatesAgree text' ∧ BracketsAgree text') :
    TemplatesAgree text := by
  intro before
  rw [templateLengthInPlace.eq_def, templateLength.eq_def]
  split
  case h_1 => rfl
  case h_2 => rfl
  case h_3 escaped rest =>
    obtain ⟨htemplates, -⟩ := hshorter rest (by simp)
    simp only [htemplates _]
  case h_4 rest => rfl
  case h_5 rest =>
    obtain ⟨-, hbrackets⟩ := hshorter rest (by simp)
    have hopener : isOpener '\x7b' := by decide
    have hbrace := closingDistanceInPlace_opener hopener hbrackets ('$' :: before) []
    simp only [hbrace]
    cases closingDistance [] none [] ('\x7b' :: rest) with
    | none => rfl
    | some distance =>
      obtain ⟨htemplates, -⟩ := hshorter (rest.drop distance) (by simp; omega)
      simp only [htemplates _]
  case h_6 character rest hlast hescape hclose hsubstitution =>
    obtain ⟨htemplates, -⟩ := hshorter rest (Nat.lt_succ_self _)
    simp only [htemplates _]

theorem readersAgree (text : List Char) : TemplatesAgree text ∧ BracketsAgree text := by
  induction hlength : text.length using Nat.strong_induction_on generalizing text with
  | _ length ih =>
    have hshorter : ∀ text', text'.length < text.length →
        TemplatesAgree text' ∧ BracketsAgree text' := by
      intro text' hless
      exact ih _ (hlength ▸ hless) text' rfl
    exact ⟨templatesAgree_of_shorter hshorter, bracketsAgree_of_shorter hshorter⟩

/-- The bracket that a text begins with is closed alike, whatever stands in front of it. -/
theorem closingDistance_opener {opener : Char} (hopener : isOpener opener)
    (before before' rest : List Char) :
    closingDistance [] none before (opener :: rest) =
      closingDistance [] none before' (opener :: rest) := by
  obtain ⟨-, hbrackets⟩ := readersAgree rest
  rw [← closingDistanceInPlace_opener hopener hbrackets [] before,
    closingDistanceInPlace_opener hopener hbrackets [] before']

theorem groupLengthInPlace_eq (before text : List Char) :
    groupLengthInPlace before text = groupLength text := by
  cases text with
  | nil => rfl
  | cons opener rest =>
    unfold groupLengthInPlace groupLength
    by_cases hopener : isOpener opener
    · obtain ⟨-, hbrackets⟩ := readersAgree rest
      simp only [hopener, if_true]
      exact closingDistanceInPlace_opener hopener hbrackets before []
    · simp only [hopener, Bool.false_eq_true, if_false]

theorem findMatchingInPlace_eq (text : List Char) (start : Nat) :
    findMatchingInPlace text start = findMatching text start := by
  rw [findMatchingInPlace, findMatching, groupLengthInPlace_eq]

/-! ## What stands behind -/

/-- A text that stands in for another one behind what is read: it begins with the same character, and no
regular expression ends in it that does not end in the other one. -/
structure StandsIn (rest' rest : List Char) : Prop where
  head?_eq : rest'.head? = rest.head?
  regexLength_eq_none : ∀ front inClass, regexLength inClass (front ++ rest) = none →
    regexLength inClass (front ++ rest') = none

theorem StandsIn.append {rest' : List Char} (hstandsIn : StandsIn rest' rest) (more : List Char) :
    StandsIn (more ++ rest') (more ++ rest) where
  head?_eq := by rw [List.head?_append, List.head?_append, hstandsIn.head?_eq]
  regexLength_eq_none := by
    intro front inClass
    rw [← List.append_assoc, ← List.append_assoc]
    exact hstandsIn.regexLength_eq_none (front ++ more) inClass

theorem StandsIn.cons {rest' : List Char} {character : Char} (hstandsIn : StandsIn rest' rest) :
    StandsIn (character :: rest') (character :: rest) :=
  hstandsIn.append [character]

/-- A text can end earlier, but not before its first character. -/
theorem standsIn_of_prefix {rest' : List Char} (hbegins : rest' <+: rest)
    (hhead : rest'.head? = rest.head?) : StandsIn rest' rest where
  head?_eq := hhead
  regexLength_eq_none := by
    intro front inClass
    rw [regexLength_eq_none, regexLength_eq_none]
    rintro hnone ⟨body, after, htext, hbody⟩
    obtain ⟨tail, rfl⟩ := hbegins
    refine hnone ⟨body, after ++ tail, ?_, hbody⟩
    rw [← List.append_assoc, htext, List.append_assoc]

theorem startsComment_of_head? {rest' : List Char} (hhead : rest'.head? = rest.head?)
    (character : Char) :
    startsComment (character :: rest') = startsComment (character :: rest) := by
  cases rest' with
  | nil =>
    have hnil : rest = [] := List.head?_eq_none_iff.mp hhead.symm
    rw [hnil]
  | cons next after' =>
    obtain ⟨after, hafter⟩ := List.head?_eq_some_iff.mp hhead.symm
    rw [hafter, startsComment_cons_cons, startsComment_cons_cons]

/-- A piece is read in the same way where another text stands in for the one behind it. -/
theorem Reads.standsIn {part : Part} {previous last : Option Char}
    {before piece rest rest' : List Char} (hreads : Reads part previous before piece rest last)
    (hstandsIn : StandsIn rest' rest) : Reads part previous before piece rest' last := by
  induction hreads generalizing rest' with
  | string hquote hbody => exact .string hquote hbody
  | templateLiteral hbody ih => exact .templateLiteral (ih hstandsIn)
  | lineComment hline =>
    apply Reads.lineComment
    refine ⟨hline.1, ?_⟩
    rw [hstandsIn.head?_eq]
    exact hline.2
  | blockComment hbody => exact .blockComment hbody
  | regex hallowed hcomment hbody hflags =>
    apply Reads.regex hallowed hcomment hbody
    refine ⟨hflags.1, ?_⟩
    rw [hstandsIn.head?_eq]
    exact hflags.2
  | group hopener hinside ih => exact .group hopener (ih hstandsIn.cons)
  | code hcode =>
    apply Reads.code
    refine ⟨hcode.opens, hcode.closes, hcode.quotes, hcode.backtick, ?_, ?_⟩
    · rw [startsComment_of_head? hstandsIn.head?_eq]
      exact hcode.comments
    · intro hslash hallowed
      have hnone := regexLength_eq_none.mpr (hcode.regex hslash hallowed)
      exact regexLength_eq_none.mp (hstandsIn.regexLength_eq_none [] false hnone)
  | nil => exact .nil
  | cons hitem hmore ihitem ihmore =>
    exact .cons (ihitem (hstandsIn.append _)) (ihmore hstandsIn)
  | close => exact .close
  | escape hbody ih => exact .escape (ih hstandsIn)
  | substitution hinside hbody ihinside ihbody =>
    exact .substitution (ihinside (hstandsIn.append _).cons) (ihbody hstandsIn)
  | plain hescape hclose hsubstitution hbody ih =>
    apply Reads.plain hescape hclose _ (ih hstandsIn)
    intro hdollar
    rw [(hstandsIn.append _).head?_eq]
    exact hsubstitution hdollar

/-- A group is one by itself. -/
theorem IsGroup.slice {text : List Char} {start stop : Nat} (hgroup : IsGroup text start stop) :
    IsGroup ((text.take (stop + 1)).drop start) 0 (stop - start) := by
  obtain ⟨front, opener, closer, inside, after, last, rfl, hopener, hinside, rfl, rfl⟩ := hgroup
  have hslice : ((front ++ opener :: (inside ++ closer :: after)).take
      (front.length + 1 + inside.length + 1)).drop front.length =
      opener :: (inside ++ [closer]) := by
    have hsplit : front ++ opener :: (inside ++ closer :: after) =
        (front ++ opener :: (inside ++ [closer])) ++ after := by simp
    have hlength : front.length + 1 + inside.length + 1 =
        (front ++ opener :: (inside ++ [closer])).length := by
      simp only [List.length_append, List.length_cons, List.length_nil]
      omega
    rw [hsplit, hlength, List.take_left, List.drop_left]
  rw [hslice]
  have hstandsIn : StandsIn [closer] (closer :: after) := standsIn_of_prefix ⟨after, rfl⟩ rfl
  have hopens := isOpener_of_closerOf hopener
  refine ⟨[], opener, closer, inside, [], last, rfl, hopener, ?_, rfl, ?_⟩
  · exact (hinside.standsIn hstandsIn).congr (looksAlike_opener hopens _ _)
  · simp only [List.length_nil]
    omega

/-- The closer of a bracket does not depend on what stands around the two: the text in front of the
bracket only shifts the index, although slashes behind it are judged with that text in view, and what
stands behind the closer can go. -/
theorem findMatching_independent :
    (∀ text start, findMatchingInPlace text start = findMatching text start) ∧
      (∀ front text, findMatchingInPlace (front ++ text) front.length =
        (findMatchingInPlace text 0).map (· + front.length)) ∧
      ∀ text start stop, findMatchingInPlace text start = some stop →
        findMatchingInPlace ((text.take (stop + 1)).drop start) 0 = some (stop - start) := by
  refine ⟨findMatchingInPlace_eq, ?_, ?_⟩
  · intro front text
    rw [findMatchingInPlace_eq, findMatchingInPlace_eq, findMatching, findMatching, List.drop_left,
      List.drop_zero, Option.map_map]
    rfl
  · intro text start stop hmatching
    rw [findMatchingInPlace_eq] at hmatching ⊢
    exact findMatching_of_isGroup (isGroup_of_findMatching hmatching).slice

set_option maxRecDepth 8000 in
/-- A regular expression that holds a parenthesis, with code around the group. -/
theorem findMatching_independent_regex :
    findMatchingInPlace "return (/)/.y) + [".toList 7 = some 13 ∧
      findMatchingInPlace "(/)/.y)".toList 0 = some 6 := by
  obtain ⟨hsame, -, hslice⟩ := findMatching_independent
  have hmatching : findMatchingInPlace "return (/)/.y) + [".toList 7 = some 13 := by
    rw [hsame]
    cbv
  have hgroup : ("return (/)/.y) + [".toList.take 14).drop 7 = "(/)/.y)".toList := by decide
  have hinside := hslice _ _ _ hmatching
  rw [hgroup] at hinside
  exact ⟨hmatching, hinside⟩

end PageGraft.Script
