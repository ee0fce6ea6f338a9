import Mathlib.Computability.StateTransition
import PageGraft.Proofs.Context

/-!
# The readers turn by turn

The readers of literals and brackets are loops over the indices of one text, and they call each other. `turn`
is one turn of such a loop, and `step` runs turns with a stack of the calls that have not been answered. An
escape goes two indices on, so that an index can lie behind the end of the text.

`Answers` says that a run comes to an answer. The answers are those of the readers that go through the
characters of a list (`answers_string`, `answers_regex`, `answers_template`, `answers_brackets`). Template
literals and brackets call each other with less and less text behind the index, and this is the measure of
both.
-/

namespace PageGraft.Script

open PageGraft.Text StateTransition

/-! ## Turns -/

/-- A reader with what it knows besides its index. -/
inductive Reader where
  | string (quote : Char)
  | regex (inClass : Bool)
  | flags
  | template
  | brackets (expected : List Char) (previous : Option Char)
  | topLevel (stops : Char → Bool)
  | statement

/-- What a reader does: it goes on at an index, answers, or calls another reader and resumes with what this
one answers. -/
inductive Action where
  | goOn (reader : Reader) (index : Nat)
  | answer (result : Option Nat)
  | call (reader : Reader) (index : Nat) (resume : Option Nat → Action)

variable {text : List Char} {index : Nat}

/-- Passes over a string, a template literal or a comment, and resumes with its end. If none begins at the
index, there is code. -/
def skip (text : List Char) (index : Nat) (resume : Option Nat → Action) (code : Action) : Action :=
  match text.drop index with
  | '\'' :: _ => .call (.string '\'') (index + 1) resume
  | '"' :: _ => .call (.string '"') (index + 1) resume
  | '\x60' :: _ => .call .template (index + 1) resume
  | '/' :: '/' :: rest => resume (some (index + 2 + lineLength rest))
  | '/' :: '*' :: rest => resume ((blockCommentLength rest).map (· + (index + 2)))
  | _ => code

/-- What the bracket reader does at a character of code. -/
def takeCode (expected : List Char) (previous : Option Char) (character : Char) (index : Nat) : Action :=
  let last := if isSpace character then previous else some character
  match closerOf character with
  | some closer => .goOn (.brackets (closer :: expected) last) (index + 1)
  | none =>
    if isCloser character then
      match expected with
      | [] => .answer none
      | closer :: outer =>
        if closer ≠ character then .answer none
        else if outer.isEmpty then .answer (some index)
        else .goOn (.brackets outer last) (index + 1)
    else .goOn (.brackets expected last) (index + 1)

/-- Passes over a literal, a comment, a group or a single character, and goes on behind it. Where a literal
does not end or a bracket is not closed, the reader is stuck. -/
def passChunk (text : List Char) (index : Nat) (stuck : Action) (next : Nat → Action) : Action :=
  skip text index (fun found => found.elim stuck next) <|
    if (text[index]?).any isOpener then
      .call (.brackets [] none) index fun found => found.elim stuck fun close => next (close + 1)
    else next (index + 1)

/-- One turn of a reader at its index. -/
def turn (text : List Char) (reader : Reader) (index : Nat) : Action :=
  match reader, text[index]? with
  | .flags, some character => if isNamePart character then .goOn .flags (index + 1) else .answer (some index)
  | .flags, none => .answer (some index)
  | .statement, none => .answer (some text.length)
  | _, none => .answer none
  | .string quote, some character =>
    if character = '\\' then .goOn (.string quote) (index + 2)
    else if character = quote then .answer (some (index + 1))
    else if character = '\n' then .answer none
    else .goOn (.string quote) (index + 1)
  | .regex inClass, some character =>
    if character = '\\' then .goOn (.regex inClass) (index + 2)
    else if character = '\n' then .answer none
    else if inClass then .goOn (.regex (character ≠ ']')) (index + 1)
    else if character = '/' then .goOn .flags (index + 1)
    else .goOn (.regex (character = '[')) (index + 1)
  | .template, some character =>
    if character = '\\' then .goOn .template (index + 2)
    else if character = '\x60' then .answer (some (index + 1))
    else if character = '$' ∧ text[index + 1]? = some '\x7b' then
      .call (.brackets [] none) (index + 1) fun found =>
        found.elim (.answer none) fun close => .goOn .template (close + 1)
    else .goOn .template (index + 1)
  | .brackets expected previous, some character =>
    let last := if isQuote character || character == '\x60' then some character else previous
    skip text index (fun found => found.elim (.answer none) fun stop => .goOn (.brackets expected last) stop) <|
      if character = '/' ∧ regexAllowed previous (text.take index).reverse then
        .call (.regex false) (index + 1) fun found =>
          found.elim (takeCode expected previous character index) fun stop =>
            .goOn (.brackets expected (some '/')) stop
      else takeCode expected previous character index
  | .topLevel stops, some character =>
    if stops character then .answer (some index)
    else passChunk text index (.answer none) fun next => .goOn (.topLevel stops) next
  | .statement, some character =>
    if character = ';' ∨ character = '\n' ∨ startsComment (text.drop index) then .answer (some index)
    else
      passChunk text index (.answer (some (index + lineLength (text.drop index)))) fun next =>
        .goOn .statement next

/-- One step of a run. The stack holds what is resumed with the answers that are still to come. -/
def step (text : List Char) :
    Action × List (Option Nat → Action) → Option (Action × List (Option Nat → Action))
  | (.goOn reader index, stack) => some (turn text reader index, stack)
  | (.call reader index resume, stack) => some (.goOn reader index, resume :: stack)
  | (.answer result, resume :: stack) => some (resume result, stack)
  | (.answer _, []) => none

/-! ## Answers -/

/-- A run comes to an answer, whatever calls are still to be answered then. -/
def Answers (text : List Char) (action : Action) (result : Option Nat) : Prop :=
  ∀ stack, Reaches (step text) (action, stack) (.answer result, stack)

variable {reader : Reader} {found result : Option Nat} {resume : Option Nat → Action} {character : Char}
  {rest : List Char}

theorem answers_answer (text : List Char) (result : Option Nat) : Answers text (.answer result) result :=
  fun _ => .refl

theorem answers_goOn (hturn : Answers text (turn text reader index) result) :
    Answers text (.goOn reader index) result :=
  fun stack => (hturn stack).head rfl

theorem answers_call (hcall : Answers text (.goOn reader index) found)
    (hresume : Answers text (resume found) result) : Answers text (.call reader index resume) result := by
  intro stack
  have hreturn : Reaches (step text) (.answer found, resume :: stack) (.answer result, stack) :=
    (hresume stack).head rfl
  exact ((hcall (resume :: stack)).trans hreturn).head rfl

/-! ## Indices -/

theorem getElem?_of_drop_nil (hdrop : text.drop index = []) : text[index]? = none := by
  rw [← List.head?_drop, hdrop, List.head?_nil]

theorem getElem?_of_drop_cons (hdrop : text.drop index = character :: rest) :
    text[index]? = some character := by
  rw [← List.head?_drop, hdrop, List.head?_cons]

theorem drop_add_of_drop_cons (hdrop : text.drop index = character :: rest) (further : Nat) :
    text.drop (index + (further + 1)) = rest.drop further := by
  rw [← List.drop_drop, hdrop, List.drop_succ_cons]

/-- What holds at an index if it holds at all later ones, as long as there is text, holds everywhere. -/
theorem left_induction (text : List Char) {P : Nat → Prop}
    (hstep : ∀ index, (text.drop index ≠ [] → ∀ next, index < next → P next) → P index) (index : Nat) :
    P index := by
  induction hleft : text.length - index using Nat.strong_induction_on generalizing index with
  | _ left ih =>
    refine hstep index fun hdrop next hnext => ih _ ?_ next rfl
    rw [ne_eq, List.drop_eq_nil_iff] at hdrop
    omega

/-- What is found further on is found so much further on from the index. -/
theorem map_add_map_add (found : Option Nat) (further index : Nat) :
    (found.map (· + further)).map (· + index) = found.map (· + (index + further)) := by
  rw [Option.map_map]
  refine congrArg (found.map ·) (funext fun length => ?_)
  show length + further + index = length + (index + further)
  omega

/-! ## Strings -/

theorem stringLength_escape (quote : Char) (rest : List Char) :
    stringLength quote ('\\' :: rest) = (stringLength quote (rest.drop 1)).map (· + 2) := by
  cases rest <;> rfl

theorem answers_string (text : List Char) (quote : Char) (index : Nat) :
    Answers text (.goOn (.string quote) index) ((stringLength quote (text.drop index)).map (· + index)) := by
  induction index using left_induction text with
  | hstep index hlater =>
    apply answers_goOn
    cases hdrop : text.drop index with
    | nil =>
      unfold turn
      rw [getElem?_of_drop_nil hdrop]
      exact answers_answer _ _
    | cons character rest =>
      have hgoOn : ∀ further, Answers text (.goOn (.string quote) (index + (further + 1)))
          ((stringLength quote (rest.drop further)).map (· + (index + (further + 1)))) := by
        intro further
        rw [← drop_add_of_drop_cons hdrop]
        exact hlater (by simp [hdrop]) _ (by omega)
      unfold turn
      rw [getElem?_of_drop_cons hdrop]
      dsimp only
      by_cases hescape : character = '\\'
      · rw [if_pos hescape, hescape, stringLength_escape, map_add_map_add]
        exact hgoOn 1
      · rw [if_neg hescape, stringLength_cons hescape]
        split
        · rw [Option.map_some, Nat.add_comm]
          exact answers_answer _ _
        · split
          · exact answers_answer _ _
          · rw [map_add_map_add]
            exact hgoOn 0

/-! ## Regular expressions -/

theorem answers_flags (text : List Char) (index : Nat) :
    Answers text (.goOn .flags index) (some (index + ((text.drop index).takeWhile isNamePart).length)) := by
  induction index using left_induction text with
  | hstep index hlater =>
    apply answers_goOn
    cases hdrop : text.drop index with
    | nil =>
      unfold turn
      rw [getElem?_of_drop_nil hdrop]
      exact answers_answer _ _
    | cons character rest =>
      unfold turn
      rw [getElem?_of_drop_cons hdrop, List.takeWhile_cons]
      dsimp only
      split
      · have hgoOn := hlater (by simp [hdrop]) (index + 1) (Nat.lt_succ_self index)
        rw [drop_add_of_drop_cons hdrop 0, List.drop_zero] at hgoOn
        have hstop : index + (character :: rest.takeWhile isNamePart).length =
            index + 1 + (rest.takeWhile isNamePart).length := by
          rw [List.length_cons]
          omega
        rw [hstop]
        exact hgoOn
      · exact answers_answer _ _

theorem regexLength_escape (inClass : Bool) (rest : List Char) :
    regexLength inClass ('\\' :: rest) = (regexLength inClass (rest.drop 1)).map (· + 2) := by
  cases rest <;> rfl

theorem answers_regex (text : List Char) (inClass : Bool) (index : Nat) :
    Answers text (.goOn (.regex inClass) index) ((regexLength inClass (text.drop index)).map (· + index)) := by
  induction index using left_induction text generalizing inClass with
  | hstep index hlater =>
    apply answers_goOn
    cases hdrop : text.drop index with
    | nil =>
      unfold turn
      rw [getElem?_of_drop_nil hdrop]
      exact answers_answer _ _
    | cons character rest =>
      have hgoOn : ∀ further inClass, Answers text (.goOn (.regex inClass) (index + (further + 1)))
          ((regexLength inClass (rest.drop further)).map (· + (index + (further + 1)))) := by
        intro further inClass
        rw [← drop_add_of_drop_cons hdrop]
        exact hlater (by simp [hdrop]) _ (by omega) inClass
      unfold turn
      rw [getElem?_of_drop_cons hdrop]
      dsimp only
      by_cases hescape : character = '\\'
      · rw [if_pos hescape, hescape, regexLength_escape, map_add_map_add]
        exact hgoOn 1 inClass
      · rw [if_neg hescape, regexLength_cons hescape]
        split
        · exact answers_answer _ _
        · split
          · rw [map_add_map_add]
            exact hgoOn 0 _
          · split
            · have hflags := answers_flags text (index + 1)
              rw [drop_add_of_drop_cons hdrop 0, List.drop_zero] at hflags
              rw [Option.map_some, Nat.add_comm _ index, ← Nat.add_assoc]
              exact hflags
            · rw [map_add_map_add]
              exact hgoOn 0 _

/-! ## Pieces -/

/-- The reader of template literals answers at an index. -/
def TemplatesAnswer (text : List Char) (index : Nat) : Prop :=
  Answers text (.goOn .template index) ((templateLength (text.drop index)).map (· + index))

/-- What begins at an index is passed over to where it ends. -/
theorem answers_skip {code : Action} (htemplate : text.drop index ≠ [] → TemplatesAnswer text (index + 1))
    (hpiece : ∀ further, opening (text.drop index) = .piece further →
      Answers text (resume (some (index + (further + 1)))) result)
    (hunterminated : opening (text.drop index) = .unterminated → Answers text (resume none) result)
    (hcode : opening (text.drop index) = .code → Answers text code result) :
    Answers text (skip text index resume code) result := by
  have hlength : ∀ length : Option Nat, opening (text.drop index) = .ofLength length →
      Answers text (resume (length.map (· + (index + 1)))) result := by
    intro length hopening
    cases length with
    | none => exact hunterminated hopening
    | some further =>
      have hstop : further + (index + 1) = index + (further + 1) := by omega
      rw [Option.map_some, hstop]
      exact hpiece further hopening
  unfold skip
  split
  · rename_i rest hdrop
    have hstring := answers_string text '\'' (index + 1)
    rw [drop_add_of_drop_cons hdrop 0, List.drop_zero] at hstring
    exact answers_call hstring (hlength _ (by rw [hdrop, opening]))
  · rename_i rest hdrop
    have hstring := answers_string text '"' (index + 1)
    rw [drop_add_of_drop_cons hdrop 0, List.drop_zero] at hstring
    exact answers_call hstring (hlength _ (by rw [hdrop, opening]))
  · rename_i rest hdrop
    have htemplate := htemplate (by simp [hdrop])
    rw [TemplatesAnswer, drop_add_of_drop_cons hdrop 0, List.drop_zero] at htemplate
    exact answers_call htemplate (hlength _ (by rw [hdrop, opening]))
  · rename_i rest hdrop
    have hstop : index + 2 + lineLength rest = index + (1 + lineLength rest + 1) := by omega
    rw [hstop]
    exact hpiece _ (by rw [hdrop, opening])
  · rename_i rest hdrop
    have hblock := hlength ((blockCommentLength rest).map (· + 1)) (by rw [hdrop, opening])
    rw [map_add_map_add] at hblock
    exact hblock
  · rename_i hsingle hdouble hbacktick hline hblock
    refine hcode ?_
    rw [opening]
    · exact hsingle
    · exact hdouble
    · exact hbacktick
    · exact hline
    · exact hblock

/-! ## Brackets and template literals -/

/-- The bracket reader answers at an index, whatever stands in front of it that looks alike. -/
def BracketsAnswer (text : List Char) (index : Nat) : Prop :=
  ∀ expected previous before, LooksAlike (text.take index).reverse before →
    Answers text (.goOn (.brackets expected previous) index)
      ((closingDistance expected previous before (text.drop index)).map (· + index))

section

variable {expected before : List Char} {previous : Option Char}

theorem LooksAlike.of_drop_cons (halike : LooksAlike (text.take index).reverse before)
    (hdrop : text.drop index = character :: rest) (further : Nat) :
    LooksAlike (text.take (index + (further + 1))).reverse
      ((rest.take further).reverse ++ character :: before) := by
  have hbetween := halike.append ((rest.take further).reverse ++ [character])
  rw [List.append_assoc, List.append_assoc] at hbetween
  rw [List.take_add, hdrop, List.take_succ_cons, List.reverse_append, List.reverse_cons, List.append_assoc]
  exact hbetween

/-- At a character of code that begins no regular expression. -/
theorem answers_takeCode (hopening : opening (character :: rest) = .code)
    (hregex : (if character = '/' && regexAllowed previous before then regexLength false rest else none) = none)
    (hgoOn : ∀ expected previous, Answers text (.goOn (.brackets expected previous) (index + 1))
      ((closingDistance expected previous (character :: before) rest).map (· + (index + 1)))) :
    Answers text (takeCode expected previous character index)
      ((closingDistance expected previous before (character :: rest)).map (· + index)) := by
  rw [closingDistance]
  simp only [hopening, hregex, takeCode]
  generalize (if isSpace character then previous else some character) = last
  have hshift : ∀ expected, Answers text (.goOn (.brackets expected last) (index + 1))
      (((closingDistance expected last (character :: before) rest).map (· + 1)).map (· + index)) := by
    intro expected
    rw [map_add_map_add]
    exact hgoOn expected last
  cases closerOf character with
  | some closer => exact hshift _
  | none =>
    dsimp only
    by_cases hcloser : isCloser character
    · rw [if_pos hcloser, if_pos hcloser]
      cases expected with
      | nil => exact answers_answer _ _
      | cons closer outer =>
        dsimp only
        by_cases hmatch : closer ≠ character
        · rw [if_pos hmatch, if_pos hmatch]
          exact answers_answer _ _
        · rw [if_neg hmatch, if_neg hmatch]
          by_cases houter : outer.isEmpty
          · rw [if_pos houter, if_pos houter, Option.map_some, Nat.zero_add]
            exact answers_answer _ _
          · rw [if_neg houter, if_neg houter]
            exact hshift _
    · rw [if_neg hcloser, if_neg hcloser]
      exact hshift _

theorem bracketsAnswer_of_later
    (hlater : text.drop index ≠ [] → ∀ next, index < next →
      TemplatesAnswer text next ∧ BracketsAnswer text next) : BracketsAnswer text index := by
  intro expected previous before halike
  apply answers_goOn
  cases hdrop : text.drop index with
  | nil =>
    unfold turn
    rw [getElem?_of_drop_nil hdrop]
    rw [closingDistance]
    exact answers_answer _ _
  | cons character rest =>
    replace hlater := hlater (by simp [hdrop])
    have hgoOn : ∀ further expected previous,
        Answers text (.goOn (.brackets expected previous) (index + (further + 1)))
          ((closingDistance expected previous ((rest.take further).reverse ++ character :: before)
            (rest.drop further)).map (· + (index + (further + 1)))) := by
      intro further expected previous
      rw [← drop_add_of_drop_cons hdrop]
      exact (hlater _ (by omega)).2 _ _ _ (halike.of_drop_cons hdrop further)
    unfold turn
    rw [getElem?_of_drop_cons hdrop]
    dsimp only
    refine answers_skip (fun _ => (hlater _ (Nat.lt_succ_self index)).1) ?_ ?_ ?_
    · intro further hopening
      rw [hdrop] at hopening
      rw [closingDistance]
      simp only [hopening]
      rw [map_add_map_add]
      exact hgoOn _ _ _
    · intro hopening
      rw [hdrop] at hopening
      rw [closingDistance]
      simp only [hopening]
      exact answers_answer _ _
    · intro hopening
      rw [hdrop] at hopening
      rw [halike.regexAllowed_eq]
      by_cases hslash : character = '/' ∧ regexAllowed previous before
      · rw [if_pos hslash]
        have hregex := answers_regex text false (index + 1)
        rw [drop_add_of_drop_cons hdrop 0, List.drop_zero] at hregex
        refine answers_call hregex ?_
        have hif : (if character = '/' && regexAllowed previous before then regexLength false rest else none) =
            regexLength false rest := by
          rw [if_pos]
          simpa using hslash
        cases hlength : regexLength false rest with
        | none => exact answers_takeCode hopening (hif.trans hlength) (hgoOn 0)
        | some further =>
          have hfound := hif.trans hlength
          have hstop : further + (index + 1) = index + (further + 1) := by omega
          rw [closingDistance]
          simp only [hopening, hfound, Option.map_some, Option.elim_some]
          rw [map_add_map_add, hstop]
          exact hgoOn further expected (some '/')
      · rw [if_neg hslash]
        refine answers_takeCode hopening ?_ (hgoOn 0)
        rw [if_neg]
        simpa using hslash

theorem templateLength_escape (rest : List Char) :
    templateLength ('\\' :: rest) = (templateLength (rest.drop 1)).map (· + 2) := by
  cases rest with
  | nil => simp [templateLength]
  | cons escaped rest => rw [templateLength, List.drop_one, List.tail_cons]

theorem templatesAnswer_of_later
    (hlater : text.drop index ≠ [] → ∀ next, index < next →
      TemplatesAnswer text next ∧ BracketsAnswer text next) : TemplatesAnswer text index := by
  apply answers_goOn
  cases hdrop : text.drop index with
  | nil =>
    unfold turn
    rw [getElem?_of_drop_nil hdrop]
    rw [templateLength]
    exact answers_answer _ _
  | cons character rest =>
    replace hlater := hlater (by simp [hdrop])
    have hgoOn : ∀ further, Answers text (.goOn .template (index + (further + 1)))
        ((templateLength (rest.drop further)).map (· + (index + (further + 1)))) := by
      intro further
      rw [← drop_add_of_drop_cons hdrop]
      exact (hlater _ (by omega)).1
    unfold turn
    rw [getElem?_of_drop_cons hdrop]
    dsimp only
    by_cases hescape : character = '\\'
    · rw [if_pos hescape, hescape, templateLength_escape, map_add_map_add]
      exact hgoOn 1
    rw [if_neg hescape]
    by_cases hclose : character = '\x60'
    · rw [if_pos hclose, hclose, templateLength, Option.map_some, Nat.add_comm]
      exact answers_answer _ _
    rw [if_neg hclose]
    by_cases hsubstitution : character = '$' ∧ text[index + 1]? = some '\x7b'
    · rw [if_pos hsubstitution, hsubstitution.1]
      have hhead := hsubstitution.2
      rw [← List.head?_drop, drop_add_of_drop_cons hdrop 0, List.drop_zero] at hhead
      obtain ⟨inside, rfl⟩ := List.head?_eq_some_iff.mp hhead
      have hbrackets := (hlater _ (Nat.lt_succ_self index)).2 [] none _ fun _ => rfl
      rw [drop_add_of_drop_cons hdrop 0, List.drop_zero,
        closingDistance_opener (by decide) (text.take (index + 1)).reverse []] at hbrackets
      refine answers_call hbrackets ?_
      rw [templateLength]
      cases closingDistance [] none [] ('\x7b' :: inside) with
      | none => exact answers_answer _ _
      | some distance =>
        have hstop : distance + (index + 1) + 1 = index + (distance + 1 + 1) := by omega
        simp only [Option.map_some, Option.elim_some]
        rw [hstop, map_add_map_add]
        exact hgoOn (distance + 1)
    · rw [if_neg hsubstitution, templateLength_plain hescape hclose, map_add_map_add]
      · exact hgoOn 0
      · intro hdollar hhead
        refine hsubstitution ⟨hdollar, ?_⟩
        rw [← List.head?_drop, drop_add_of_drop_cons hdrop 0]
        exact hhead

/-- Both readers answer, since each calls the other one further on. -/
theorem readersAnswer (text : List Char) (index : Nat) :
    TemplatesAnswer text index ∧ BracketsAnswer text index := by
  induction index using left_induction text with
  | hstep index hlater => exact ⟨templatesAnswer_of_later hlater, bracketsAnswer_of_later hlater⟩

end

theorem answers_template (text : List Char) (index : Nat) :
    Answers text (.goOn .template index) ((templateLength (text.drop index)).map (· + index)) :=
  (readersAnswer text index).1

/-- From an opening bracket on. -/
theorem answers_group (hdrop : text.drop index = character :: rest) (hopener : isOpener character) :
    Answers text (.goOn (.brackets [] none) index) (findMatching text index) := by
  have hbrackets := (readersAnswer text index).2 [] none _ fun _ => rfl
  rw [hdrop, closingDistance_opener hopener (text.take index).reverse []] at hbrackets
  rw [findMatching, hdrop, groupLength, if_pos hopener]
  exact hbrackets

/-- Matches the bracket at an index. Nothing is matched where no bracket opens. -/
def matchAt (text : List Char) (index : Nat) : Action :=
  if (text[index]?).any isOpener then .goOn (.brackets [] none) index else .answer none

theorem answers_matchAt (text : List Char) (index : Nat) :
    Answers text (matchAt text index) (findMatching text index) := by
  unfold matchAt
  cases hdrop : text.drop index with
  | nil =>
    rw [getElem?_of_drop_nil hdrop, findMatching, hdrop]
    exact answers_answer _ _
  | cons character rest =>
    rw [getElem?_of_drop_cons hdrop, Option.any_some]
    by_cases hopener : isOpener character
    · rw [if_pos hopener]
      exact answers_group hdrop hopener
    · rw [if_neg hopener, findMatching, hdrop, groupLength, if_neg hopener]
      exact answers_answer _ _

end PageGraft.Script
