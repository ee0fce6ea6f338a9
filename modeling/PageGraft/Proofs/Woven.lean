import PageGraft.Proofs.CallRewriting
import PageGraft.Proofs.Cleaning
import PageGraft.Proofs.Matching

/-!
# Balanced code with a string in it
-/

namespace PageGraft.Script

open PageGraft.Page PageGraft.Text PageGraft.Settings

/-- A text of plain characters, of brackets, and of the string literal that holds `word`. Its brackets
close those that are expected, innermost first, and all that it opens itself. -/
inductive IsWoven (word : List Char) : List Char → List Char → Prop
  | nil : IsWoven word [] []
  | plain {expected rest : List Char} {character : Char} (hplain : isPlain character)
      (hrest : IsWoven word expected rest) : IsWoven word expected (character :: rest)
  | string {expected rest : List Char} (hrest : IsWoven word expected rest) :
      IsWoven word expected ('"' :: (word ++ '"' :: rest))
  | opens {expected rest : List Char} {opener closer : Char} (hopener : closerOf opener = some closer)
      (hrest : IsWoven word (closer :: expected) rest) : IsWoven word expected (opener :: rest)
  | closes {expected rest : List Char} {closer : Char} (hcloser : isCloser closer)
      (hrest : IsWoven word expected rest) : IsWoven word (closer :: expected) (closer :: rest)

namespace IsWoven

variable {word expected outer text first second run inside rest : List Char}

theorem append (hfirst : IsWoven word expected first) (hsecond : IsWoven word outer second) :
    IsWoven word (expected ++ outer) (first ++ second) := by
  induction hfirst with
  | nil => exact hsecond
  | plain hplain _ ih => exact .plain hplain ih
  | string _ ih =>
    rw [List.cons_append, List.append_assoc, List.cons_append]
    exact .string ih
  | opens hopener _ ih => exact .opens hopener ih
  | closes hcloser _ ih => exact .closes hcloser ih

theorem of_plain (hplain : run.all isPlain) : IsWoven word [] run := by
  induction run with
  | nil => exact .nil
  | cons character run ih =>
    rw [List.all_cons, Bool.and_eq_true] at hplain
    exact .plain hplain.1 (ih hplain.2)

/-- A group in brackets. -/
theorem group {opener closer : Char} (hopener : closerOf opener = some closer)
    (hinside : IsWoven word [] inside) (hrest : IsWoven word expected rest) :
    IsWoven word expected (opener :: (inside ++ closer :: rest)) := by
  have hclosed : IsWoven word (closer :: expected) (closer :: rest) :=
    .closes (isCloser_of_closerOf hopener) hrest
  exact .opens hopener (hinside.append hclosed)

/-! ## Taking such texts apart -/

/-- What such a text begins with. -/
theorem cons_cases {character : Char} (hwoven : IsWoven word expected (character :: rest)) :
    (isPlain character ∧ IsWoven word expected rest) ∨
      (character = '"' ∧ ∃ behind, rest = word ++ '"' :: behind ∧ IsWoven word expected behind) ∨
      (∃ closer, closerOf character = some closer ∧ IsWoven word (closer :: expected) rest) ∨
      (isCloser character ∧ ∃ outer, expected = character :: outer ∧ IsWoven word outer rest) := by
  generalize htext : character :: rest = text at hwoven
  cases hwoven with
  | nil => exact absurd htext (List.cons_ne_nil _ _)
  | plain hplain hrest =>
    obtain ⟨rfl, rfl⟩ := List.cons.inj htext
    exact .inl ⟨hplain, hrest⟩
  | string hrest =>
    obtain ⟨rfl, rfl⟩ := List.cons.inj htext
    exact .inr (.inl ⟨rfl, _, rfl, hrest⟩)
  | opens hopener hrest =>
    obtain ⟨rfl, rfl⟩ := List.cons.inj htext
    exact .inr (.inr (.inl ⟨_, hopener, hrest⟩))
  | closes hcloser hrest =>
    obtain ⟨rfl, rfl⟩ := List.cons.inj htext
    exact .inr (.inr (.inr ⟨hcloser, _, rfl, hrest⟩))

/-- Behind plain characters the text goes on. -/
theorem drop_plain (hplain : run.all isPlain) (hwoven : IsWoven word expected (run ++ rest)) :
    IsWoven word expected rest := by
  induction run with
  | nil => exact hwoven
  | cons character run ih =>
    rw [List.all_cons, Bool.and_eq_true] at hplain
    rcases cons_cases hwoven with ⟨-, hrest⟩ | ⟨rfl, -⟩ | ⟨closer, hopener, -⟩ | ⟨hcloser, -⟩
    · exact ih hplain.2 hrest
    · exact absurd hplain.1 (by decide)
    · rw [isPlain_of_isOpener (isOpener_of_closerOf hopener)] at hplain
      exact absurd hplain.1 Bool.false_ne_true
    · rw [isPlain_of_isCloser hcloser] at hplain
      exact absurd hplain.1 Bool.false_ne_true

/-- Behind an opening bracket its closer is expected. -/
theorem of_opener {opener closer : Char} (hopener : closerOf opener = some closer)
    (hwoven : IsWoven word expected (opener :: rest)) : IsWoven word (closer :: expected) rest := by
  rcases cons_cases hwoven with ⟨hplain, -⟩ | ⟨rfl, -⟩ | ⟨closer', hopener', hrest⟩ | ⟨hcloser, -⟩
  · rw [isPlain_of_isOpener (isOpener_of_closerOf hopener)] at hplain
    exact absurd hplain Bool.false_ne_true
  · exact absurd (isOpener_of_closerOf hopener) (by decide)
  · rw [hopener, Option.some.injEq] at hopener'
    rw [hopener']
    exact hrest
  · rw [closerOf_of_isCloser hcloser] at hopener
    exact absurd hopener (by simp)

/-- Behind a quote stands the rest of the string. -/
theorem of_quote (hwoven : IsWoven word expected ('"' :: rest)) :
    ∃ behind, rest = word ++ '"' :: behind ∧ IsWoven word expected behind := by
  rcases cons_cases hwoven with ⟨hplain, -⟩ | ⟨-, hstring⟩ | ⟨closer, hopener, -⟩ | ⟨hcloser, -⟩
  · exact absurd hplain (by decide)
  · exact hstring
  · exact absurd (isOpener_of_closerOf hopener) (by decide)
  · exact absurd hcloser (by decide)

/-- Behind any other character the text can change, as long as it closes the same brackets. -/
theorem of_behind {character : Char} {rest' : List Char}
    (hwoven : IsWoven word expected (character :: rest)) (hquote : character ≠ '"')
    (hbehind : ∀ {outer}, IsWoven word outer rest → IsWoven word outer rest') :
    IsWoven word expected (character :: rest') := by
  rcases cons_cases hwoven with ⟨hplain, hrest⟩ | ⟨heq, -⟩ | ⟨closer, hopener, hrest⟩ |
    ⟨hcloser, outer, rfl, hrest⟩
  · exact .plain hplain (hbehind hrest)
  · exact absurd heq hquote
  · exact .opens hopener (hbehind hrest)
  · exact .closes hcloser (hbehind hrest)

/-- A text is balanced up to the closer of the innermost bracket that is expected. -/
theorem exists_inside {closer : Char} (hwoven : IsWoven word (closer :: expected) text) :
    ∃ inside rest, text = inside ++ closer :: rest ∧ IsWoven word [] inside ∧
      IsWoven word expected rest := by
  induction hlength : text.length using Nat.strong_induction_on generalizing closer expected text with
  | _ length ih =>
    subst hlength
    cases hwoven with
    | plain hplain hrest =>
      obtain ⟨inside, rest, rfl, hinside, hbehind⟩ := ih _ (by simp) hrest rfl
      exact ⟨_ :: inside, rest, rfl, .plain hplain hinside, hbehind⟩
    | string hrest =>
      obtain ⟨inside, rest, rfl, hinside, hbehind⟩ := ih _ (by simp; omega) hrest rfl
      exact ⟨'"' :: (word ++ '"' :: inside), rest, by simp, .string hinside, hbehind⟩
    | opens hopener hrest =>
      -- up to the closer of the bracket that opens here, and from there on
      obtain ⟨group, middle, rfl, hgroup, hmiddle⟩ := ih _ (by simp) hrest rfl
      obtain ⟨inside, rest, rfl, hinside, hbehind⟩ := ih _ (by simp; omega) hmiddle rfl
      exact ⟨_ :: (group ++ _ :: inside), rest, by simp, .group hopener hgroup hinside, hbehind⟩
    | closes hcloser hrest => exact ⟨[], _, rfl, .nil, hrest⟩

/-- In front of plain characters the text is one of its own. -/
theorem of_append_plain (hplain : run.all isPlain) (hwoven : IsWoven word expected (text ++ run)) :
    IsWoven word expected text := by
  have hquote : '"' ∉ run := by
    intro hmem
    exact absurd (List.all_eq_true.mp hplain _ hmem) (by decide)
  induction hlength : text.length using Nat.strong_induction_on generalizing expected text with
  | _ length ih =>
    subst hlength
    cases text with
    | nil =>
      apply drop_plain hplain
      rwa [List.append_nil]
    | cons character text =>
      rcases cons_cases hwoven with ⟨hhere, hrest⟩ | ⟨rfl, behind, hsplit, hrest⟩ |
        ⟨closer, hopener, hrest⟩ | ⟨hcloser, outer, rfl, hrest⟩
      · exact .plain hhere (ih _ (by simp) hrest rfl)
      · -- the string cannot reach into the plain characters
        rcases List.append_eq_append_iff.mp hsplit with ⟨middle, -, hrun⟩ | ⟨middle, rfl, hmiddle⟩
        · exact absurd (by simp [hrun]) hquote
        · cases middle with
          | nil =>
            rw [List.nil_append] at hmiddle
            exact absurd (hmiddle ▸ List.mem_cons_self) hquote
          | cons quote more =>
            rw [List.cons_append, List.cons.injEq] at hmiddle
            obtain ⟨rfl, rfl⟩ := hmiddle
            exact .string (ih _ (by simp; omega) hrest rfl)
      · exact .opens hopener (ih _ (by simp) hrest rfl)
      · exact .closes hcloser (ih _ (by simp) hrest rfl)

/-! ## How the readers go over such texts -/

/-- Taking characters up to a place behind a piece and its last mark. -/
theorem take_behind {first mark : Char} {behind : List Char} (further : Nat) :
    (first :: (inside ++ mark :: behind)).take (further + (inside.length + 1 + 1)) =
      first :: (inside ++ mark :: behind.take further) := by
  have hcount : further + (inside.length + 1 + 1) = (inside.length + (further + 1)) + 1 := by omega
  rw [hcount, List.take_succ_cons, List.take_append, List.take_of_length_le (by omega),
    Nat.add_sub_cancel_left, List.take_succ_cons]

section

variable (hword : word.all isNamePart)

include hword

theorem isStringBody : IsStringBody '"' (word ++ ['"']) := by
  induction word with
  | nil => exact .close
  | cons character word ih =>
    rw [List.all_cons, Bool.and_eq_true] at hword
    have hne : ∀ {mark : Char}, isNamePart mark = false → character ≠ mark := by
      intro mark hmark heq
      rw [heq, hmark] at hword
      exact absurd hword.1 Bool.false_ne_true
    exact .plain (hne (by decide)) (hne (by decide)) (hne (by decide)) (ih hword.2)

theorem exists_reads (hwoven : IsWoven word [] text) (previous : Option Char)
    (before rest : List Char) : ∃ last, Reads .items previous before text rest last := by
  induction hlength : text.length using Nat.strong_induction_on
    generalizing text previous before rest with
  | _ length ih =>
    subst hlength
    cases hwoven with
    | nil => exact ⟨previous, .nil⟩
    | @plain _ more character hplain hmore =>
      obtain ⟨last, hreads⟩ := ih more.length (by simp) hmore
        (if isSpace character then previous else some character) (character :: before) rest rfl
      have hitem : Reads .item previous before [character] (more ++ rest)
          (if isSpace character then previous else some character) :=
        .code (isCode_of_isPlain hplain _ _ _)
      exact ⟨last, .cons hitem hreads⟩
    | @string _ more hmore =>
      obtain ⟨last, hreads⟩ := ih more.length (by simp; omega) hmore (some '"')
        (('"' :: (word ++ ['"'])).reverse ++ before) rest rfl
      have hitem : Reads .item previous before ('"' :: (word ++ ['"'])) (more ++ rest) (some '"') :=
        .string rfl (isStringBody hword)
      exact ⟨last, by simpa using Reads.cons hitem hreads⟩
    | @opens _ tail opener closer hopener htail =>
      obtain ⟨inside, more, rfl, hinside, hmore⟩ := htail.exists_inside
      obtain ⟨inner, hinner⟩ := ih inside.length (by simp) hinside (some opener)
        (opener :: before) (closer :: (more ++ rest)) rfl
      obtain ⟨last, hreads⟩ := ih more.length (by simp; omega) hmore (some closer)
        ((opener :: (inside ++ [closer])).reverse ++ before) rest rfl
      have hitem : Reads .item previous before (opener :: (inside ++ [closer])) (more ++ rest)
          (some closer) := .group hopener hinner
      exact ⟨last, by simpa using Reads.cons hitem hreads⟩

/-- The bracket reader finds the closer of a group. -/
theorem groupLength_eq {opener closer : Char} (hopener : closerOf opener = some closer)
    (hinside : IsWoven word [] inside) (rest : List Char) :
    groupLength (opener :: (inside ++ closer :: rest)) = some (inside.length + 1) := by
  have hopens := isOpener_of_closerOf hopener
  obtain ⟨last, hreads⟩ := hinside.exists_reads hword (some opener) [opener] (closer :: rest)
  have hpasses := hreads.isPassed [closer] [opener] (List.cons_ne_nil _ _) (fun _ => rfl)
  rw [groupLength]
  simp only [hopens, if_true]
  exact Scan.closingDistance_group hopener hpasses

/-- In front of a character outside brackets and strings the text is balanced. -/
theorem take_topLevelDistance {stops : Char → Bool} {distance : Nat}
    (hwoven : IsWoven word [] text) (hdistance : topLevelDistance stops text = some distance) :
    IsWoven word [] (text.take distance) := by
  induction hlength : text.length using Nat.strong_induction_on generalizing text distance with
  | _ length ih =>
    subst hlength
    cases text with
    | nil => simp [topLevelDistance] at hdistance
    | cons character rest =>
      rw [topLevelDistance] at hdistance
      by_cases hstops : stops character
      · rw [if_pos hstops, Option.some.injEq] at hdistance
        rw [← hdistance]
        exact .nil
      · rw [if_neg hstops] at hdistance
        rcases cons_cases hwoven with ⟨hplain, hrest⟩ | ⟨rfl, behind, rfl, hrest⟩ |
          ⟨closer, hopener, hrest⟩ | ⟨-, outer, houter, -⟩
        · have hcode := isCode_of_isPlain hplain none [] rest
          have hopening : opening (character :: rest) = .code :=
            opening_eq_code.mpr ⟨hcode.quotes, hcode.backtick, hcode.comments⟩
          simp only [hopening, hcode.opens, Bool.false_eq_true, if_false] at hdistance
          obtain ⟨further, hfurther, rfl⟩ := Option.map_eq_some_iff.mp hdistance
          exact .plain hplain (ih _ (by simp) hrest hfurther rfl)
        · have hlength : stringLength '"' (word ++ '"' :: behind) = some (word.length + 1) := by
            have hstring : stringLength '"' ((word ++ ['"']) ++ behind) =
                some (word ++ ['"']).length := (isStringBody hword).stringLength_append (by decide)
            simpa using hstring
          rw [opening_of_isQuote rfl, hlength] at hdistance
          have hdrop : (word ++ '"' :: behind).drop (word.length + 1) = behind := by simp
          simp only [Opening.ofLength, hdrop] at hdistance
          obtain ⟨further, hfurther, rfl⟩ := Option.map_eq_some_iff.mp hdistance
          rw [take_behind]
          exact .string (ih _ (by simp; omega) hrest hfurther rfl)
        · obtain ⟨inside, behind, rfl, hinside, hbehind⟩ := hrest.exists_inside
          have hopens := isOpener_of_closerOf hopener
          have hgroup := hinside.groupLength_eq hword hopener behind
          have hdrop : (inside ++ closer :: behind).drop (inside.length + 1) = behind := by simp
          simp only [opening_of_isOpener hopens, hopens, if_true, hgroup, hdrop] at hdistance
          obtain ⟨further, hfurther, rfl⟩ := Option.map_eq_some_iff.mp hdistance
          rw [take_behind]
          exact .group hopener hinside (ih _ (by simp; omega) hbehind hfurther rfl)
        · exact absurd houter (by simp)

end

end IsWoven
end PageGraft.Script
