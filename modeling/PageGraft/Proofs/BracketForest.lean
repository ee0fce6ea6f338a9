import PageGraft.Proofs.BracketGrammar

/-!
# Texts as bracket forests

A text without literals, comments and slashes is nothing but brackets and the stretches of characters
between them. If its brackets are balanced (`isBalanced`), it is the text of exactly one `Forest`
(`exists_forest`, `Forest.eq_of_text_append`), and the bracket reader finds the closer of a group where
the forest ends that is inside (`Forest.groupLength_text`).

A forest is read from a text in front of something that cannot go on with it: the end, or a closing
bracket. The lemmas have this text behind as `after`.
-/

namespace PageGraft.Script

open PageGraft.Page PageGraft.Text

/-! ## Stretches and brackets -/

/-- A character that stands for itself: no bracket, quote, backtick or slash. -/
def isPlain (character : Char) : Bool :=
  !isOpener character && !isCloser character && !isQuote character && character != '\x60' &&
    character != '/'

/-- A text of characters that stand for themselves. -/
structure Stretch where
  text : List Char
  plain : text.all isPlain

inductive Bracket where
  | round
  | square
  | curly
deriving Repr, DecidableEq

namespace Bracket

def opener : Bracket → Char
  | .round => '('
  | .square => '['
  | .curly => '\x7b'

def closer : Bracket → Char
  | .round => ')'
  | .square => ']'
  | .curly => '}'

theorem closerOf_opener (bracket : Bracket) : closerOf bracket.opener = some bracket.closer := by
  cases bracket <;> rfl

theorem isOpener_opener (bracket : Bracket) : isOpener bracket.opener :=
  isOpener_of_closerOf bracket.closerOf_opener

theorem isCloser_closer (bracket : Bracket) : isCloser bracket.closer :=
  isCloser_of_closerOf bracket.closerOf_opener

theorem exists_of_closerOf {opener closer : Char} (hopener : closerOf opener = some closer) :
    ∃ bracket : Bracket, bracket.opener = opener ∧ bracket.closer = closer := by
  rcases isOpener_iff.mp (isOpener_of_closerOf hopener) with rfl | rfl | rfl
  · exact ⟨.round, rfl, Option.some.inj hopener⟩
  · exact ⟨.square, rfl, Option.some.inj hopener⟩
  · exact ⟨.curly, rfl, Option.some.inj hopener⟩

theorem eq_of_opener_eq {bracket other : Bracket} (hopener : bracket.opener = other.opener) :
    bracket = other := by
  cases bracket <;> cases other <;> first | rfl | exact absurd hopener (by decide)

end Bracket

section

variable {character : Char}

theorem isPlain_iff : isPlain character ↔ isOpener character = false ∧ isCloser character = false ∧
    isQuote character = false ∧ character ≠ '\x60' ∧ character ≠ '/' := by
  simp [isPlain, and_assoc]

theorem isPlain_of_isOpener (hopener : isOpener character) : isPlain character = false := by
  simp [isPlain, hopener]

theorem isPlain_of_isCloser (hcloser : isCloser character) : isPlain character = false := by
  simp [isPlain, hcloser]

/-- The characters of a class without brackets, quotes, backtick and slash stand for themselves. -/
theorem isPlain_of_class {takes : Char → Bool}
    (hmarks : "()[]\x7b\x7d'\"\x60/".toList.any takes = false) (htakes : takes character) :
    isPlain character := by
  by_contra hplain
  have hmark : isOpener character ∨ isCloser character ∨ isQuote character ∨
      character = '\x60' ∨ character = '/' := by
    simpa [isPlain, or_iff_not_imp_left] using hplain
  rw [isOpener_iff, isCloser_iff, isQuote_iff] at hmark
  have hmem : character ∈ "()[]\x7b\x7d'\"\x60/".toList := by
    rcases hmark with (rfl | rfl | rfl) | (rfl | rfl | rfl) | (rfl | rfl) | rfl | rfl
    all_goals decide
  rw [List.any_eq_false] at hmarks
  exact hmarks character hmem htakes

theorem isPlain_of_isNamePart (hname : isNamePart character) : isPlain character :=
  isPlain_of_class (by decide) hname

theorem isPlain_of_isSpace (hspace : isSpace character) : isPlain character :=
  isPlain_of_class (by decide) hspace

theorem lexeme?_of_isPlain {previous : Option Char} {before rest : List Char}
    (hplain : isPlain character) :
    lexeme? previous before (character :: rest) = some .character := by
  obtain ⟨-, -, hquote, hbacktick, hslash⟩ := isPlain_iff.mp hplain
  exact lexeme?_of_ne hquote hbacktick hslash

/-- A character that stands for itself leaves the brackets as they are. -/
theorem Scan.next_of_isPlain {expected before rest : List Char} {previous : Option Char}
    (hplain : isPlain character) :
    next ⟨expected, previous, before, character :: rest⟩ = some (.character,
      ⟨expected, if isSpace character then previous else some character, character :: before, rest⟩) := by
  obtain ⟨hopener, hcloser, -⟩ := isPlain_iff.mp hplain
  have hnone : closerOf character = none := by simpa [isOpener] using hopener
  simp [next, lexeme?_of_isPlain hplain, expectedAfter, hnone, hcloser, advance, Lexeme.width,
    Lexeme.last]

/-- A bracket or a plain character is all that a text without literals and slashes holds. -/
theorem isPlain_of_isLiteralFree
    (hliteral : isQuote character = false ∧ character ≠ '\x60' ∧ character ≠ '/')
    (hopener : isOpener character = false) (hcloser : isCloser character = false) :
    isPlain character :=
  isPlain_iff.mpr ⟨hopener, hcloser, hliteral⟩

/-- What stands in front of the first bracket is determined by the text. -/
theorem plain_append_unique {stretch stretch' after after' : List Char}
    (hplain : stretch.all isPlain) (hplain' : stretch'.all isPlain)
    (hafter : ∀ character ∈ after.head?, isPlain character = false)
    (hafter' : ∀ character ∈ after'.head?, isPlain character = false)
    (htext : stretch ++ after = stretch' ++ after') : stretch = stretch' ∧ after = after' := by
  have hstretch : stretch = stretch' := by
    rw [← takeWhile_append_of_head hplain hafter, htext, takeWhile_append_of_head hplain' hafter']
  subst hstretch
  exact ⟨rfl, List.append_cancel_left htext⟩

end

/-! ## Forests -/

/-- The bracket structure of a text: groups in brackets, one behind the other, with a stretch in front of
each and one behind the last. -/
inductive Forest where
  | leaf (stretch : Stretch)
  | group (stretch : Stretch) (bracket : Bracket) (inside rest : Forest)

def Forest.text : Forest → List Char
  | .leaf stretch => stretch.text
  | .group stretch bracket inside rest =>
    stretch.text ++ bracket.opener :: (inside.text ++ bracket.closer :: rest.text)

/-- Whether every bracket of a text is closed by its own closer. `expected` holds the closers of brackets
that were opened before, innermost first. -/
def isBalanced : List Char → List Char → Bool
  | expected, [] => expected.isEmpty
  | expected, character :: rest =>
    match closerOf character with
    | some closer => isBalanced (closer :: expected) rest
    | none =>
      if isCloser character then
        match expected with
        | [] => false
        | closer :: outer => closer == character && isBalanced outer rest
      else isBalanced expected rest

/-- What is left of a balanced text behind a forest: nothing, or the innermost closer that is expected. -/
inductive IsRemainder : List Char → List Char → Prop
  | done : IsRemainder [] []
  | closer {closer : Char} {outer rest : List Char} (hbalanced : isBalanced outer rest) :
      IsRemainder (closer :: outer) (closer :: rest)

/-- A text begins with a forest, up to the first closer of a bracket that was opened before it. -/
theorem exists_forest_append (expected text : List Char)
    (hliterals : ∀ character ∈ text,
      isQuote character = false ∧ character ≠ '\x60' ∧ character ≠ '/')
    (hbalanced : isBalanced expected text) :
    ∃ (forest : Forest) (after : List Char),
      text = forest.text ++ after ∧ IsRemainder expected after := by
  induction hlength : text.length using Nat.strong_induction_on generalizing expected text with
  | _ length ih =>
    subst hlength
    cases text with
    | nil =>
      obtain rfl : expected = [] := by simpa [isBalanced] using hbalanced
      exact ⟨.leaf ⟨[], rfl⟩, [], rfl, .done⟩
    | cons character text =>
      have htail : ∀ other ∈ text, isQuote other = false ∧ other ≠ '\x60' ∧ other ≠ '/' :=
        fun other hmem => hliterals other (List.mem_cons_of_mem _ hmem)
      unfold isBalanced at hbalanced
      cases hopener : closerOf character with
      | some closer =>
        rw [hopener] at hbalanced
        obtain ⟨bracket, rfl, rfl⟩ := Bracket.exists_of_closerOf hopener
        obtain ⟨inside, _, rfl, hinside⟩ :=
          ih text.length (by simp) (bracket.closer :: expected) text htail hbalanced rfl
        cases hinside with
        | @closer _ _ rest hrest =>
          obtain ⟨forest, after, rfl, hafter⟩ :=
            ih rest.length (by simp; omega) expected rest
              (fun other hmem => htail other (by simp [hmem])) hrest rfl
          exact ⟨.group ⟨[], rfl⟩ bracket inside forest, after, by simp [Forest.text], hafter⟩
      | none =>
        simp only [hopener] at hbalanced
        cases hcloser : isCloser character with
        | true =>
          rw [hcloser, if_pos rfl] at hbalanced
          cases expected with
          | nil => simp at hbalanced
          | cons closer outer =>
            obtain ⟨rfl, hrest⟩ : closer = character ∧ isBalanced outer text := by
              simpa using hbalanced
            exact ⟨.leaf ⟨[], rfl⟩, closer :: text, rfl, .closer hrest⟩
        | false =>
          rw [hcloser, if_neg Bool.false_ne_true] at hbalanced
          obtain ⟨forest, after, rfl, hafter⟩ :=
            ih text.length (by simp) expected text htail hbalanced rfl
          have hplain : isPlain character :=
            isPlain_of_isLiteralFree (hliterals character List.mem_cons_self)
              (by simp [isOpener, hopener]) hcloser
          cases forest with
          | leaf stretch =>
            exact ⟨.leaf ⟨character :: stretch.text, by simp [hplain, stretch.plain]⟩, after, rfl,
              hafter⟩
          | group stretch bracket inside rest =>
            refine ⟨.group ⟨character :: stretch.text, by simp [hplain, stretch.plain]⟩ bracket
              inside rest, after, ?_, hafter⟩
            simp [Forest.text]

/-- A balanced text without literals and slashes is the text of a forest. -/
theorem exists_forest {text : List Char}
    (hliterals : ∀ character ∈ text,
      isQuote character = false ∧ character ≠ '\x60' ∧ character ≠ '/')
    (hbalanced : isBalanced [] text) : ∃ forest : Forest, forest.text = text := by
  obtain ⟨forest, after, rfl, hafter⟩ := exists_forest_append [] text hliterals hbalanced
  cases hafter
  exact ⟨forest, (List.append_nil _).symm⟩

namespace Forest

/-- The forest at the front of a text is determined by the text. -/
theorem eq_of_text_append {forest other : Forest} {after after' : List Char}
    (hafter : ∀ character ∈ after.head?, isCloser character)
    (hafter' : ∀ character ∈ after'.head?, isCloser character)
    (htext : forest.text ++ after = other.text ++ after') : forest = other ∧ after = after' := by
  have hends : ∀ {text : List Char}, (∀ character ∈ text.head?, isCloser character) →
      ∀ character ∈ text.head?, isPlain character = false :=
    fun hclosers character hmem => isPlain_of_isCloser (hclosers character hmem)
  have hopens : ∀ (bracket : Bracket) (text : List Char),
      ∀ character ∈ (bracket.opener :: text).head?, isPlain character = false := by
    rintro bracket text character ⟨⟩
    exact isPlain_of_isOpener bracket.isOpener_opener
  have hcloses : ∀ (bracket : Bracket) (text : List Char),
      ∀ character ∈ (bracket.closer :: text).head?, isCloser character := by
    rintro bracket text character ⟨⟩
    exact bracket.isCloser_closer
  -- an opener is no closer, so that a leaf and a group differ behind the stretch
  have hdiffer : ∀ {bracket : Bracket} {text more : List Char},
      (∀ character ∈ text.head?, isCloser character) → text ≠ bracket.opener :: more := by
    rintro bracket _ more hclosers rfl
    have hcloser := hclosers bracket.opener rfl
    cases bracket <;> exact absurd hcloser (by decide)
  induction forest generalizing other after after' with
  | leaf stretch =>
    cases other with
    | leaf stretch' =>
      obtain ⟨hstretch, rfl⟩ :=
        plain_append_unique stretch.plain stretch'.plain (hends hafter) (hends hafter') htext
      cases stretch
      cases stretch'
      cases hstretch
      exact ⟨rfl, rfl⟩
    | group stretch' bracket' inside' rest' =>
      rw [text, text, List.append_assoc, List.cons_append] at htext
      obtain ⟨-, hgroup⟩ :=
        plain_append_unique stretch.plain stretch'.plain (hends hafter) (hopens _ _) htext
      exact absurd hgroup (hdiffer hafter)
  | group stretch bracket inside rest ihInside ihRest =>
    cases other with
    | leaf stretch' =>
      rw [text, text, List.append_assoc, List.cons_append] at htext
      obtain ⟨-, hgroup⟩ :=
        plain_append_unique stretch.plain stretch'.plain (hopens _ _) (hends hafter') htext
      exact absurd hgroup.symm (hdiffer hafter')
    | group stretch' bracket' inside' rest' =>
      rw [text, text, List.append_assoc, List.cons_append, List.append_assoc,
        List.cons_append, List.append_assoc, List.cons_append, List.append_assoc,
        List.cons_append] at htext
      obtain ⟨hstretch, hgroup⟩ :=
        plain_append_unique stretch.plain stretch'.plain (hopens _ _) (hopens _ _) htext
      obtain ⟨hopener, hinside⟩ := List.cons.inj hgroup
      obtain rfl := Bracket.eq_of_opener_eq hopener
      obtain ⟨rfl, hrest⟩ := ihInside (hcloses _ _) (hcloses _ _) hinside
      obtain ⟨rfl, rfl⟩ := ihRest hafter hafter' (List.cons.inj hrest).2
      cases stretch
      cases stretch'
      cases hstretch
      exact ⟨rfl, rfl⟩

theorem text_injective {forest other : Forest} (htext : forest.text = other.text) :
    forest = other := by
  have hends : ∀ character ∈ ([] : List Char).head?, isCloser character := by simp
  have hforests := eq_of_text_append hends hends (congrArg (· ++ []) htext)
  exact hforests.1

end Forest

/-! ## Groups -/

theorem isCode_of_isPlain {character : Char} (hplain : isPlain character) (previous : Option Char)
    (before rest : List Char) : IsCode previous before character rest := by
  obtain ⟨hopener, hcloser, hquote, hbacktick, hslash⟩ := isPlain_iff.mp hplain
  refine ⟨hopener, hcloser, hquote, hbacktick, ?_, fun heq => absurd heq hslash⟩
  unfold startsComment
  split <;> simp_all

/-- A stretch is read character by character. -/
theorem exists_reads_stretch {stretch more before rest : List Char} (hplain : stretch.all isPlain)
    (hmore : ∀ previous, ∃ last,
      Reads .items previous (stretch.reverse ++ before) more rest last) (previous : Option Char) :
    ∃ last, Reads .items previous before (stretch ++ more) rest last := by
  induction stretch generalizing previous before with
  | nil => exact hmore previous
  | cons character stretch ih =>
    rw [List.all_cons, Bool.and_eq_true] at hplain
    have hrest : ∀ previous, ∃ last,
        Reads .items previous (stretch.reverse ++ character :: before) more rest last := by
      simpa using hmore
    obtain ⟨last, hstretch⟩ :=
      ih hplain.2 hrest (if isSpace character then previous else some character)
    have hcharacter : Reads .item previous before [character] ((stretch ++ more) ++ rest)
        (if isSpace character then previous else some character) :=
      .code (isCode_of_isPlain hplain.1 _ _ _)
    have hitems : Reads .items previous before ([character] ++ (stretch ++ more)) rest last :=
      .cons hcharacter hstretch
    exact ⟨last, hitems⟩

namespace Forest

/-- A forest is read stretch by stretch and group by group. -/
theorem exists_reads_text (forest : Forest) (previous : Option Char) (before rest : List Char) :
    ∃ last, Reads .items previous before forest.text rest last := by
  induction forest generalizing previous before rest with
  | leaf stretch =>
    have hreads : ∃ last, Reads .items previous before (stretch.text ++ []) rest last :=
      exists_reads_stretch stretch.plain (fun previous => ⟨previous, .nil⟩) previous
    rwa [List.append_nil] at hreads
  | group stretch bracket inside more ihInside ihMore =>
    refine exists_reads_stretch stretch.plain (fun previous => ?_) previous
    obtain ⟨inner, hinside⟩ := ihInside (some bracket.opener)
      (bracket.opener :: (stretch.text.reverse ++ before)) (bracket.closer :: (more.text ++ rest))
    obtain ⟨last, hmore⟩ := ihMore (some bracket.closer)
      ((bracket.opener :: (inside.text ++ [bracket.closer])).reverse ++
        (stretch.text.reverse ++ before)) rest
    have hgroup : Reads .item previous (stretch.text.reverse ++ before)
        (bracket.opener :: (inside.text ++ [bracket.closer])) (more.text ++ rest)
        (some bracket.closer) := .group bracket.closerOf_opener hinside
    exact ⟨last, by simpa using Reads.cons hgroup hmore⟩

/-- The bracket reader finds the closer of a group behind the forest inside. -/
theorem groupLength_text (inside : Forest) (rest : List Char) :
    groupLength ('(' :: (inside.text ++ ')' :: rest)) = some (inside.text.length + 1) := by
  obtain ⟨last, hreads⟩ := inside.exists_reads_text (some '(') ['('] (')' :: rest)
  have hpasses := hreads.isPassed [')'] ['('] (List.cons_ne_nil _ _) (fun _ => rfl)
  exact Scan.closingDistance_group rfl hpasses

end Forest

end PageGraft.Script
