import PageGraft.Proofs.BracketForest
import PageGraft.Script.Cleaning

/-!
# Calls are replaced along the brackets

Calls are replaced by two cursors over the text: the arguments of a call are a text of their own, while
the search goes on inside the parentheses of a call that is kept. On a balanced text without literals
and slashes this is one recursion over the bracket forest, `Forest.rewrite`: every group is rewritten
inside first, and a group in parentheses with a callee in front is then replaced whole, or kept.

What counts as a callee is given by its name (`Recognises`). A name is a plain text, so that it is found
only in the stretch in front of a parenthesis.
-/

namespace PageGraft.Script

open PageGraft.Page PageGraft.Text PageGraft.Settings

/-! ## Callees -/

/-- A callee is found exactly where a word can begin and the name of a callee stands in front of an
opening parenthesis. -/
structure Recognises (callee : Finder) (isCallee : List Char → Bool) : Prop where
  found_iff : ∀ {previous : Option Char} {text : List Char} {length : Nat},
    callee previous text = some length ↔ startsWord previous ∧
      ∃ name rest, text = name ++ '(' :: rest ∧ isCallee name ∧ name.length = length
  plain : ∀ {name : List Char}, isCallee name → name.all isPlain ∧ name ≠ []

/-- The name of a state setter: `set`, a capital letter and the rest of a name. -/
def isSetter : List Char → Bool
  | 's' :: 'e' :: 't' :: capital :: rest => capital.isUpper && rest.all isNamePart
  | _ => false

theorem isSetter_iff {name : List Char} :
    isSetter name ↔ ∃ capital rest, name = 's' :: 'e' :: 't' :: capital :: rest ∧
      capital.isUpper ∧ rest.all isNamePart := by
  unfold isSetter
  split
  · simp
  · rename_i hshape
    simp only [Bool.false_eq_true, false_iff]
    rintro ⟨capital, rest, rfl, -⟩
    exact hshape capital rest rfl

theorem isNamePart_of_isUpper {character : Char} (hupper : character.isUpper) :
    isNamePart character := by
  have halphanum : character.isAlphanum := by simp [Char.isAlphanum, Char.isAlpha, hupper]
  simp [isNamePart, isWordPart, halphanum]

theorem isNamePart_of_isSetter {name : List Char} (hsetter : isSetter name) :
    name.all isNamePart := by
  obtain ⟨capital, rest, rfl, hupper, hrest⟩ := isSetter_iff.mp hsetter
  simp only [List.all_cons, isNamePart_of_isUpper hupper, hrest, Bool.and_true]
  decide

theorem recognises_setterCallee : Recognises setterCallee isSetter where
  found_iff := by
    intro previous text length
    constructor
    · intro hfound
      unfold setterCallee at hfound
      split at hfound
      · rename_i capital rest
        simp only [Option.ite_none_right_eq_some, Bool.and_eq_true, beq_iff_eq,
          Option.some.injEq] at hfound
        obtain ⟨⟨⟨hstarts, hupper⟩, hhead⟩, rfl⟩ := hfound
        obtain ⟨after, hafter⟩ := List.head?_eq_some_iff.mp hhead
        refine ⟨hstarts, 's' :: 'e' :: 't' :: capital :: rest.takeWhile isNamePart, after, ?_, ?_, rfl⟩
        · have hrest := List.prefix_iff_eq_append.mp (List.takeWhile_prefix (l := rest) isNamePart)
          rw [hafter] at hrest
          simp [hrest]
        · exact isSetter_iff.mpr ⟨capital, _, rfl, hupper, List.all_takeWhile⟩
      · simp at hfound
    · rintro ⟨hstarts, name, after, rfl, hname, rfl⟩
      obtain ⟨capital, rest, rfl, hupper, hrest⟩ := isSetter_iff.mp hname
      have htake : (rest ++ '(' :: after).takeWhile isNamePart = rest :=
        takeWhile_append_of_head hrest (by simp; decide)
      simp [setterCallee, hstarts, hupper, htake]
  plain := by
    intro name hname
    have hparts := isNamePart_of_isSetter hname
    obtain ⟨capital, rest, rfl, -⟩ := isSetter_iff.mp hname
    refine ⟨?_, List.cons_ne_nil _ _⟩
    rw [List.all_eq_true] at hparts ⊢
    exact fun character hmem => isPlain_of_isNamePart (hparts character hmem)

/-- A callee given by its text is found as that text. -/
theorem recognises_namedCallee {word : List Char} (hplain : word.all isPlain) (hnonempty : word ≠ []) :
    Recognises (namedCallee word) (· == word) where
  found_iff := by
    intro previous text length
    simp only [namedCallee, Option.ite_none_right_eq_some, Bool.and_eq_true, beq_iff_eq,
      Option.some.injEq, List.isPrefixOf_iff_prefix]
    constructor
    · rintro ⟨⟨⟨hstarts, rest, rfl⟩, hhead⟩, rfl⟩
      rw [List.drop_left] at hhead
      obtain ⟨after, rfl⟩ := List.head?_eq_some_iff.mp hhead
      exact ⟨hstarts, word, after, rfl, rfl, rfl⟩
    · rintro ⟨hstarts, name, after, rfl, rfl, rfl⟩
      exact ⟨⟨⟨hstarts, List.prefix_append _ _⟩, by simp⟩, rfl⟩
  plain := by
    intro name hname
    obtain rfl := beq_iff_eq.mp hname
    exact ⟨hplain, hnonempty⟩

/-! ## The rewriting of a forest -/

/-- Splits off the name of a callee that a stretch ends with: what stands before it, and the name. -/
def splitCallee (isCallee : List Char → Bool) (previous : Option Char) :
    List Char → Option (List Char × List Char)
  | [] => none
  | character :: rest =>
    if startsWord previous && isCallee (character :: rest) then some ([], character :: rest)
    else (splitCallee isCallee (some character) rest).map fun (front, name) =>
      (character :: front, name)

/-- Replaces calls from the inside to the outside. A group in parentheses with a callee in front becomes
what `build` makes of the callee and the rewritten inside, if it makes something; every other group keeps
its brackets and what stands in front of them. -/
def Forest.rewrite (isCallee : List Char → Bool)
    (build : List Char → List Char → Option (List Char)) : Forest → List Char
  | .leaf stretch => stretch.text
  | .group stretch bracket inside rest =>
    let content := inside.rewrite isCallee build
    let replaced := do
      guard (bracket = Bracket.round)
      let (front, name) ← splitCallee isCallee none stretch.text
      let replacement ← build name content
      pure (front ++ replacement)
    let kept := stretch.text ++ bracket.opener :: (content ++ [bracket.closer])
    replaced.getD kept ++ rest.rewrite isCallee build

section

variable {callee : Finder} {isCallee : List Char → Bool}
  {build : List Char → List Char → Option (List Char)} {previous : Option Char}
  {stretch after rest : List Char}

theorem splitCallee_of_startsWord (hstarts : startsWord previous) (stretch : List Char) :
    splitCallee isCallee previous stretch = splitCallee isCallee none stretch := by
  cases stretch with
  | nil => rfl
  | cons character rest => simp [splitCallee, hstarts, show startsWord none from rfl]

/-- What is split off is the end of the stretch. -/
theorem append_of_splitCallee {front name : List Char}
    (hsplit : splitCallee isCallee previous stretch = some (front, name)) :
    stretch = front ++ name := by
  induction stretch generalizing previous front with
  | nil => simp [splitCallee] at hsplit
  | cons character rest ih =>
    rw [splitCallee] at hsplit
    split at hsplit
    · obtain ⟨rfl, rfl⟩ : [] = front ∧ character :: rest = name := by simpa using hsplit
      rfl
    · obtain ⟨⟨front', name'⟩, hrest, heq⟩ := Option.map_eq_some_iff.mp hsplit
      obtain ⟨rfl, rfl⟩ : character :: front' = front ∧ name' = name := by simpa using heq
      rw [ih hrest, List.cons_append]

namespace Forest

variable {bracket : Bracket} {inside more : Forest} {words : Stretch}

/-- A group without a callee in front keeps its brackets. -/
theorem rewrite_of_split_none
    (hsplit : bracket = .round → splitCallee isCallee none words.text = none) :
    (group words bracket inside more).rewrite isCallee build =
      words.text ++ bracket.opener :: (inside.rewrite isCallee build ++
        bracket.closer :: more.rewrite isCallee build) := by
  rw [rewrite]
  by_cases hround : bracket = .round
  · simp [hround, hsplit hround]
  · simp [hround, failure]

/-- A group behind a callee is replaced if something is made of the call. -/
theorem rewrite_of_split_some {front name : List Char}
    (hsplit : splitCallee isCallee none words.text = some (front, name)) :
    (group words .round inside more).rewrite isCallee build = front ++
      match build name (inside.rewrite isCallee build) with
      | none => name ++ '(' :: (inside.rewrite isCallee build ++
          ')' :: more.rewrite isCallee build)
      | some replacement => replacement ++ more.rewrite isCallee build := by
  rw [rewrite, hsplit]
  cases hbuild : build name (inside.rewrite isCallee build) with
  | none => simp [hbuild, append_of_splitCallee hsplit, Bracket.opener, Bracket.closer]
  | some replacement => simp [hbuild]

end Forest

/-! ## Replacing along a stretch -/

section

variable (hcallee : Recognises callee isCallee)

include hcallee

/-- No callee begins at a bracket or at the end of a text. -/
theorem Recognises.eq_none_of_head (hafter : ∀ character ∈ after.head?, isPlain character = false) :
    callee previous after = none := by
  rw [Option.eq_none_iff_forall_ne_some]
  intro length hfound
  obtain ⟨-, name, rest, rfl, hname, -⟩ := hcallee.found_iff.mp hfound
  obtain ⟨hplain, hnonempty⟩ := hcallee.plain hname
  obtain ⟨first, name, rfl⟩ := List.exists_cons_of_ne_nil hnonempty
  rw [List.all_cons, Bool.and_eq_true] at hplain
  have hfirst := hafter first rfl
  rw [hplain.1] at hfirst
  exact Bool.noConfusion hfirst

/-- In front of a bracket or the end, a callee is found where the stretch is its name and an opening
parenthesis comes next. -/
theorem Recognises.found_append_iff (hplain : stretch.all isPlain)
    (hafter : ∀ character ∈ after.head?, isPlain character = false) {length : Nat} :
    callee previous (stretch ++ after) = some length ↔
      startsWord previous ∧ isCallee stretch ∧ after.head? = some '(' ∧ length = stretch.length := by
  rw [hcallee.found_iff]
  constructor
  · rintro ⟨hstarts, name, rest, htext, hname, rfl⟩
    have hparenthesis : ∀ character ∈ ('(' :: rest).head?, isPlain character = false := by
      rintro character ⟨⟩
      rfl
    obtain ⟨rfl, rfl⟩ :=
      plain_append_unique hplain (hcallee.plain hname).1 hafter hparenthesis htext
    exact ⟨hstarts, hname, rfl, rfl⟩
  · rintro ⟨hstarts, hname, hhead, rfl⟩
    obtain ⟨rest, rfl⟩ := List.head?_eq_some_iff.mp hhead
    exact ⟨hstarts, stretch, rest, rfl, hname, rfl⟩

theorem replaceCalls_cons_of_not_isPlain {mark : Char} (hmark : isPlain mark = false) :
    replaceCalls callee build previous (mark :: rest) =
      mark :: replaceCalls callee build (some mark) rest := by
  have hnone : callee previous (mark :: rest) = none :=
    hcallee.eq_none_of_head (by rintro character ⟨⟩; exact hmark)
  rw [replaceCalls, hnone]

/-- A stretch without a callee at its end stays as it is. -/
theorem replaceCalls_stretch (hplain : stretch.all isPlain)
    (hafter : ∀ character ∈ after.head?, isPlain character = false)
    (hsplit : after.head? = some '(' → splitCallee isCallee previous stretch = none) :
    replaceCalls callee build previous (stretch ++ after) =
      stretch ++ replaceCalls callee build none after := by
  induction stretch generalizing previous with
  | nil =>
    cases after with
    | nil => rw [List.nil_append, List.nil_append, replaceCalls, replaceCalls]
    | cons mark rest =>
      have hmark := hafter mark rfl
      rw [List.nil_append, List.nil_append, replaceCalls_cons_of_not_isPlain hcallee hmark,
        replaceCalls_cons_of_not_isPlain hcallee hmark]
  | cons character stretch ih =>
    have hnone : callee previous (character :: stretch ++ after) = none := by
      rw [Option.eq_none_iff_forall_ne_some]
      intro length hfound
      obtain ⟨hstarts, hname, hhead, -⟩ := (hcallee.found_append_iff hplain hafter).mp hfound
      have hnone := hsplit hhead
      simp [splitCallee, hstarts, hname] at hnone
    rw [List.all_cons, Bool.and_eq_true] at hplain
    rw [List.cons_append] at hnone ⊢
    rw [replaceCalls, hnone]
    dsimp only
    rw [ih hplain.2, List.cons_append]
    intro hhead
    have hrest := hsplit hhead
    rw [splitCallee] at hrest
    split at hrest
    · simp at hrest
    · simpa using hrest

omit hcallee in
/-- Where a callee is found and its parentheses match, its call is replaced or kept. -/
theorem replaceCalls_of_found {name : List Char} {distance : Nat} (hnonempty : name ≠ [])
    (hfound : callee previous (name ++ '(' :: rest) = some name.length)
    (hgroup : groupLength ('(' :: rest) = some (distance + 1)) :
    replaceCalls callee build previous (name ++ '(' :: rest) =
      match build name (replaceCalls callee build none (rest.take distance)) with
      | none => name ++ '(' :: replaceCalls callee build (some '(') rest
      | some replacement =>
        replacement ++ replaceCalls callee build (some ')') (rest.drop (distance + 1)) := by
  have hcall : (name ++ '(' :: rest).drop name.length = '(' :: rest := List.drop_left
  have hinner : (name ++ '(' :: rest).drop (name.length + 1) = rest := by simp
  have hname : (name ++ '(' :: rest).take name.length = name := List.take_left
  have hkept : (name ++ '(' :: rest).take (name.length + 1) = name ++ ['('] := by
    simp [List.take_append]
  obtain ⟨first, more, rfl⟩ := List.exists_cons_of_ne_nil hnonempty
  rw [List.cons_append] at hfound hcall hinner hname hkept ⊢
  rw [replaceCalls, hfound]
  simp only [hcall, hinner, hname, hkept, hgroup, Option.bind_eq_bind, Option.bind_some,
    Nat.add_sub_cancel]
  cases build (first :: more) (replaceCalls callee build none (rest.take distance)) with
  | none => simp
  | some replacement => rfl

omit hcallee in
/-- Where a callee is found and nothing is made of its call, the search goes on behind the parenthesis. -/
theorem replaceCalls_of_kept {name : List Char} (hnonempty : name ≠ [])
    (hfound : callee previous (name ++ '(' :: rest) = some name.length)
    (hkept : ∀ distance, groupLength ('(' :: rest) = some distance →
      build name (replaceCalls callee build none (rest.take (distance - 1))) = none) :
    replaceCalls callee build previous (name ++ '(' :: rest) =
      name ++ '(' :: replaceCalls callee build (some '(') rest := by
  have hcall : (name ++ '(' :: rest).drop name.length = '(' :: rest := List.drop_left
  have hinner : (name ++ '(' :: rest).drop (name.length + 1) = rest := by simp
  have hname : (name ++ '(' :: rest).take name.length = name := List.take_left
  have htake : (name ++ '(' :: rest).take (name.length + 1) = name ++ ['('] := by
    simp [List.take_append]
  obtain ⟨first, more, rfl⟩ := List.exists_cons_of_ne_nil hnonempty
  rw [List.cons_append] at hfound hcall hinner hname htake ⊢
  rw [replaceCalls, hfound]
  simp only [hcall, hinner, hname, htake]
  cases hgroup : groupLength ('(' :: rest) with
  | none => simp
  | some distance => simp [hkept distance hgroup]

/-- A stretch with a callee at its end: what stands in front of the callee stays as it is. -/
theorem replaceCalls_callee (hplain : stretch.all isPlain) {front name : List Char} {distance : Nat}
    (hsplit : splitCallee isCallee previous stretch = some (front, name))
    (hgroup : groupLength ('(' :: rest) = some (distance + 1)) :
    replaceCalls callee build previous (stretch ++ '(' :: rest) = front ++
      match build name (replaceCalls callee build none (rest.take distance)) with
      | none => name ++ '(' :: replaceCalls callee build (some '(') rest
      | some replacement =>
        replacement ++ replaceCalls callee build (some ')') (rest.drop (distance + 1)) := by
  have hparenthesis : ∀ character ∈ ('(' :: rest).head?, isPlain character = false := by
    rintro character ⟨⟩
    rfl
  induction stretch generalizing previous front with
  | nil => simp [splitCallee] at hsplit
  | cons character stretch ih =>
    have hfound_iff : ∀ length, callee previous (character :: stretch ++ '(' :: rest) = some length ↔
        startsWord previous ∧ isCallee (character :: stretch) ∧ ('(' :: rest).head? = some '(' ∧
          length = (character :: stretch).length :=
      fun length => hcallee.found_append_iff hplain hparenthesis
    rw [splitCallee] at hsplit
    by_cases hhere : startsWord previous && isCallee (character :: stretch)
    · obtain ⟨rfl, rfl⟩ : [] = front ∧ character :: stretch = name := by
        simpa [hhere] using hsplit
      rw [Bool.and_eq_true] at hhere
      exact replaceCalls_of_found (List.cons_ne_nil _ _)
        ((hfound_iff _).mpr ⟨hhere.1, hhere.2, rfl, rfl⟩) hgroup
    · rw [if_neg hhere] at hsplit
      obtain ⟨⟨front', name'⟩, hrest, heq⟩ := Option.map_eq_some_iff.mp hsplit
      obtain ⟨rfl, rfl⟩ : character :: front' = front ∧ name' = name := by simpa using heq
      have hnone : callee previous (character :: stretch ++ '(' :: rest) = none := by
        rw [Option.eq_none_iff_forall_ne_some]
        intro length hfound
        obtain ⟨hstarts, hname, -, -⟩ := (hfound_iff length).mp hfound
        exact hhere (by simp [hstarts, hname])
      rw [List.all_cons, Bool.and_eq_true] at hplain
      rw [List.cons_append] at hnone ⊢
      rw [replaceCalls, hnone]
      dsimp only
      rw [ih hplain.2 hrest, List.cons_append]

end

/-! ## Replacing along a forest -/

/-- Replacing calls in the text of a forest is rewriting the forest, also in front of a closer, where
the search goes on. -/
theorem replaceCalls_text (hcallee : Recognises callee isCallee) (forest : Forest)
    (hstarts : startsWord previous) (hafter : ∀ character ∈ after.head?, isCloser character) :
    replaceCalls callee build previous (forest.text ++ after) =
      forest.rewrite isCallee build ++ replaceCalls callee build none after := by
  induction forest generalizing previous after with
  | leaf stretch =>
    refine replaceCalls_stretch hcallee stretch.plain ?_ ?_
    · intro character hmem
      exact isPlain_of_isCloser (hafter character hmem)
    · intro hhead
      exact absurd (hafter '(' hhead) (by decide)
  | group stretch bracket inside rest ihInside ihRest =>
    -- inside a group that is kept the search goes on up to its closer, and behind it
    have hkept : replaceCalls callee build (some bracket.opener)
        (inside.text ++ bracket.closer :: (rest.text ++ after)) =
        inside.rewrite isCallee build ++ bracket.closer :: (rest.rewrite isCallee build ++
          replaceCalls callee build none after) := by
      have hopened : startsWord (some bracket.opener) := by cases bracket <;> decide
      have hclosed : startsWord (some bracket.closer) := by cases bracket <;> decide
      rw [ihInside hopened (by rintro character ⟨⟩; exact bracket.isCloser_closer),
        replaceCalls_cons_of_not_isPlain hcallee (isPlain_of_isCloser bracket.isCloser_closer),
        ihRest hclosed hafter]
    have hopener : isPlain bracket.opener = false := isPlain_of_isOpener bracket.isOpener_opener
    rw [Forest.text, List.append_assoc, List.cons_append, List.append_assoc, List.cons_append]
    have hsame : splitCallee isCallee previous stretch.text =
        splitCallee isCallee none stretch.text := splitCallee_of_startsWord hstarts _
    by_cases hcall : bracket = .round → splitCallee isCallee none stretch.text = none
    · have hnone : (bracket.opener :: (inside.text ++ bracket.closer :: (rest.text ++ after))).head? =
          some '(' → splitCallee isCallee previous stretch.text = none := by
        intro hhead
        rw [hsame]
        exact hcall (Bracket.eq_of_opener_eq (Option.some.inj hhead))
      rw [replaceCalls_stretch hcallee stretch.plain (by rintro character ⟨⟩; exact hopener) hnone,
        replaceCalls_cons_of_not_isPlain hcallee hopener, hkept,
        Forest.rewrite_of_split_none hcall]
      simp
    · rw [Classical.not_imp] at hcall
      obtain ⟨rfl, hsplit⟩ := hcall
      obtain ⟨⟨front, name⟩, hsplit⟩ := Option.ne_none_iff_exists'.mp hsplit
      have harguments : replaceCalls callee build none inside.text =
          inside.rewrite isCallee build := by
        have hinside : replaceCalls callee build none (inside.text ++ []) =
            inside.rewrite isCallee build ++ replaceCalls callee build none [] :=
          ihInside rfl (by simp)
        simpa [replaceCalls] using hinside
      have hbehind : replaceCalls callee build (some ')') (rest.text ++ after) =
          rest.rewrite isCallee build ++ replaceCalls callee build none after :=
        ihRest (by decide) hafter
      have htake : (inside.text ++ ')' :: (rest.text ++ after)).take inside.text.length =
          inside.text := List.take_left
      have hdrop : (inside.text ++ ')' :: (rest.text ++ after)).drop (inside.text.length + 1) =
          rest.text ++ after := by simp
      have hround : replaceCalls callee build (some '(')
          (inside.text ++ ')' :: (rest.text ++ after)) = inside.rewrite isCallee build ++
            ')' :: (rest.rewrite isCallee build ++ replaceCalls callee build none after) := hkept
      rw [Forest.rewrite_of_split_some hsplit]
      rw [← hsame] at hsplit
      refine (replaceCalls_callee hcallee stretch.plain hsplit
        (inside.groupLength_text (rest.text ++ after))).trans ?_
      rw [htake, harguments, hdrop, hbehind]
      cases build name (inside.rewrite isCallee build) with
      | none => simp [hround]
      | some replacement => simp

end

/-- In a balanced text without quotes, backticks and slashes, state setters become assignments and
requests become fetches as the one bracket forest of the text is rewritten from the inside to the
outside, whatever calls are preserved. -/
theorem replaceCalls_eq_rewrite (settings : TransformSettings) (text : List Char)
    (hliterals : ∀ character ∈ text,
      isQuote character = false ∧ character ≠ '\x60' ∧ character ≠ '/')
    (hbalanced : isBalanced [] text) :
    ∃ forest : Forest, forest.text = text ∧ (∀ other : Forest, other.text = text → other = forest) ∧
      assignState settings text =
        forest.rewrite isSetter (setterToAssignment settings.preservedCalls) ∧
      fetchData {} text = forest.rewrite (· == "axios.get".toList) requestToFetch := by
  obtain ⟨forest, rfl⟩ := exists_forest hliterals hbalanced
  have hrewrite : ∀ {callee isCallee build}, Recognises callee isCallee →
      replaceCalls callee build none forest.text = forest.rewrite isCallee build := by
    intro callee isCallee build hcallee
    have htext : replaceCalls callee build none (forest.text ++ []) =
        forest.rewrite isCallee build ++ replaceCalls callee build none [] :=
      replaceCalls_text hcallee forest rfl (by simp)
    simpa [replaceCalls] using htext
  refine ⟨forest, rfl, fun other htext => Forest.text_injective htext, ?_, ?_⟩
  · exact hrewrite recognises_setterCallee
  · exact hrewrite (recognises_namedCallee (by decide) (by decide))

/-- A request in the argument of a setter in that of another one, within a call that is preserved. -/
theorem replaceCalls_eq_rewrite_nested :
    let text := "setTimeout(setA(setB([axios.get(u, v)])), 1)".toList
    (∀ character ∈ text, isQuote character = false ∧ character ≠ '\x60' ∧ character ≠ '/') ∧
      isBalanced [] text ∧
      ∃ forest : Forest, forest.text = text ∧
        (∀ other : Forest, other.text = text → other = forest) ∧
        assignState {} text =
          forest.rewrite isSetter (setterToAssignment ({} : TransformSettings).preservedCalls) ∧
        fetchData {} text = forest.rewrite (· == "axios.get".toList) requestToFetch := by
  intro text
  have hliterals : ∀ character ∈ text,
      isQuote character = false ∧ character ≠ '\x60' ∧ character ≠ '/' := by simp [text, isQuote]
  have hbalanced : isBalanced [] text := by decide
  exact ⟨hliterals, hbalanced, replaceCalls_eq_rewrite {} text hliterals hbalanced⟩

end PageGraft.Script
