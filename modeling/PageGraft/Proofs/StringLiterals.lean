import PageGraft.Proofs.StateAssignment

/-!
# Strings under substitution

The substitutions of a clean-up read code as a text: a word in a string literal is a word to them like any
other. Here the strings of a code are those that the bracket reader skips, when it takes one lexeme after
the other to the end of the code (`lexemes`, `IsString`). `string_stays_iff` says exactly which of them
each substitution leaves as they are, and `strings_changed` shows that none of the four leaves all of them
as they are.
-/

namespace PageGraft.Script

open PageGraft.Page PageGraft.Text PageGraft.Settings

/-! ## The strings of a code -/

/-- The lexemes of a code with their texts, brackets being characters like others. There are none if a
literal or a comment does not end. -/
def lexemes (previous : Option Char) (before : List Char) :
    List Char → Option (List (Lexeme × List Char))
  | [] => some []
  | character :: rest =>
    (lexeme? previous before (character :: rest)).bind fun lexeme =>
      (lexemes (lexeme.last previous character)
        (((character :: rest).take lexeme.width).reverse ++ before)
        ((character :: rest).drop lexeme.width)).map
          ((lexeme, (character :: rest).take lexeme.width) :: ·)
termination_by text => text.length
decreasing_by
  have := lexeme.width_pos
  simp only [List.length_drop, List.length_cons]
  omega

/-- A string literal of a code that has lexemes, with what stands before and behind it. -/
def IsString (code front literal after : List Char) : Prop :=
  ∃ earlier later lexeme,
    lexemes none [] code = some (earlier ++ (lexeme, literal) :: later) ∧
      earlier.flatMap Prod.snd = front ∧ later.flatMap Prod.snd = after ∧
      literal.head?.any isQuote

section

variable {previous : Option Char} {before code : List Char} {pieces : List (Lexeme × List Char)}

/-- The first lexeme is the one that is read at the front, and the others come behind it. -/
theorem exists_of_lexemes_cons {lexeme : Lexeme} {piece : List Char}
    (hpieces : lexemes previous before code = some ((lexeme, piece) :: pieces)) :
    ∃ previous' before', lexeme? previous before code = some lexeme ∧
      piece = code.take lexeme.width ∧
      lexemes previous' before' (code.drop lexeme.width) = some pieces := by
  cases code with
  | nil =>
    rw [lexemes] at hpieces
    simp at hpieces
  | cons character rest =>
    rw [lexemes] at hpieces
    obtain ⟨found, hlexeme, hmore⟩ := Option.bind_eq_some_iff.mp hpieces
    obtain ⟨more, hlater, hcons⟩ := Option.map_eq_some_iff.mp hmore
    obtain ⟨hfirst, rfl⟩ := List.cons.inj hcons
    obtain ⟨rfl, rfl⟩ := Prod.mk.inj hfirst
    exact ⟨_, _, hlexeme, rfl, hlater⟩

/-- The lexemes of a code make up the code. -/
theorem flatMap_lexemes (hpieces : lexemes previous before code = some pieces) :
    pieces.flatMap Prod.snd = code := by
  induction pieces generalizing previous before code with
  | nil =>
    cases code with
    | nil => rfl
    | cons character rest =>
      rw [lexemes] at hpieces
      obtain ⟨_, -, hmore⟩ := Option.bind_eq_some_iff.mp hpieces
      simp at hmore
  | cons first pieces ih =>
    obtain ⟨_, _, -, hpiece, hlater⟩ := exists_of_lexemes_cons hpieces
    rw [List.flatMap_cons, hpiece, ih hlater, List.take_append_drop]

/-- Every lexeme of a code is the one that is read where it stands. -/
theorem lexeme?_of_lexemes {earlier later : List (Lexeme × List Char)} {lexeme : Lexeme}
    {piece : List Char}
    (hpieces : lexemes previous before code = some (earlier ++ (lexeme, piece) :: later)) :
    ∃ previous' before', lexeme? previous' before' (piece ++ later.flatMap Prod.snd) = some lexeme ∧
      piece.length = min lexeme.width (piece ++ later.flatMap Prod.snd).length := by
  induction earlier generalizing previous before code with
  | nil =>
    obtain ⟨_, _, hlexeme, hpiece, -⟩ := exists_of_lexemes_cons hpieces
    have hcode : piece ++ later.flatMap Prod.snd = code := flatMap_lexemes hpieces
    rw [hcode, hpiece, List.length_take]
    exact ⟨previous, before, hlexeme, rfl⟩
  | cons first earlier ih =>
    obtain ⟨_, _, -, -, hlater⟩ := exists_of_lexemes_cons hpieces
    exact ih hlater

end

section

variable {code front literal after : List Char}

theorem IsString.code_eq (hstring : IsString code front literal after) :
    code = front ++ (literal ++ after) := by
  obtain ⟨earlier, later, lexeme, hpieces, rfl, rfl, -⟩ := hstring
  rw [← flatMap_lexemes hpieces, List.flatMap_append, List.flatMap_cons]

/-- A string begins with a quote and ends with the next one that is not escaped. -/
theorem IsString.exists_body (hstring : IsString code front literal after) :
    ∃ quote body, literal = quote :: body ∧ isQuote quote ∧ IsStringBody quote body := by
  obtain ⟨earlier, later, lexeme, hpieces, -, -, hquote⟩ := hstring
  obtain ⟨previous, before, hlexeme, hlength⟩ := lexeme?_of_lexemes hpieces
  cases literal with
  | nil => simp at hquote
  | cons quote inner =>
    have hquote : isQuote quote := by simpa using hquote
    rw [List.cons_append, lexeme?, opening_of_isQuote hquote] at hlexeme
    cases hread : stringLength quote (inner ++ later.flatMap Prod.snd) with
    | none => simp [hread, Opening.ofLength] at hlexeme
    | some further =>
      obtain rfl : Lexeme.literal further = lexeme := by
        simpa [hread, Opening.ofLength, hquote] using hlexeme
      obtain ⟨body, rest, htext, rfl, hbody⟩ := exists_of_stringLength hread
      have hinner : inner.length = body.length := by
        have hlengths := congrArg List.length htext
        simp only [Lexeme.width, List.length_append, List.length_cons] at hlength hlengths
        omega
      obtain ⟨rfl, -⟩ := List.append_inj htext hinner
      exact ⟨quote, inner, rfl, hquote, hbody⟩

end

section

variable {previous : Option Char} {before : List Char}

/-- A lexeme that is read at the front comes before those behind it. -/
theorem lexemes_piece {lexeme : Lexeme} {character : Char} {inner rest : List Char}
    (hlexeme : lexeme? previous before (character :: (inner ++ rest)) = some lexeme)
    (hwidth : lexeme.width = inner.length + 1) :
    lexemes previous before (character :: (inner ++ rest)) =
      (lexemes (lexeme.last previous character) ((character :: inner).reverse ++ before) rest).map
        ((lexeme, character :: inner) :: ·) := by
  have hpiece : (character :: (inner ++ rest)).take lexeme.width = character :: inner := by
    rw [hwidth, List.take_succ_cons, List.take_left]
  have hrest : (character :: (inner ++ rest)).drop lexeme.width = rest := by
    rw [hwidth, List.drop_succ_cons, List.drop_left]
  rw [lexemes, hlexeme, Option.bind_some, hpiece, hrest]

/-- Begins no string, template literal, comment or regular expression. -/
def isUnmarked (character : Char) : Bool :=
  !isQuote character && character ≠ '\x60' && character ≠ '/'

/-- The lexemes of a code that is read character by character. -/
def characters (code : List Char) : List (Lexeme × List Char) :=
  code.map fun character => (.character, [character])

theorem flatMap_characters (code : List Char) : (characters code).flatMap Prod.snd = code := by
  simp [characters, List.flatMap_map]

theorem lexeme?_of_isUnmarked {character : Char} {rest : List Char} (hunmarked : isUnmarked character) :
    lexeme? previous before (character :: rest) = some .character := by
  simp only [isUnmarked, Bool.and_eq_true, Bool.not_eq_true', decide_eq_true_eq] at hunmarked
  obtain ⟨⟨hquote, hbacktick⟩, hslash⟩ := hunmarked
  exact lexeme?_of_ne hquote hbacktick hslash

theorem lexemes_unmarked {front : List Char} (hfront : front.all isUnmarked) (previous : Option Char)
    (before rest : List Char) :
    ∃ previous' before', lexemes previous before (front ++ rest) =
      (lexemes previous' before' rest).map (characters front ++ ·) := by
  induction front generalizing previous before with
  | nil => exact ⟨previous, before, by simp [characters]⟩
  | cons character front ih =>
    rw [List.all_cons, Bool.and_eq_true] at hfront
    have hlexeme : lexeme? previous before (character :: ([] ++ (front ++ rest))) =
        some .character := lexeme?_of_isUnmarked hfront.1
    obtain ⟨previous', before', hmore⟩ := ih hfront.2 (Lexeme.character.last previous character)
      ([character].reverse ++ before)
    refine ⟨previous', before', ?_⟩
    have hfirst := lexemes_piece hlexeme rfl
    rw [hmore, Option.map_map] at hfirst
    exact hfirst

/-- What is spelled as a string between characters that begin nothing else is a string of the code. -/
theorem isString_of_unmarked {code front after : List Char} (quote : Char) (body : List Char)
    (hcode : code = front ++ (quote :: body ++ after)) (hfront : front.all isUnmarked)
    (hafter : after.all isUnmarked) (hquote : isQuote quote)
    (hbody : stringLength quote body = some body.length) :
    IsString code front (quote :: body) after := by
  obtain ⟨previous, before, hpieces⟩ := lexemes_unmarked hfront none [] (quote :: body ++ after)
  obtain ⟨previous', before', hbehind⟩ :=
    lexemes_unmarked hafter (some quote) ((quote :: body).reverse ++ before) []
  have hlexeme : lexeme? previous before (quote :: (body ++ after)) = some (.literal body.length) :=
    lexeme?_of_isQuote hquote (stringLength_append hbody)
  simp only [List.append_nil, lexemes, Option.map_some] at hbehind
  rw [List.cons_append, lexemes_piece hlexeme rfl, Lexeme.last, hbehind, Option.map_some,
    Option.map_some, ← List.cons_append, ← hcode] at hpieces
  exact ⟨_, _, _, hpieces, flatMap_characters front, flatMap_characters after, hquote⟩

end

/-! ## Words that are replaced -/

/-- A finder that recognises one word and nothing else. -/
def FindsWord (find : Finder) (word : List Char) : Prop :=
  ∀ {previous text length}, find previous text = some length → length = word.length ∧ word <+: text

theorem findsWord_wordEnding (word : List Char) : FindsWord (wordEnding word) word := by
  intro previous text length hfound
  simp only [wordEnding, Option.ite_none_right_eq_some, Bool.and_eq_true, List.isPrefixOf_iff_prefix,
    Option.some.injEq] at hfound
  exact ⟨hfound.2.symm, hfound.1.1⟩

theorem findsWord_freeWord (word : List Char) : FindsWord (freeWord word) word := by
  intro previous text length hfound
  rw [freeWord, Option.ite_none_right_eq_some] at hfound
  exact findsWord_wordEnding word hfound.2

theorem FindsWord.findsPieces {find : Finder} {word : List Char} (hfinds : FindsWord find word)
    (hword : word ≠ []) : find.FindsPieces where
  pos hfound := hword (List.length_eq_zero_iff.mp (hfinds hfound).1.symm)
  le hfound := by
    obtain ⟨rfl, hbegins⟩ := hfinds hfound
    exact hbegins.length_le

/-- Replacing a word leaves a string as it is if and only if the word is not found in it. -/
theorem leaves_iff_passes {find : Finder} {word : List Char} (hfinds : FindsWord find word)
    (hword : word ≠ []) (hquotes : ∀ character ∈ word, isQuote character = false)
    (replacement : List Char) {code front literal after : List Char}
    (hstring : IsString code front literal after) :
    (find.substitution replacement).Leaves code front literal ↔
      find.Passes front.getLast? literal after := by
  obtain ⟨quote, body, rfl, hquote, -⟩ := hstring.exists_body
  have hpieces := hfinds.findsPieces hword
  constructor
  · exact hpieces.passes_of_stays hstring.code_eq
  · refine hpieces.stays_of_passes hstring.code_eq ?_
    intro previous text length hfound hmem
    obtain ⟨rfl, rest, rfl⟩ := hfinds hfound
    rw [List.take_left] at hmem
    exact Bool.false_ne_true ((hquotes quote hmem).symm.trans hquote)

/-! ## The substitutions of a clean-up -/

/-- Free words `undefined` are deleted. -/
def undefinedRemoval : Substitution :=
  (freeWord "undefined".toList).substitution []

/-- Lookups of the environment get their replacement. -/
def environmentReplacement (settings : TransformSettings) : Substitution :=
  (wordEnding settings.envLookup.toList).substitution settings.envReplacement.toList

/-- The identifier of the fallback data becomes its accessor. -/
def fallbackReplacement (settings : TransformSettings) : Substitution :=
  (freeWord settings.fallbackIdentifier.toList).substitution settings.fallbackAccessor.toList

/-- A clean-up consists of these four, the removal of imports, the replacement of requests, and the closing
up of blank lines. -/
theorem clean_eq (settings : TransformSettings) (code : List Char) :
    clean settings code =
      trim (blankLines.replaceAll ['\n']
        (undefinedRemoval.apply ((fallbackReplacement settings).apply
          (fetchData settings ((environmentReplacement settings).apply
            ((stateAssignment settings).apply (importStatement.replaceAll [] code))))))) := rfl

theorem removeUndefined_eq (code : List Char) : removeUndefined code = undefinedRemoval.apply code := rfl

/-- A string of a code is left as it is by the removal of `undefined` if and only if no free word
`undefined` is found in it, by the replacement of state setters if and only if no setter call that becomes
an assignment has its name or its closing parenthesis in it, and by the replacements of an environment
lookup and of a fallback identifier if and only if these are not found in it. -/
theorem string_stays_iff (settings : TransformSettings) {code front literal after : List Char}
    (hstring : IsString code front literal after) :
    (undefinedRemoval.Leaves code front literal ↔
      (freeWord "undefined".toList).Passes front.getLast? literal after) ∧
    ((stateAssignment settings).Leaves code front literal ↔
      ∀ first last, IsAssigned settings.preservedCalls none code first last →
        ¬ IsWithin front literal first ∧ ¬ IsWithin front literal last) ∧
    (settings.envLookup.toList ≠ [] →
      (∀ character ∈ settings.envLookup.toList, isQuote character = false) →
      ((environmentReplacement settings).Leaves code front literal ↔
        (wordEnding settings.envLookup.toList).Passes front.getLast? literal after)) ∧
    (settings.fallbackIdentifier.toList ≠ [] →
      (∀ character ∈ settings.fallbackIdentifier.toList, isQuote character = false) →
      ((fallbackReplacement settings).Leaves code front literal ↔
        (freeWord settings.fallbackIdentifier.toList).Passes front.getLast? literal after)) := by
  refine ⟨?_, ?_, ?_, ?_⟩
  · exact leaves_iff_passes (findsWord_freeWord _) (by simp) (by simp [isQuote]) [] hstring
  · obtain ⟨quote, body, rfl, hquote, -⟩ := hstring.exists_body
    exact stays_assignPassages_iff hquote hstring.code_eq
  · intro hlookup hquotes
    exact leaves_iff_passes (findsWord_wordEnding _) hlookup hquotes _ hstring
  · intro hidentifier hquotes
    exact leaves_iff_passes (findsWord_freeWord _) hidentifier hquotes _ hstring

set_option maxRecDepth 20000 in
/-- Nothing in the string of `warn('undefinedName');` is replaced. -/
theorem string_stays_iff_undefinedName :
    IsString "warn('undefinedName');".toList "warn(".toList "'undefinedName'".toList ");".toList ∧
      undefinedRemoval.Leaves "warn('undefinedName');".toList "warn(".toList "'undefinedName'".toList ∧
      (∀ first last, IsAssigned ["setImmediate", "setInterval", "setTimeout"] none
        "warn('undefinedName');".toList first last →
          ¬ IsWithin "warn(".toList "'undefinedName'".toList first ∧
            ¬ IsWithin "warn(".toList "'undefinedName'".toList last) ∧
      (environmentReplacement {}).Leaves "warn('undefinedName');".toList "warn(".toList
        "'undefinedName'".toList ∧
      (fallbackReplacement {}).Leaves "warn('undefinedName');".toList "warn(".toList
        "'undefinedName'".toList := by
  have hstring : IsString "warn('undefinedName');".toList "warn(".toList "'undefinedName'".toList
      ");".toList :=
    isString_of_unmarked '\'' "undefinedName'".toList (by decide) (by decide) (by decide) rfl
      (by decide)
  have hpassages : (stateAssignment {}).passages "warn('undefinedName');".toList =
      "warn('undefinedName');".toList.map Passage.kept := by
    cbv
  have hkept : (stateAssignment {}).Leaves "warn('undefinedName');".toList "warn(".toList
      "'undefinedName'".toList :=
    ⟨"warn(".toList.map .kept, ");".toList.map .kept, hpassages, oldText_kept _⟩
  obtain ⟨hundefined, hsetters, hlookup, hfallback⟩ := string_stays_iff {} hstring
  refine ⟨hstring, hundefined.mpr ?_, hsetters.mp hkept, ?_, ?_⟩
  · decide
  · exact (hlookup (by decide) (by simp [isQuote])).mpr (by decide)
  · exact (hfallback (by decide) (by simp [isQuote])).mpr (by decide)

/-- A string that is not in the new text has not been left as it is. -/
theorem not_leaves_of_changed {substitution : Substitution} {text front piece : List Char}
    (hchanged : ¬ piece <:+: substitution.apply text) : ¬ substitution.Leaves text front piece := by
  intro hleaves
  obtain ⟨before, after, -, hresult⟩ := Substitution.Leaves.apply_eq hleaves
  exact hchanged ⟨newText before, newText after, by rw [hresult, List.append_assoc]⟩

set_option maxRecDepth 20000 in
/-- Each of the four substitutions changes a string. -/
theorem strings_changed :
    (IsString "typeof a === 'undefined';".toList "typeof a === ".toList "'undefined'".toList [';'] ∧
      undefinedRemoval.apply "typeof a === 'undefined';".toList = "typeof a === '';".toList ∧
      ¬ undefinedRemoval.Leaves "typeof a === 'undefined';".toList "typeof a === ".toList
        "'undefined'".toList) ∧
    (IsString "log('setA(1)');".toList "log(".toList "'setA(1)'".toList ");".toList ∧
      (stateAssignment {}).apply "log('setA(1)');".toList = "log('a = 1');".toList ∧
      ¬ (stateAssignment {}).Leaves "log('setA(1)');".toList "log(".toList "'setA(1)'".toList) ∧
    (IsString "log('process.env.NODE_ENV');".toList "log(".toList "'process.env.NODE_ENV'".toList
        ");".toList ∧
      (environmentReplacement {}).apply "log('process.env.NODE_ENV');".toList =
        "log('(window.NODE_ENV || \"production\")');".toList ∧
      ¬ (environmentReplacement {}).Leaves "log('process.env.NODE_ENV');".toList "log(".toList
        "'process.env.NODE_ENV'".toList) ∧
    (IsString "log('fallbackData');".toList "log(".toList "'fallbackData'".toList ");".toList ∧
      (fallbackReplacement {}).apply "log('fallbackData');".toList =
        "log('getFallbackData()');".toList ∧
      ¬ (fallbackReplacement {}).Leaves "log('fallbackData');".toList "log(".toList
        "'fallbackData'".toList) := by
  have hundefined : undefinedRemoval.apply "typeof a === 'undefined';".toList =
      "typeof a === '';".toList := by decide
  have hsetter : (stateAssignment {}).apply "log('setA(1)');".toList = "log('a = 1');".toList := by
    cbv
  have hlookup : (environmentReplacement {}).apply "log('process.env.NODE_ENV');".toList =
      "log('(window.NODE_ENV || \"production\")');".toList := by decide
  have hfallback : (fallbackReplacement {}).apply "log('fallbackData');".toList =
      "log('getFallbackData()');".toList := by decide
  refine ⟨⟨?_, hundefined, not_leaves_of_changed ?_⟩, ⟨?_, hsetter, not_leaves_of_changed ?_⟩,
    ⟨?_, hlookup, not_leaves_of_changed ?_⟩, ⟨?_, hfallback, not_leaves_of_changed ?_⟩⟩
  · exact isString_of_unmarked '\'' "undefined'".toList (by decide) (by decide) (by decide) rfl
      (by decide)
  · rw [hundefined]
    decide
  · exact isString_of_unmarked '\'' "setA(1)'".toList (by decide) (by decide) (by decide) rfl
      (by decide)
  · rw [hsetter]
    decide
  · exact isString_of_unmarked '\'' "process.env.NODE_ENV'".toList (by decide) (by decide)
      (by decide) rfl (by decide)
  · rw [hlookup]
    decide
  · exact isString_of_unmarked '\'' "fallbackData'".toList (by decide) (by decide) (by decide) rfl
      (by decide)
  · rw [hfallback]
    decide

end PageGraft.Script
