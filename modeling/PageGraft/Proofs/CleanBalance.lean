import PageGraft.Proofs.Woven

/-!
# Cleaned code is balanced

Every pass of cleaning takes a woven text to a woven text (`IsWoven`), whatever the text is and in
whatever order the passes go: finders of plain pieces that find nothing in the string
(`FindsPlain`, `IsWoven.replaceFrom`), and calls whose parentheses match
(`IsWoven.replaceCalls`). The string is the one that the environment lookup puts in, and no pass after
it looks into it.

On code without literals and slashes the bracket reader finds a closing brace exactly where the brackets
match, so that braces around it still match after cleaning (`findMatching_clean`).
-/

namespace PageGraft.Script

open PageGraft.Page PageGraft.Text PageGraft.Settings

/-! ## Replacing plain pieces -/

theorem all_isPlain_of_isSpace {run : List Char} (hspaces : run.all isSpace) : run.all isPlain := by
  rw [List.all_eq_true] at hspaces ⊢
  exact fun character hmem => isPlain_of_isSpace (hspaces character hmem)

theorem all_isPlain_of_isNamePart {run : List Char} (hname : run.all isNamePart) :
    run.all isPlain := by
  rw [List.all_eq_true] at hname ⊢
  exact fun character hmem => isPlain_of_isNamePart (hname character hmem)

/-- A finder whose pieces are plain and not empty, and which finds nothing in the string that holds
`word`. -/
structure FindsPlain (find : Finder) (word : List Char) : Prop where
  nil : ∀ {previous}, find previous [] = none
  pos : ∀ {previous text length}, find previous text = some length → 0 < length
  plain : ∀ {previous text length}, find previous text = some length →
    (text.take length).all isPlain
  string : ∀ {previous rest}, find.Passes previous ('"' :: (word ++ ['"'])) rest

variable {word expected text replacement : List Char} {find : Finder} {previous : Option Char}

/-- Replacing plain pieces by balanced text keeps a text balanced. -/
theorem IsWoven.replaceFrom (hwoven : IsWoven word expected text) (hfind : FindsPlain find word)
    (hreplacement : IsWoven word [] replacement) (previous : Option Char) :
    IsWoven word expected (find.replaceFrom replacement 0 previous text) := by
  induction hlength : text.length using Nat.strong_induction_on generalizing expected text previous with
  | _ length ih =>
    subst hlength
    cases text with
    | nil => simpa [Finder.replaceFrom, hfind.nil] using hwoven
    | cons character rest =>
      cases hfound : find previous (character :: rest) with
      | some length =>
        obtain ⟨further, rfl⟩ := Nat.exists_eq_add_one.mpr (hfind.pos hfound)
        have hplain := hfind.plain hfound
        rw [List.take_succ_cons] at hplain
        have hbehind : IsWoven word expected (rest.drop further) := by
          apply drop_plain hplain
          rwa [List.cons_append, List.take_append_drop]
        simp only [Finder.replaceFrom, hfound]
        rw [replaceFrom_skip fun _ => hfind.nil]
        exact hreplacement.append (ih _ (by simp) hbehind _ rfl)
      | none =>
        by_cases hquote : character = '"'
        · obtain rfl := hquote
          obtain ⟨behind, rfl, hbehind⟩ := hwoven.of_quote
          have hpassed : find.replaceFrom replacement 0 previous ('"' :: (word ++ ['"']) ++ behind) =
              '"' :: (word ++ ['"']) ++ find.replaceFrom replacement 0
                (('"' :: (word ++ ['"'])).getLast?.or previous) behind :=
            replaceFrom_append hfind.string
          rw [List.cons_append, List.append_assoc, List.singleton_append] at hpassed
          rw [hpassed, List.cons_append, List.append_assoc]
          exact .string (ih _ (by simp; omega) hbehind _ rfl)
        · simp only [Finder.replaceFrom, hfound]
          exact hwoven.of_behind hquote fun hrest => ih _ (by simp) hrest _ rfl

/-! ## The finders -/

/-- A word that does not occur between quotes finds nothing in the string. -/
theorem findsPlain_wordEnding {name : List Char} (hplain : name.all isPlain) (hnonempty : name ≠ [])
    (hinside : ¬ name <:+: '"' :: word) : FindsPlain (wordEnding name) word where
  nil := by
    intro previous
    obtain ⟨first, name, rfl⟩ := List.exists_cons_of_ne_nil hnonempty
    rfl
  pos := by
    intro previous text length hfound
    simp only [wordEnding, Option.ite_none_right_eq_some, Option.some.injEq] at hfound
    rw [← hfound.2]
    exact List.length_pos_iff.mpr hnonempty
  plain := by
    intro previous text length hfound
    simp only [wordEnding, Option.ite_none_right_eq_some, Option.some.injEq, Bool.and_eq_true,
      List.isPrefixOf_iff_prefix] at hfound
    obtain ⟨⟨⟨rest, rfl⟩, -⟩, rfl⟩ := hfound
    rwa [List.take_left]
  string := by
    intro previous rest left right hright hsplit
    have hquote : '"' ∉ name := by
      intro hmem
      exact absurd (List.all_eq_true.mp hplain _ hmem) (by decide)
    -- what begins with the name would hold it in front of the closing quote
    have hbegins : ¬ name <+: right ++ rest := by
      intro hbegun
      rw [← List.cons_append] at hsplit
      obtain ⟨run, hrun, rfl⟩ := exists_suffix_of_concat hsplit hright
      rw [List.append_assoc, List.singleton_append, prefix_append_cons hquote] at hbegun
      exact hinside (hbegun.isInfix.trans hrun.isInfix)
    simp [wordEnding, hbegins]

/-- A finder that finds less finds plain pieces too. -/
theorem findsPlain_freeWord {name : List Char} (hfind : FindsPlain (wordEnding name) word) :
    FindsPlain (freeWord name) word where
  nil := by
    intro previous
    simp [freeWord, hfind.nil]
  pos := by
    intro previous text length hfound
    rw [freeWord, Option.ite_none_right_eq_some] at hfound
    exact hfind.pos hfound.2
  plain := by
    intro previous text length hfound
    rw [freeWord, Option.ite_none_right_eq_some] at hfound
    exact hfind.plain hfound.2
  string := by
    intro previous rest left right hright hsplit
    rw [freeWord, hfind.string left right hright hsplit, ite_self]

theorem findsPlain_blankLines (hnewline : '\n' ∉ word) : FindsPlain blankLines word where
  nil := rfl
  pos := by
    intro previous text length hfound
    obtain ⟨run, rest, -, -, rfl⟩ := blankLines_eq_some hfound
    exact Nat.succ_pos _
  plain := by
    intro previous text length hfound
    unfold blankLines at hfound
    split at hfound
    · rename_i rest
      split at hfound
      · simp at hfound
      · obtain rfl : (dropEndWhile (· ≠ '\n') (rest.takeWhile isSpace)).length + 1 = length := by
          simpa using hfound
        have hbegun : dropEndWhile (· ≠ '\n') (rest.takeWhile isSpace) <+: rest.takeWhile isSpace := by
          obtain ⟨tail, -, hsplit⟩ := dropEndWhile_append (· ≠ '\n') (rest.takeWhile isSpace)
          exact ⟨tail, hsplit⟩
        rw [List.take_succ_cons, ← List.prefix_iff_eq_take.mp
          (hbegun.trans (List.takeWhile_prefix _)), List.all_cons, Bool.and_eq_true]
        refine ⟨by decide, all_isPlain_of_isSpace (List.all_eq_true.mpr ?_)⟩
        exact fun character hmem => List.mem_takeWhile_imp (hbegun.subset hmem)
    · simp at hfound
  string := by
    intro previous rest left right hright hsplit
    obtain ⟨first, right, rfl⟩ := List.exists_cons_of_ne_nil hright
    have hmem : first ∈ '"' :: (word ++ ['"']) := by
      rw [hsplit]
      exact List.mem_append_right _ List.mem_cons_self
    have hfirst : first ≠ '\n' := by
      rintro rfl
      simp [hnewline] at hmem
    unfold blankLines
    split
    · rename_i heq
      exact absurd (List.cons.inj heq).1 hfirst
    · rfl

/-! ## Trimming -/

theorem IsWoven.trim (hwoven : IsWoven word [] text) : IsWoven word [] (trim text) := by
  have hfront : IsWoven word [] (text.dropWhile isSpace) := by
    apply drop_plain (all_isPlain_of_isSpace (List.all_takeWhile (p := isSpace) (l := text)))
    rwa [List.takeWhile_append_dropWhile]
  obtain ⟨run, hrun, hsplit⟩ := dropEndWhile_append isSpace (text.dropWhile isSpace)
  rw [← hsplit] at hfront
  exact of_append_plain (all_isPlain_of_isSpace hrun) hfront

theorem IsWoven.firstArgument (hword : word.all isNamePart) (hwoven : IsWoven word [] text) :
    IsWoven word [] (firstArgument text) := by
  rw [Script.firstArgument]
  cases hdistance : topLevelDistance (· == ',') text with
  | none => exact hwoven.trim
  | some distance => exact (hwoven.take_topLevelDistance hword hdistance).trim

/-! ## Replacing calls -/

section

variable {callee : Finder} {isCallee : List Char → Bool}
  {build : List Char → List Char → Option (List Char)}

/-- The search for calls goes over the string. -/
theorem replaceCalls_string (hcallee : Recognises callee isCallee) (hword : word.all isNamePart)
    (rest : List Char) : replaceCalls callee build previous ('"' :: (word ++ '"' :: rest)) =
      '"' :: (word ++ '"' :: replaceCalls callee build (some '"') rest) := by
  have hquote : isPlain '"' = false := by decide
  rw [replaceCalls_cons_of_not_isPlain hcallee hquote,
    replaceCalls_stretch hcallee (all_isPlain_of_isNamePart hword),
    replaceCalls_cons_of_not_isPlain hcallee hquote]
  · intro character hhead
    obtain rfl := Option.some.inj hhead
    exact hquote
  · intro hhead
    exact absurd (Option.some.inj hhead) (by decide)

/-- Replacing calls keeps a text balanced if what is made of a callee and balanced arguments is
balanced. -/
theorem IsWoven.replaceCalls (hcallee : Recognises callee isCallee) (hword : word.all isNamePart)
    (hbuild : ∀ {name arguments replacement}, isCallee name → IsWoven word [] arguments →
      build name arguments = some replacement → IsWoven word [] replacement)
    (hwoven : IsWoven word expected text) :
    IsWoven word expected (replaceCalls callee build previous text) := by
  induction hlength : text.length using Nat.strong_induction_on generalizing expected text previous with
  | _ length ih =>
    subst hlength
    cases text with
    | nil => simpa [Script.replaceCalls] using hwoven
    | cons character rest =>
      cases hfound : callee previous (character :: rest) with
      | some length =>
        obtain ⟨-, name, behind, htext, hname, rfl⟩ := hcallee.found_iff.mp hfound
        obtain ⟨hplain, hnonempty⟩ := hcallee.plain hname
        rw [htext] at hfound hwoven ih ⊢
        have hparenthesis : IsWoven word (')' :: expected) behind :=
          (hwoven.drop_plain hplain).of_opener rfl
        obtain ⟨arguments, after, rfl, harguments, hafter⟩ := hparenthesis.exists_inside
        have hgroup : groupLength ('(' :: (arguments ++ ')' :: after)) =
            some (arguments.length + 1) := harguments.groupLength_eq hword rfl after
        rw [replaceCalls_of_found hnonempty hfound hgroup, List.take_left]
        have hinner : IsWoven word [] (Script.replaceCalls callee build none arguments) :=
          ih arguments.length (by simp; omega) harguments rfl
        cases hreplacement : build name (Script.replaceCalls callee build none arguments) with
        | none =>
          exact (IsWoven.of_plain hplain).append (.opens rfl (ih _ (by simp; omega) hparenthesis rfl))
        | some replacement =>
          have hdrop : (arguments ++ ')' :: after).drop (arguments.length + 1) = after := by simp
          rw [hdrop]
          exact (hbuild hname hinner hreplacement).append (ih _ (by simp; omega) hafter rfl)
      | none =>
        by_cases hquote : character = '"'
        · obtain rfl := hquote
          obtain ⟨behind, rfl, hbehind⟩ := hwoven.of_quote
          rw [replaceCalls_string hcallee hword]
          exact .string (ih _ (by simp; omega) hbehind rfl)
        · rw [Script.replaceCalls, hfound]
          exact hwoven.of_behind hquote fun hrest => ih _ (by simp) hrest rfl

end

/-! ## What is made of calls -/

theorem isPlain_toLower {character : Char} (hupper : character.isUpper) :
    isPlain character.toLower := by
  have hcodes : ∀ code ∈ List.range' 65 26, isPlain (Char.ofNat code).toLower := by decide
  have hcode : character.toNat ∈ List.range' 65 26 := by
    simp only [Char.isUpper, ge_iff_le, decide_eq_true_eq, UInt32.le_iff_toNat_le] at hupper
    rw [List.mem_range'_1]
    exact ⟨hupper.1, Nat.lt_succ_of_le hupper.2⟩
  have hlower := hcodes _ hcode
  rwa [Char.ofNat_toNat] at hlower

/-- The assignment that a setter becomes is balanced if the arguments are. -/
theorem IsWoven.setterToAssignment {preserved : List String} {name arguments : List Char}
    (hsetter : isSetter name) (harguments : IsWoven word [] arguments)
    (hmade : setterToAssignment preserved name arguments = some replacement) :
    IsWoven word [] replacement := by
  unfold Script.setterToAssignment at hmade
  split at hmade
  · simp at hmade
  · obtain rfl := Option.some.inj hmade
    obtain ⟨capital, rest, rfl, hupper, hrest⟩ := isSetter_iff.mp hsetter
    have hname : (decapitalise (capital :: rest) ++ " = ".toList).all isPlain := by
      rw [List.all_append, Bool.and_eq_true, decapitalise, List.all_cons, Bool.and_eq_true]
      exact ⟨⟨isPlain_toLower hupper, all_isPlain_of_isNamePart hrest⟩, by decide⟩
    exact (IsWoven.of_plain hname).append harguments

/-- A text of brackets and plain characters is woven if its brackets are balanced. -/
theorem IsWoven.of_isBalanced
    (hliterals : ∀ character ∈ text,
      isQuote character = false ∧ character ≠ '\x60' ∧ character ≠ '/')
    (hbalanced : isBalanced expected text) : IsWoven word expected text := by
  induction text generalizing expected with
  | nil =>
    obtain rfl : expected = [] := by simpa [isBalanced] using hbalanced
    exact .nil
  | cons character rest ih =>
    have hrest := fun other hmem => hliterals other (List.mem_cons_of_mem _ hmem)
    unfold isBalanced at hbalanced
    cases hopener : closerOf character with
    | some closer =>
      rw [hopener] at hbalanced
      exact .opens hopener (ih hrest hbalanced)
    | none =>
      simp only [hopener] at hbalanced
      cases hcloser : isCloser character with
      | true =>
        rw [hcloser, if_pos rfl] at hbalanced
        cases expected with
        | nil => simp at hbalanced
        | cons closer outer =>
          obtain ⟨rfl, hbehind⟩ : closer = character ∧ isBalanced outer rest := by
            simpa using hbalanced
          exact .closes hcloser (ih hrest hbehind)
      | false =>
        rw [hcloser, if_neg Bool.false_ne_true] at hbalanced
        have hplain : isPlain character :=
          isPlain_of_isLiteralFree (hliterals character List.mem_cons_self)
            (by simp [isOpener, hopener]) hcloser
        exact .plain hplain (ih hrest hbalanced)

/-- The fetch that a request becomes is balanced if the arguments are. -/
theorem IsWoven.requestToFetch {name arguments : List Char} (hword : word.all isNamePart)
    (harguments : IsWoven word [] arguments)
    (hmade : requestToFetch name arguments = some replacement) : IsWoven word [] replacement := by
  obtain rfl := Option.some.inj hmade
  have hend : IsWoven word [] ".then(res => res.json())".toList :=
    .of_isBalanced (by simp [isQuote]) (by decide)
  have hcall : IsWoven word [] ("fetch".toList ++ '(' ::
      (Script.firstArgument arguments ++ ')' :: ".then(res => res.json())".toList)) :=
    (IsWoven.of_plain (by decide)).append (.group rfl (harguments.firstArgument hword) hend)
  simpa using hcall

/-! ## Import statements -/

/-- A text in which no module can be named. -/
def HasNoQuote (text : List Char) : Prop :=
  ∀ character ∈ text, isModuleQuote character = false

section

variable {rest : List Char}

theorem dropPiece_subset {piece : List Char} (hrest : dropPiece piece text = some rest) :
    rest ⊆ text := by
  unfold dropPiece at hrest
  split at hrest
  · obtain rfl := Option.some.inj hrest
    exact List.drop_subset _ _
  · simp at hrest

theorem dropSpaces?_subset (hrest : dropSpaces? text = some rest) : rest ⊆ text := by
  unfold dropSpaces? at hrest
  split at hrest
  · simp at hrest
  · split at hrest
    · obtain rfl := Option.some.inj hrest
      exact List.Subset.trans (List.dropWhile_subset _) (List.subset_cons_self _ _)
    · simp at hrest

theorem dropOptional_subset (character : Char) : dropOptional character text ⊆ text := by
  unfold dropOptional
  split
  · split
    · exact List.subset_cons_self _ _
    · exact List.Subset.refl _
  · exact List.Subset.refl _

namespace HasNoQuote

theorem mono (hquotes : HasNoQuote text) (hsubset : rest ⊆ text) : HasNoQuote rest :=
  fun character hmem => hquotes character (hsubset hmem)

theorem dropWhile (hquotes : HasNoQuote text) (drops : Char → Bool) :
    HasNoQuote (text.dropWhile drops) :=
  hquotes.mono (List.dropWhile_subset _)

theorem afterModule_eq_none (hquotes : HasNoQuote text) : afterModule text = none := by
  cases text with
  | nil => rfl
  | cons quote rest => simp [afterModule, hquotes quote List.mem_cons_self]

theorem afterFrom_eq_none (hquotes : HasNoQuote text) : afterFrom text = none := by
  unfold afterFrom
  cases hrest : dropPiece "from".toList (text.dropWhile isSpace) with
  | none => rfl
  | some rest =>
    have hbehind : HasNoQuote rest := (hquotes.dropWhile _).mono (dropPiece_subset hrest)
    exact (hbehind.dropWhile _).afterModule_eq_none

theorem afterName_eq_none (hquotes : HasNoQuote text) {afterwards : List Char → Option (List Char)}
    (hafterwards : ∀ rest, HasNoQuote rest → afterwards rest = none) :
    afterName afterwards text = none := by
  have hrest : HasNoQuote (text.dropWhile isNamePart) := hquotes.dropWhile _
  have hmodule := (hrest.dropWhile isSpace).afterModule_eq_none
  simp [afterName, hmodule, hafterwards _ hrest]

theorem afterBindings_eq_none (hquotes : HasNoQuote text) : afterBindings text = none := by
  unfold afterBindings
  split
  · rename_i inner
    split
    · rename_i closer behind hbehind
      have hclosed : HasNoQuote (closer :: behind) := by
        rw [← hbehind]
        exact (hquotes.mono (List.subset_cons_self _ _)).dropWhile _
      exact (hclosed.mono (List.subset_cons_self _ _)).afterFrom_eq_none
    · rfl
  · rename_i inner
    cases hnamed : dropPiece "as".toList (inner.dropWhile isSpace) with
    | none => rfl
    | some named =>
      have hinner : HasNoQuote inner := hquotes.mono (List.subset_cons_self _ _)
      have hbehind : HasNoQuote named := (hinner.dropWhile _).mono (dropPiece_subset hnamed)
      cases hname : dropSpaces? named with
      | none => simp [hname]
      | some name =>
        have hnone : afterName afterFrom name = none :=
          (hbehind.mono (dropSpaces?_subset hname)).afterName_eq_none fun _ => afterFrom_eq_none
        simp [hname, hnone]
  · exact hquotes.afterFrom_eq_none

theorem afterDefault_eq_none (hquotes : HasNoQuote text) : afterDefault text = none := by
  have hname : afterName (fun rest => afterBindings
      ((dropOptional ',' (rest.dropWhile isSpace)).dropWhile isSpace)) text = none := by
    apply hquotes.afterName_eq_none
    intro rest hrest
    have hbehind : HasNoQuote (dropOptional ',' (rest.dropWhile isSpace)) :=
      (hrest.dropWhile _).mono (dropOptional_subset _)
    exact (hbehind.dropWhile _).afterBindings_eq_none
  rw [afterDefault, hname, hquotes.afterBindings_eq_none]
  rfl

theorem afterClause_eq_none (hquotes : HasNoQuote text) : afterClause text = none := by
  unfold afterClause
  rw [hquotes.afterDefault_eq_none]
  cases htype : dropPiece "type".toList text with
  | none => rfl
  | some behind =>
    cases hrest : dropSpaces? behind with
    | none => simp [hrest]
    | some rest =>
      have hbehind : HasNoQuote behind := hquotes.mono (dropPiece_subset htype)
      have hnone := (hbehind.mono (dropSpaces?_subset hrest)).afterDefault_eq_none
      simp [hrest, hnone]

theorem afterImport?_eq_none (hquotes : HasNoQuote text) : afterImport? text = none := by
  unfold afterImport?
  cases hbehind : dropPiece "import".toList text with
  | none => rfl
  | some behind =>
    have hbehind : HasNoQuote behind := hquotes.mono (dropPiece_subset hbehind)
    have hmodule := (hbehind.dropWhile isSpace).afterModule_eq_none
    cases hrest : dropSpaces? behind with
    | none => simp [hrest, hmodule]
    | some rest =>
      have hclause := (hbehind.mono (dropSpaces?_subset hrest)).afterClause_eq_none
      simp [hrest, hmodule, hclause]

/-- Every import statement names a module, so that none goes without a quote. -/
theorem removeImports_eq_self (hquotes : HasNoQuote text) :
    importStatement.replaceAll [] text = text := by
  apply replaceFrom_eq_self
  · simp [importStatement, afterImport?, dropPiece]
  · intro left right hright hsplit
    have hsubset : right ⊆ text := by
      rw [hsplit]
      exact List.subset_append_right _ _
    rw [List.append_nil, importStatement, (hquotes.mono hsubset).afterImport?_eq_none]
    simp

end HasNoQuote

end

/-! ## Cleaning -/

/-- Code that is read without literals, comments and slashes is balanced. -/
theorem IsWoven.of_reads {part : Part} {last : Option Char} {before piece rest : List Char}
    (hreads : Reads part previous before piece rest last) (hpart : part ≠ .template)
    (hliterals : ∀ character ∈ piece,
      isQuote character = false ∧ character ≠ '\x60' ∧ character ≠ '/') : IsWoven word [] piece := by
  induction hreads with
  | string hquote => simp [hquote] at hliterals
  | templateLiteral | lineComment | blockComment | regex => simp at hliterals
  | @group _ _ _ _ _ opener closer hopener hinside ih =>
    refine .group hopener (ih Part.noConfusion fun character hmem => ?_) .nil
    exact hliterals character (by simp [hmem])
  | @code _ _ _ character hcode =>
    exact .plain (isPlain_of_isLiteralFree (hliterals character List.mem_cons_self) hcode.opens
      hcode.closes) .nil
  | nil => exact .nil
  | cons hitem hmore ihitem ihmore =>
    have hfirst := ihitem Part.noConfusion fun character hmem =>
      hliterals character (List.mem_append_left _ hmem)
    have hsecond := ihmore Part.noConfusion fun character hmem =>
      hliterals character (List.mem_append_right _ hmem)
    exact hfirst.append hsecond
  | close | escape | substitution | plain => exact absurd rfl hpart

/-- Braces around a woven text match. -/
theorem IsWoven.findMatching_braces (hword : word.all isNamePart) (hwoven : IsWoven word [] text) :
    findMatching ('\x7b' :: (text ++ ['}'])) 0 = some (text.length + 1) := by
  have hgroup : groupLength ('\x7b' :: (text ++ ['}'])) = some (text.length + 1) :=
    hwoven.groupLength_eq hword rfl []
  rw [findMatching, List.drop_zero, hgroup]
  rfl

/-- Every pass of cleaning keeps code balanced. -/
theorem isWoven_clean {code : List Char}
    (hliterals : ∀ character ∈ code,
      isQuote character = false ∧ character ≠ '\x60' ∧ character ≠ '/')
    (hcode : IsWoven "production".toList [] code) :
    IsWoven "production".toList [] (clean {} code) := by
  have hword : "production".toList.all isNamePart := by decide
  have hreplacement : IsWoven "production".toList [] "(window.NODE_ENV || \"production\")".toList := by
    have hinside : IsWoven "production".toList []
        ("window.NODE_ENV || ".toList ++ '"' :: ("production".toList ++ ['"'])) :=
      (IsWoven.of_plain (by decide)).append (.string .nil)
    exact .group rfl hinside .nil
  have hnewline : ['\n'].all isPlain := by decide
  have hquotes : HasNoQuote code := fun character hmem => (hliterals character hmem).1
  have henvironment : FindsPlain (wordEnding "process.env.NODE_ENV".toList) "production".toList :=
    findsPlain_wordEnding (by decide) (by decide) (by decide)
  have hfallback : FindsPlain (freeWord "fallbackData".toList) "production".toList :=
    findsPlain_freeWord (findsPlain_wordEnding (by decide) (by decide) (by decide))
  have hundefined : FindsPlain (freeWord "undefined".toList) "production".toList :=
    findsPlain_freeWord (findsPlain_wordEnding (by decide) (by decide) (by decide))
  have hrequests : Recognises (namedCallee "axios.get".toList) (· == "axios.get".toList) :=
    recognises_namedCallee (by decide) (by decide)
  have hdata : IsWoven "production".toList [] "getFallbackData()".toList :=
    .of_isBalanced (by simp [isQuote]) (by decide)
  have hassigned : IsWoven "production".toList [] (assignState {} code) :=
    hcode.replaceCalls recognises_setterCallee hword IsWoven.setterToAssignment
  have hlooked := hassigned.replaceFrom henvironment hreplacement none
  have hfetched : IsWoven "production".toList [] (fetchData {} _) :=
    hlooked.replaceCalls hrequests hword fun _ harguments => harguments.requestToFetch hword
  have hfilled := hfetched.replaceFrom hfallback hdata none
  have hdefined := hfilled.replaceFrom hundefined .nil none
  have hclosed := hdefined.replaceFrom (findsPlain_blankLines (by decide)) (.of_plain hnewline) none
  rw [clean, hquotes.removeImports_eq_self]
  exact hclosed.trim

/-- Cleaning keeps code balanced: where braces around code without quotes, backticks and slashes match,
those around the cleaned code do. -/
theorem findMatching_clean (code : List Char)
    (hliterals : ∀ character ∈ code,
      isQuote character = false ∧ character ≠ '\x60' ∧ character ≠ '/')
    (hbalanced : findMatching ('\x7b' :: (code ++ ['}'])) 0 = some (code.length + 1)) :
    findMatching ('\x7b' :: (clean {} code ++ ['}'])) 0 = some ((clean {} code).length + 1) := by
  obtain ⟨front, opener, closer, inside, after, last, htext, hopener, hreads, hstart, hstop⟩ :=
    isGroup_of_findMatching hbalanced
  obtain rfl : front = [] := List.length_eq_zero_iff.mp hstart.symm
  rw [List.nil_append] at htext
  obtain ⟨rfl, hinside⟩ := List.cons.inj htext
  obtain ⟨rfl, -⟩ : code = inside ∧ ['}'] = closer :: after :=
    List.append_inj hinside (by simpa [Nat.add_comm] using hstop)
  exact (isWoven_clean hliterals (.of_reads hreads Part.noConfusion hliterals)).findMatching_braces
    (by decide)

/-- A request in the argument of a setter, for a url that the environment gives; lines of white space,
fallback data and a value that is not defined. -/
theorem findMatching_clean_nested :
    let code := "setUrl(axios.get(process.env.NODE_ENV, [b]));\n\n\nshow({ c: fallbackData, d: undefined })".toList
    (∀ character ∈ code, isQuote character = false ∧ character ≠ '\x60' ∧ character ≠ '/') ∧
      findMatching ('\x7b' :: (code ++ ['}'])) 0 = some (code.length + 1) ∧
      findMatching ('\x7b' :: (clean {} code ++ ['}'])) 0 = some ((clean {} code).length + 1) := by
  intro code
  have hmarks : code.all fun character =>
      !isQuote character && character != '\x60' && character != '/' := by decide
  have hliterals : ∀ character ∈ code,
      isQuote character = false ∧ character ≠ '\x60' ∧ character ≠ '/' := by
    simpa [and_assoc] using List.all_eq_true.mp hmarks
  have hwoven : IsWoven [] [] code := .of_isBalanced hliterals (by decide)
  have hbalanced : findMatching ('\x7b' :: (code ++ ['}'])) 0 = some (code.length + 1) :=
    hwoven.findMatching_braces rfl
  exact ⟨hliterals, hbalanced, findMatching_clean code hliterals hbalanced⟩

end PageGraft.Script
