import PageGraft.Proofs.Search
import PageGraft.Script.Cleaning

/-!
# Cleaned code stays as it is

The last steps of cleaning delete the free words `undefined`, close up lines of white space and trim
the ends. What they answer has no free word left (`clean_passes`), so that the deletion and the trim
that a patch applies once more change nothing (`trim_removeUndefined_clean`). Nor does a deletion that
follows another one (`removeUndefined_settles`).

A free word is a run of name characters that a word can begin with. `replaceFrom_takeWhile` says
that neither of the two replacements changes the run of name characters that a text begins with; the
rest is an induction over the replacement with what stands before each place.
-/

namespace PageGraft.Text

/-! ## White space ends words -/

/-- The code points of white space. -/
def spaceCodes : List Nat :=
  [9, 10, 11, 12, 13, 28, 29, 30, 31, 32, 0x85, 0xA0, 0x1680, 0x2000, 0x2001, 0x2002, 0x2003,
    0x2004, 0x2005, 0x2006, 0x2007, 0x2008, 0x2009, 0x200A, 0x2028, 0x2029, 0x202F, 0x205F, 0x3000]

theorem toNat_mem_spaceCodes {character : Char} (hspace : isSpace character) :
    character.toNat ∈ spaceCodes := by
  simp only [isSpace, Bool.or_eq_true, Bool.and_eq_true, decide_eq_true_eq, beq_iff_eq] at hspace
  generalize character.toNat = code at hspace ⊢
  simp only [spaceCodes, List.mem_cons, List.not_mem_nil, or_false]
  omega

/-- White space belongs to no name. -/
theorem isNamePart_of_isSpace {character : Char} (hspace : isSpace character) :
    isNamePart character = false ∧ character ≠ '.' := by
  have hcodes : ∀ code ∈ spaceCodes,
      isNamePart (Char.ofNat code) = false ∧ Char.ofNat code ≠ '.' := by
    decide +kernel
  have hcharacter := hcodes _ (toNat_mem_spaceCodes hspace)
  rwa [Char.ofNat_toNat] at hcharacter

theorem startsWord_of_isSpace {character : Char} (hspace : isSpace character) :
    startsWord (some character) := by
  obtain ⟨hname, hdot⟩ := isNamePart_of_isSpace hspace
  simp [startsWord, hname, hdot]

/-! ## Free words -/

variable {word text : List Char} {previous : Option Char}

theorem endsWord_iff {rest : List Char} :
    endsWord rest ↔ ∀ character ∈ rest.head?, isNamePart character = false := by
  cases rest with
  | nil => simp [endsWord]
  | cons character rest => simp [endsWord]

/-- A word is found where it is all the name characters that the text begins with. -/
theorem wordEnding_eq (hword : word.all isNamePart) :
    wordEnding word previous text =
      if text.takeWhile isNamePart = word then some word.length else none := by
  have hfound : (word.isPrefixOf text && endsWord (text.drop word.length)) =
      decide (text.takeWhile isNamePart = word) := by
    rw [Bool.eq_iff_iff, Bool.and_eq_true, List.isPrefixOf_iff_prefix, decide_eq_true_eq]
    constructor
    · rintro ⟨⟨rest, rfl⟩, hends⟩
      rw [List.drop_left] at hends
      exact Page.takeWhile_append_of_head hword (endsWord_iff.mp hends)
    · intro htake
      have hsplit : word ++ text.dropWhile isNamePart = text := by
        rw [← htake, List.takeWhile_append_dropWhile]
      rw [← hsplit, List.drop_left]
      exact ⟨List.prefix_append _ _, endsWord_iff.mpr Page.head?_dropWhile_eq_false⟩
  rw [wordEnding, hfound]
  simp only [decide_eq_true_eq]

/-- Nothing is a free word at a place exactly if no word begins there or another one does. -/
theorem freeWord_eq_none (hword : word.all isNamePart) :
    freeWord word previous text = none ↔
      (startsWord previous → text.takeWhile isNamePart ≠ word) := by
  rw [freeWord, wordEnding_eq hword]
  split
  · simp [*]
  · simp [*]

/-- Free words pass with less in front. -/
theorem passes_of_startsWord {previous' : Option Char} (hword : word.all isNamePart)
    (hstarts : startsWord previous' → startsWord previous)
    (hpasses : (freeWord word).Passes previous text []) :
    (freeWord word).Passes previous' text [] := by
  cases text with
  | nil => exact Finder.passes_nil
  | cons character rest =>
    rw [Finder.passes_cons, freeWord_eq_none hword] at hpasses ⊢
    exact ⟨fun h => hpasses.1 (hstarts h), hpasses.2⟩

/-! ## Replacements -/

variable {find : Finder} {replacement : List Char}

/-- A replacement goes on behind the characters that it skips. -/
theorem replaceFrom_skip (hend : ∀ previous, find previous [] = none) {skip : Nat} :
    find.replaceFrom replacement skip previous text =
      find.replaceFrom replacement 0 ((text.take skip).getLast?.or previous) (text.drop skip) := by
  induction text generalizing skip previous with
  | nil =>
    cases skip with
    | zero => simp
    | succ skip => simp [Finder.replaceFrom, hend]
  | cons character rest ih =>
    cases skip with
    | zero => simp
    | succ skip =>
      rw [Finder.replaceFrom, ih, List.take_succ_cons, List.drop_succ_cons, getLast?_cons_or]

/-- A replacement keeps a front part in which it finds nothing. -/
theorem replaceFrom_append {front rest : List Char} (hpasses : find.Passes previous front rest) :
    find.replaceFrom replacement 0 previous (front ++ rest) =
      front ++ find.replaceFrom replacement 0 (front.getLast?.or previous) rest := by
  induction front generalizing previous with
  | nil => rfl
  | cons character front ih =>
    obtain ⟨hhere, hfront⟩ := Finder.passes_cons.mp hpasses
    rw [getLast?_cons_or, List.cons_append, List.cons_append, ← ih hfront]
    simp only [Finder.replaceFrom, hhere]

/-- Without anything to replace, a replacement changes nothing. -/
theorem replaceFrom_eq_self (hend : ∀ previous, find previous [] = none)
    (hpasses : find.Passes previous text []) :
    find.replaceFrom replacement 0 previous text = text := by
  induction text generalizing previous with
  | nil => simp [Finder.replaceFrom, hend]
  | cons character rest ih =>
    obtain ⟨hhere, hrest⟩ := Finder.passes_cons.mp hpasses
    rw [List.append_nil] at hhere
    simp only [Finder.replaceFrom, hhere, ih hrest]

/-! ## Deleting free words -/

theorem freeWord_nil (hnonempty : word ≠ []) : freeWord word previous [] = none := by
  cases word with
  | nil => exact absurd rfl hnonempty
  | cons first word => simp [freeWord, wordEnding]

/-- Where a free word is found, it is followed by no name character. -/
theorem freeWord_eq_some (hword : word.all isNamePart) {length : Nat}
    (hfound : freeWord word previous text = some length) :
    length = word.length ∧ endsWord (text.drop length) := by
  rw [freeWord, wordEnding_eq hword] at hfound
  split at hfound
  · split at hfound
    · rename_i htake
      obtain rfl : word.length = length := by simpa using hfound
      refine ⟨rfl, endsWord_iff.mpr ?_⟩
      have hdrop : text.drop word.length = text.dropWhile isNamePart := by
        have hsplit := List.takeWhile_append_dropWhile (p := isNamePart) (l := text)
        rw [htake] at hsplit
        generalize text.dropWhile isNamePart = rest at hsplit ⊢
        rw [← hsplit, List.drop_left]
      rw [hdrop]
      exact Page.head?_dropWhile_eq_false
    · simp at hfound
  · simp at hfound

/-- Inside a name, a deletion of free words changes no name character. -/
theorem takeWhile_deleteFrom {character : Char} (hcharacter : isNamePart character)
    (hnonempty : word ≠ []) :
    ((freeWord word).replaceFrom [] 0 (some character) text).takeWhile isNamePart =
      text.takeWhile isNamePart := by
  induction text generalizing character with
  | nil => simp [Finder.replaceFrom, freeWord_nil hnonempty]
  | cons next rest ih =>
    have hnone : freeWord word (some character) (next :: rest) = none := by
      simp [freeWord, startsWord, hcharacter]
    simp only [Finder.replaceFrom, hnone]
    cases hnext : isNamePart next with
    | true => rw [List.takeWhile_cons_of_pos hnext, List.takeWhile_cons_of_pos hnext, ih hnext]
    | false => simp [hnext]

/-- After a deletion of free words there are none. In front of each place stands what stood there
before, or the place is behind a deleted word and no word begins there. -/
theorem passes_deleteFrom (hword : word.all isNamePart) (hnonempty : word ≠ [])
    {previous' : Option Char} (hstarts : startsWord previous' → startsWord previous ∨ endsWord text) :
    (freeWord word).Passes previous' ((freeWord word).replaceFrom [] 0 previous text) [] := by
  induction hlength : text.length using Nat.strong_induction_on generalizing text previous previous'
    with
  | _ length ih =>
  cases text with
  | nil => simp [Finder.replaceFrom, freeWord_nil hnonempty]
  | cons character rest =>
    rw [List.length_cons] at hlength
    cases hfound : freeWord word previous (character :: rest) with
    | none =>
      simp only [Finder.replaceFrom, hfound]
      rw [Finder.passes_cons, List.append_nil, freeWord_eq_none hword]
      refine ⟨?_, ih rest.length (by omega) .inl rfl⟩
      intro hbegins
      cases hcharacter : isNamePart character with
      | true =>
        rcases hstarts hbegins with hbefore | hends
        · rw [List.takeWhile_cons_of_pos hcharacter, takeWhile_deleteFrom hcharacter hnonempty,
            ← List.takeWhile_cons_of_pos hcharacter]
          exact (freeWord_eq_none hword).mp hfound hbefore
        · simp [endsWord, hcharacter] at hends
      | false =>
        rw [List.takeWhile_cons_of_neg (by simp [hcharacter])]
        exact hnonempty.symm
    | some found =>
      obtain ⟨hfound', hends⟩ := freeWord_eq_some hword hfound
      cases found with
      | zero => exact absurd (List.length_eq_zero_iff.mp hfound'.symm) hnonempty
      | succ further =>
        simp only [Finder.replaceFrom, hfound, List.nil_append]
        rw [replaceFrom_skip fun _ => freeWord_nil hnonempty]
        rw [List.drop_succ_cons] at hends
        exact ih (rest.drop further).length (by rw [List.length_drop]; omega)
          (fun _ => .inr hends) rfl

/-! ## Closing up lines of white space -/

/-- Lines of white space begin and end with a newline. -/
theorem blankLines_eq_some {length : Nat} (hfound : blankLines previous text = some length) :
    ∃ run rest, run.getLast? = some '\n' ∧ text = '\n' :: (run ++ rest) ∧
      length = run.length + 1 := by
  unfold blankLines at hfound
  split at hfound
  · rename_i rest
    obtain ⟨tail, -, hsplit⟩ := Page.dropEndWhile_append (· ≠ '\n') (rest.takeWhile isSpace)
    split at hfound
    · simp at hfound
    · rename_i run hrun
      obtain rfl : (dropEndWhile (· ≠ '\n') (rest.takeWhile isSpace)).length + 1 = length := by
        simpa using hfound
      refine ⟨dropEndWhile (· ≠ '\n') (rest.takeWhile isSpace), tail ++ rest.dropWhile isSpace,
        ?_, ?_, rfl⟩
      · obtain ⟨last, hlast⟩ : ∃ last,
            (dropEndWhile (· ≠ '\n') (rest.takeWhile isSpace)).getLast? = some last := by
          rw [← Option.isSome_iff_exists, List.getLast?_isSome]
          exact hrun
        have hnewline : decide (last ≠ '\n') = false := by
          rw [dropEndWhile, List.getLast?_reverse] at hlast
          exact Page.head?_dropWhile_eq_false last hlast
        rw [hlast, of_not_not (of_decide_eq_false hnewline)]
      · rw [← List.append_assoc, hsplit, List.takeWhile_append_dropWhile]
  · simp at hfound

theorem blankLines_nil : blankLines previous [] = none := rfl

/-- Closing up lines changes no name character that a text begins with. -/
theorem takeWhile_closeUp :
    (blankLines.replaceFrom ['\n'] 0 previous text).takeWhile isNamePart =
      text.takeWhile isNamePart := by
  induction text generalizing previous with
  | nil => simp [Finder.replaceFrom, blankLines_nil]
  | cons character rest ih =>
    cases hfound : blankLines previous (character :: rest) with
    | none => simp only [Finder.replaceFrom, hfound, List.takeWhile_cons, ih]
    | some length =>
      obtain ⟨run, rest', -, htext, rfl⟩ := blankLines_eq_some hfound
      obtain ⟨rfl, -⟩ := List.cons.inj htext
      have hnewline : isNamePart '\n' = false := by decide
      simp only [Finder.replaceFrom, hfound]
      rw [List.singleton_append, List.takeWhile_cons_of_neg (by simp [hnewline]),
        List.takeWhile_cons_of_neg (by simp [hnewline])]

/-- Closing up lines makes no free word. -/
theorem passes_closeUp (hword : word.all isNamePart) (hnonempty : word ≠ [])
    {previous' : Option Char} (hstarts : startsWord previous' → startsWord previous)
    (hpasses : (freeWord word).Passes previous text []) :
    (freeWord word).Passes previous' (blankLines.replaceFrom ['\n'] 0 previous text) [] := by
  induction hlength : text.length using Nat.strong_induction_on generalizing text previous previous'
    with
  | _ length ih =>
  cases text with
  | nil => simp [Finder.replaceFrom, blankLines_nil]
  | cons character rest =>
    rw [List.length_cons] at hlength
    cases hfound : blankLines previous (character :: rest) with
    | none =>
      obtain ⟨hhere, hrest⟩ := Finder.passes_cons.mp hpasses
      rw [List.append_nil, freeWord_eq_none hword] at hhere
      simp only [Finder.replaceFrom, hfound]
      rw [Finder.passes_cons, List.append_nil, freeWord_eq_none hword]
      refine ⟨?_, ih rest.length (by omega) id hrest rfl⟩
      intro hbegins
      have hsame := hhere (hstarts hbegins)
      rw [List.takeWhile_cons] at hsame ⊢
      rwa [takeWhile_closeUp]
    | some found =>
      obtain ⟨run, rest', hlast, htext, rfl⟩ := blankLines_eq_some hfound
      obtain ⟨rfl, rfl⟩ := List.cons.inj htext
      have hbehind : (freeWord word).Passes (some '\n') rest' [] := by
        rw [← List.cons_append, Finder.passes_append] at hpasses
        have hrest := hpasses.2
        rwa [List.getLast?_cons, hlast] at hrest
      simp only [Finder.replaceFrom, hfound]
      rw [replaceFrom_skip fun _ => blankLines_nil, List.take_left, List.drop_left, hlast,
        Option.some_or, List.singleton_append, Finder.passes_cons, List.append_nil,
        freeWord_eq_none hword]
      refine ⟨?_, ih rest'.length (by simp at hlength; omega) id hbehind rfl⟩
      intro _
      rw [List.takeWhile_cons_of_neg (by decide)]
      exact hnonempty.symm

/-! ## Trimming -/

theorem trim_eq_self (hfirst : ∀ character ∈ text.head?, isSpace character = false)
    (hlast : ∀ character ∈ text.getLast?, isSpace character = false) : trim text = text := by
  rw [trim, dropEndWhile, Page.dropWhile_of_head hfirst, Page.dropWhile_of_head,
    List.reverse_reverse]
  rwa [List.head?_reverse]

/-- A trimmed text has no white space at its ends. -/
theorem isSpace_trim :
    (∀ character ∈ (trim text).head?, isSpace character = false) ∧
      ∀ character ∈ (trim text).getLast?, isSpace character = false := by
  constructor
  · intro character hcharacter
    obtain ⟨run, -, hsplit⟩ := Page.dropEndWhile_append isSpace (text.dropWhile isSpace)
    have hfirst : ∀ character ∈ (text.dropWhile isSpace).head?, isSpace character = false :=
      Page.head?_dropWhile_eq_false
    refine hfirst character ?_
    rw [← hsplit, List.head?_append]
    rw [trim] at hcharacter
    rw [Option.mem_def.mp hcharacter]
    rfl
  · rw [trim, dropEndWhile, List.getLast?_reverse]
    exact Page.head?_dropWhile_eq_false

/-- Trimming makes no free word. -/
theorem passes_trim (hword : word.all isNamePart)
    (hpasses : (freeWord word).Passes none text []) :
    (freeWord word).Passes none (trim text) [] := by
  have hfront : (freeWord word).Passes none (text.dropWhile isSpace) [] := by
    have hsplit := List.takeWhile_append_dropWhile (p := isSpace) (l := text)
    rw [← hsplit, Finder.passes_append] at hpasses
    refine passes_of_startsWord hword ?_ hpasses.2
    intro _
    cases hlast : (text.takeWhile isSpace).getLast? with
    | none => rfl
    | some last =>
      have hspace : isSpace last := List.mem_takeWhile_imp (List.mem_of_getLast? hlast)
      exact startsWord_of_isSpace hspace
  obtain ⟨run, hrun, hsplit⟩ := Page.dropEndWhile_append isSpace (text.dropWhile isSpace)
  rw [← hsplit] at hfront
  have hnames : run.takeWhile isNamePart = [] := by
    cases run with
    | nil => rfl
    | cons character run =>
      rw [List.all_cons, Bool.and_eq_true] at hrun
      rw [List.takeWhile_cons_of_neg (by simp [isNamePart_of_isSpace hrun.1])]
  rw [Finder.passes_append] at hfront
  intro left right hright hleft
  have hnone := hfront.1 left right hright hleft
  rw [freeWord_eq_none hword] at hnone ⊢
  rw [List.append_nil, List.takeWhile_append, hnames, List.append_nil] at hnone
  rw [List.append_nil]
  intro hbegins
  have hsame := hnone hbegins
  split at hsame
  · rename_i hall
    rwa [(List.takeWhile_prefix _).eq_of_length hall]
  · exact hsame

end PageGraft.Text

namespace PageGraft.Script

open PageGraft.Text PageGraft.Settings

/-- A deletion leaves no free word `undefined`. -/
theorem removeUndefined_passes (code : List Char) :
    (freeWord "undefined".toList).Passes none (removeUndefined code) [] :=
  passes_deleteFrom (by decide) (by decide) .inl

/-- Code without a free word `undefined` keeps everything. -/
theorem removeUndefined_eq_self {code : List Char}
    (hpasses : (freeWord "undefined".toList).Passes none code []) : removeUndefined code = code :=
  replaceFrom_eq_self (fun _ => freeWord_nil (by decide)) hpasses

/-- The code has no free word `undefined`. -/
theorem clean_passes {settings : TransformSettings} {code : List Char} :
    (freeWord "undefined".toList).Passes none (clean settings code) [] := by
  have hword : ("undefined".toList).all isNamePart := by decide
  exact passes_trim hword (passes_closeUp hword (by decide) id (removeUndefined_passes _))

/-- What a patch does to the text of a function changes nothing in cleaned code. -/
theorem trim_removeUndefined_clean {settings : TransformSettings} {code : List Char} :
    trim (removeUndefined (clean settings code)) = clean settings code := by
  rw [removeUndefined_eq_self clean_passes]
  exact trim_eq_self isSpace_trim.1 isSpace_trim.2

/-- A deletion leaves nothing to delete for a second one, although it brings the text around each word
together. Cleaned code has nothing to delete or to trim either, although lines close up and the ends are
trimmed behind its own deletion. -/
theorem removeUndefined_settles :
    (∀ code, (freeWord "undefined".toList).Passes none (removeUndefined code) [] ∧
      removeUndefined (removeUndefined code) = removeUndefined code) ∧
    ∀ settings code, trim (removeUndefined (clean settings code)) = clean settings code := by
  refine ⟨fun code => ⟨removeUndefined_passes code, ?_⟩, fun _ _ => trim_removeUndefined_clean⟩
  exact removeUndefined_eq_self (removeUndefined_passes code)

/-- Without a callee in it, code keeps its calls. -/
theorem replaceCalls_eq_self {callee : Finder}
    {build : List Char → List Char → Option (List Char)} {previous : Option Char}
    {code : List Char} (hpasses : callee.Passes previous code []) :
    replaceCalls callee build previous code = code := by
  induction code generalizing previous with
  | nil => rw [replaceCalls]
  | cons character rest ih =>
    obtain ⟨hhere, hrest⟩ := Finder.passes_cons.mp hpasses
    rw [List.append_nil] at hhere
    rw [replaceCalls]
    simp only [hhere, ih hrest]

/-- Code in which nothing is to be replaced stays as it is. -/
theorem clean_eq_self {code : List Char}
    (himport : importStatement.Passes none code [])
    (hsetter : setterCallee.Passes none code [])
    (henvironment : (wordEnding "process.env.NODE_ENV".toList).Passes none code [])
    (hrequest : (namedCallee "axios.get".toList).Passes none code [])
    (hfallback : (freeWord "fallbackData".toList).Passes none code [])
    (hundefined : (freeWord "undefined".toList).Passes none code [])
    (hblank : blankLines.Passes none code [])
    (hends : trim code = code) : clean {} code = code := by
  have himports : importStatement.replaceAll [] code = code := by
    refine replaceFrom_eq_self ?_ himport
    intro previous
    simp [importStatement, afterImport?, dropPiece]
  have hsetters : assignState {} code = code := replaceCalls_eq_self hsetter
  have henvironments : (wordEnding "process.env.NODE_ENV".toList).replaceAll
      "(window.NODE_ENV || \"production\")".toList code = code :=
    replaceFrom_eq_self (fun _ => rfl) henvironment
  have hrequests : fetchData {} code = code := replaceCalls_eq_self hrequest
  have hfallbacks : (freeWord "fallbackData".toList).replaceAll "getFallbackData()".toList code =
      code :=
    replaceFrom_eq_self (fun _ => freeWord_nil (by decide)) hfallback
  have hundefineds : removeUndefined code = code := removeUndefined_eq_self hundefined
  have hblanks : blankLines.replaceAll ['\n'] code = code :=
    replaceFrom_eq_self (fun _ => blankLines_nil) hblank
  simp only [clean, himports, hsetters, henvironments, hrequests, hfallbacks, hundefineds, hblanks,
    hends]

end PageGraft.Script
