import PageGraft.Proofs.BodyEnds

/-!
# The first declaration in a page

`HasDeclaration` says when a function is declared at an index of a text: a header stands there, its
parameters are closed, and only white space stands in front of the brace of its body. The search for a
function finds declarations only, and of a name without an opening parenthesis it finds the first one
(`findFunction_finds_first`).

With a parenthesis in the name, a header can begin in another one, and the search does not go back into a
header that has no body (`findFunction_passes_header`). Without one, all headers that begin in a header
end at its parenthesis, so that none of them has a body (`not_declaresFrom_of_header`).
-/

namespace PageGraft.Page

open PageGraft.Text PageGraft.Script

/-! ## Declarations -/

/-- A function is declared at an index of a text: its header stands there, where a word can begin, the
parenthesis behind the header is closed, and only white space stands between the closing one and the
brace of the body. -/
def HasDeclaration (name text : List Char) (start brace : Nat) : Prop :=
  ∃ head close, startsWord (text.take start).getLast? ∧ IsHeader name head ∧
    head ++ ['('] <+: text.drop start ∧ findMatching text (start + head.length) = some close ∧
    SpacedTo text (close + 1) '\x7b' brace

/-- What the search looks for at an index of a text in front of which another character stands. -/
def DeclaresFrom (name : List Char) (previous : Option Char) (text : List Char) (start brace : Nat) :
    Prop :=
  ∃ length distance,
    functionHeader name ((text.take start).getLast?.or previous) (text.drop start) = some length ∧
    bodyDistance ((text.drop start).drop (length - 1)) = some distance ∧
    brace = start + (length - 1 + distance)

section

variable {name text : List Char} {previous : Option Char} {start brace : Nat}

theorem bodyDistance_drop {index distance : Nat} :
    bodyDistance (text.drop index) = some distance ↔
      ∃ close, findMatching text index = some close ∧
        SpacedTo text (close + 1) '\x7b' (index + distance) := by
  have hspaced : ∀ close, SpacedTo text (close + 1) '\x7b' (index + distance) ↔ _ :=
    fun close => spacedTo_iff (by decide)
  unfold bodyDistance findMatching
  simp only [hspaced, Option.bind_eq_bind, Option.bind_eq_some_iff, Option.map_eq_some_iff,
    List.drop_drop]
  constructor
  · intro hdistance
    obtain ⟨width, hgroup, hbrace⟩ := hdistance
    have hindex : index + (width + 1) = width + index + 1 := by omega
    rw [hindex] at hbrace
    split at hbrace
    · rename_i hhead
      refine ⟨_, ⟨width, hgroup, rfl⟩, hhead, ?_⟩
      rw [Option.some_inj] at hbrace
      omega
    · exact absurd hbrace (by nofun)
  · intro hclose
    obtain ⟨_, ⟨width, hgroup, rfl⟩, hhead, hsum⟩ := hclose
    have hindex : index + (width + 1) = width + index + 1 := by omega
    refine ⟨width, hgroup, ?_⟩
    rw [hindex, if_pos hhead, Option.some_inj]
    omega

theorem hasDeclaration_iff :
    HasDeclaration name text start brace ↔ DeclaresFrom name none text start brace := by
  simp only [HasDeclaration, DeclaresFrom, Option.or_none, functionHeader_eq_some]
  constructor
  · intro hdeclares
    obtain ⟨head, close, hword, hheader, ⟨rest, hrest⟩, hclose, hspaced⟩ := hdeclares
    have hle : start + head.length ≤ brace := by
      obtain ⟨width, -, rfl⟩ := Option.map_eq_some_iff.mp hclose
      have hle := hspaced.le
      omega
    obtain ⟨distance, rfl⟩ := Nat.exists_eq_add_of_le hle
    refine ⟨head.length + 1, distance, ⟨hword, head, rest, hheader, ?_, rfl⟩, ?_, ?_⟩
    · rw [← hrest, List.append_assoc]
      rfl
    · rw [Nat.add_sub_cancel, List.drop_drop]
      exact bodyDistance_drop.mpr ⟨close, hclose, hspaced⟩
    · omega
  · intro hdeclares
    obtain ⟨_, distance, ⟨hword, head, rest, hheader, htext, rfl⟩, hbody, rfl⟩ := hdeclares
    rw [Nat.add_sub_cancel, List.drop_drop] at hbody
    obtain ⟨close, hclose, hspaced⟩ := bodyDistance_drop.mp hbody
    refine ⟨head, close, hword, hheader, ⟨rest, ?_⟩, hclose, ?_⟩
    · rw [htext, List.append_assoc]
      rfl
    · rw [Nat.add_sub_cancel, ← Nat.add_assoc]
      exact hspaced

theorem declaresFrom_zero :
    DeclaresFrom name previous text 0 brace ↔
      ∃ length distance, functionHeader name previous text = some length ∧
        bodyDistance (text.drop (length - 1)) = some distance ∧ brace = length - 1 + distance := by
  simp only [DeclaresFrom, List.take_zero, List.getLast?_nil, Option.none_or, List.drop_zero,
    Nat.zero_add]

theorem declaresFrom_succ {character : Char} :
    DeclaresFrom name previous (character :: text) (start + 1) brace ↔
      ∃ further, DeclaresFrom name (some character) text start further ∧ brace = further + 1 := by
  simp only [DeclaresFrom, List.take_succ_cons, List.drop_succ_cons, getLast?_cons_or]
  constructor
  · intro hdeclares
    obtain ⟨length, distance, hheader, hbody, rfl⟩ := hdeclares
    exact ⟨_, ⟨length, distance, hheader, hbody, rfl⟩, by omega⟩
  · intro hdeclares
    obtain ⟨_, ⟨length, distance, hheader, hbody, rfl⟩, rfl⟩ := hdeclares
    exact ⟨length, distance, hheader, hbody, by omega⟩

/-- No declaration begins in a header that has no body: it would have the same parenthesis. -/
theorem not_declaresFrom_of_header (hname : '(' ∉ name) {length : Nat}
    (hheader : functionHeader name previous text = some length)
    (hbody : bodyDistance (text.drop (length - 1)) = none) (hstart : start < length) :
    ¬ DeclaresFrom name previous text start brace := by
  intro hdeclares
  obtain ⟨length', distance, hheader', hbody', -⟩ := hdeclares
  obtain ⟨-, head, rest, hhead, rfl, rfl⟩ := functionHeader_eq_some.mp hheader
  obtain ⟨-, head', rest', hhead', htext, rfl⟩ := functionHeader_eq_some.mp hheader'
  have hdrop : (head ++ '(' :: rest).drop start = head.drop start ++ '(' :: rest :=
    List.drop_append_of_le_length (Nat.le_of_lt_succ hstart)
  have hparen : '(' ∉ head.drop start := fun hmem =>
    hhead.not_mem_paren hname (List.mem_of_mem_drop hmem)
  have hsame := htext
  rw [hdrop] at hsame
  obtain ⟨-, hrest⟩ := cut_unique hparen (hhead'.not_mem_paren hname) hsame
  rw [htext, Nat.add_sub_cancel, List.drop_left, ← hrest] at hbody'
  rw [Nat.add_sub_cancel, List.drop_left, hbody'] at hbody
  exact absurd hbody (by nofun)

/-- The first declaration from where the search stands. -/
def FirstFrom (name : List Char) (previous : Option Char) (text : List Char) (start brace : Nat) :
    Prop :=
  DeclaresFrom name previous text start brace ∧
    ∀ earlier brace, DeclaresFrom name previous text earlier brace → start ≤ earlier

theorem firstFrom_of_header {length distance : Nat}
    (hheader : functionHeader name previous text = some length)
    (hbody : bodyDistance (text.drop (length - 1)) = some distance) :
    FirstFrom name previous text start brace ↔ start = 0 ∧ brace = length - 1 + distance := by
  have hhere : ∀ brace, DeclaresFrom name previous text 0 brace ↔ brace = length - 1 + distance := by
    intro brace
    simp only [declaresFrom_zero, hheader, Option.some_inj]
    constructor
    · intro hdeclares
      obtain ⟨_, further, rfl, hfurther, rfl⟩ := hdeclares
      rw [hbody, Option.some_inj] at hfurther
      rw [hfurther]
    · exact fun hbrace => ⟨length, distance, rfl, hbody, hbrace⟩
  constructor
  · intro hfirst
    obtain rfl := Nat.le_zero.mp (hfirst.2 0 _ ((hhere _).mpr rfl))
    exact ⟨rfl, (hhere brace).mp hfirst.1⟩
  · intro hfound
    obtain ⟨rfl, hbrace⟩ := hfound
    exact ⟨(hhere brace).mpr hbrace, fun _ _ _ => Nat.zero_le _⟩

/-- The search goes on behind a character at which no declaration begins. -/
theorem firstFrom_cons {character : Char}
    (hhere : ∀ brace, ¬ DeclaresFrom name previous (character :: text) 0 brace) :
    FirstFrom name previous (character :: text) start brace ↔
      ∃ later further, FirstFrom name (some character) text later further ∧
        start = later + 1 ∧ brace = further + 1 := by
  constructor
  · intro hfirst
    obtain ⟨hdeclares, hleast⟩ := hfirst
    cases start with
    | zero => exact absurd hdeclares (hhere brace)
    | succ later =>
      obtain ⟨further, hlater, rfl⟩ := declaresFrom_succ.mp hdeclares
      refine ⟨later, further, ⟨hlater, ?_⟩, rfl, rfl⟩
      intro earlier brace hearlier
      exact Nat.le_of_succ_le_succ
        (hleast _ _ (declaresFrom_succ.mpr ⟨brace, hearlier, rfl⟩))
  · intro hlater
    obtain ⟨later, further, ⟨hdeclares, hleast⟩, rfl, rfl⟩ := hlater
    refine ⟨declaresFrom_succ.mpr ⟨further, hdeclares, rfl⟩, ?_⟩
    intro earlier brace hearlier
    cases earlier with
    | zero => exact absurd hearlier (hhere brace)
    | succ earlier =>
      obtain ⟨further, hearlier, -⟩ := declaresFrom_succ.mp hearlier
      exact Nat.succ_le_succ (hleast earlier further hearlier)

/-- The search finds exactly the first declaration, if none begins in what it passes over. -/
theorem headerFrom_eq_some (hname : '(' ∉ name) {skip : Nat}
    (hskip : ∀ start < skip, ∀ brace, ¬ DeclaresFrom name previous text start brace) :
    headerFrom name skip previous text = some (start, brace) ↔
      FirstFrom name previous text start brace := by
  induction text generalizing skip previous start brace with
  | nil =>
    have hnone : ¬ DeclaresFrom name previous [] start brace := by
      intro hdeclares
      obtain ⟨length, -, hheader, -⟩ := hdeclares
      obtain ⟨-, head, rest, -, htext, -⟩ := functionHeader_eq_some.mp hheader
      simp at htext
    exact iff_of_false (by simp [headerFrom]) fun hfirst => hnone hfirst.1
  | cons character text ih =>
    have hlater : ∀ {skip : Nat},
        (∀ start < skip + 1, ∀ brace,
          ¬ DeclaresFrom name previous (character :: text) start brace) →
        ((headerFrom name skip (some character) text).map
            (fun found => (found.1 + 1, found.2 + 1)) = some (start, brace) ↔
          FirstFrom name previous (character :: text) start brace) := by
      intro skip hskip
      rw [firstFrom_cons (hskip 0 (Nat.succ_pos _)), Option.map_eq_some_iff, Prod.exists]
      have hrest : ∀ start < skip, ∀ brace,
          ¬ DeclaresFrom name (some character) text start brace := by
        intro start hstart brace hdeclares
        exact hskip _ (Nat.succ_lt_succ hstart) _ (declaresFrom_succ.mpr ⟨brace, hdeclares, rfl⟩)
      simp only [ih hrest, Prod.mk.injEq, eq_comm]
    cases skip with
    | succ skip =>
      rw [headerFrom]
      exact hlater hskip
    | zero =>
      rw [headerFrom]
      cases hheader : functionHeader name previous (character :: text) with
      | none =>
        apply hlater
        intro start hstart brace hdeclares
        obtain rfl := Nat.le_zero.mp (Nat.le_of_lt_succ hstart)
        obtain ⟨length, distance, hsome, -⟩ := declaresFrom_zero.mp hdeclares
        rw [hheader] at hsome
        exact absurd hsome.symm (Option.some_ne_none length)
      | some length =>
        have hpositive : 0 < length := by
          obtain ⟨-, head, rest, -, -, rfl⟩ := functionHeader_eq_some.mp hheader
          exact Nat.succ_pos _
        cases hbody : bodyDistance ((character :: text).drop (length - 1)) with
        | none =>
          -- The search goes on behind the header, and no declaration begins in it.
          simp only [hbody]
          apply hlater
          intro start hstart brace
          exact not_declaresFrom_of_header hname hheader hbody (by omega)
        | some distance =>
          simp only [hbody]
          rw [firstFrom_of_header hheader hbody, Option.some_inj, Prod.mk.injEq, eq_comm,
            @eq_comm _ brace]

/-! ## The search for a function -/

/-- The first declaration in a text. -/
def HasFirstDeclaration (name text : List Char) (start brace : Nat) : Prop :=
  HasDeclaration name text start brace ∧
    ∀ earlier brace, HasDeclaration name text earlier brace → start ≤ earlier

/-- Whatever the name, the search finds a declaration if it finds something. -/
theorem hasDeclaration_of_findHeader (hheader : findHeader text name = some (start, brace)) :
    HasDeclaration name text start brace := by
  obtain ⟨front, rest, length, distance, rfl, rfl, hfound, hbody, hbrace⟩ :=
    functionHeader_of_headerFrom hheader
  refine hasDeclaration_iff.mpr ⟨length, distance, ?_, ?_, hbrace⟩
  · rw [List.take_left, List.drop_left]
    exact hfound
  · rw [List.drop_left]
    exact hbody

theorem findHeader_eq_some (hname : '(' ∉ name) :
    findHeader text name = some (start, brace) ↔ HasFirstDeclaration name text start brace := by
  have hfirst := @headerFrom_eq_some name text none start brace hname 0
    (fun _ hlt => absurd hlt (Nat.not_lt_zero _))
  unfold HasFirstDeclaration
  simp only [hasDeclaration_iff]
  exact hfirst

theorem findHeader_eq_none (hname : '(' ∉ name) :
    findHeader text name = none ↔ ∀ start brace, ¬ HasDeclaration name text start brace := by
  constructor
  · intro hnone start brace hdeclares
    have hsome : ∃ start brace, HasDeclaration name text start brace := ⟨start, brace, hdeclares⟩
    obtain ⟨first, ⟨brace, hfirst⟩, hleast⟩ := exists_isLeast.mpr hsome
    have hfound := (findHeader_eq_some hname).mpr
      ⟨hfirst, fun earlier brace hearlier => hleast ⟨brace, hearlier⟩⟩
    rw [hnone] at hfound
    exact absurd hfound (by nofun)
  · intro hnone
    rw [Option.eq_none_iff_forall_ne_some]
    intro found hfound
    exact hnone _ _ ((findHeader_eq_some hname).mp hfound).1

theorem HasDeclaration.start_lt (hdeclares : HasDeclaration name text start brace) : start < brace := by
  obtain ⟨head, close, -, hheader, -, hclose, hspaced⟩ := hdeclares
  obtain ⟨width, -, rfl⟩ := Option.map_eq_some_iff.mp hclose
  have hle := hspaced.le
  omega

theorem HasDeclaration.opens (hdeclares : HasDeclaration name text start brace) :
    text[brace]? = some '\x7b' := by
  obtain ⟨head, close, -, -, -, -, hspaced⟩ := hdeclares
  exact hspaced.mark

end

/-- A span of a text is a declaration from its header to the end of its body, with the spaces and tabs that
its line begins with. -/
structure Spans (balancedMatching : Bool) (name text : List Char) (span : FunctionSpan)
    (brace : Nat) : Prop where
  declares : HasDeclaration name text span.start brace
  ends : EndsBody balancedMatching text brace span.bodyEnd span.stop
  indent : ∃ line, BeginsLine text line span.start ∧ span.indent = (text.drop line).takeWhile isBlank

section

variable {name text : List Char} {balancedMatching : Bool} {span : FunctionSpan} {brace : Nat}

theorem Spans.bounds (hspans : Spans balancedMatching name text span brace) :
    span.start < brace ∧ brace < span.stop ∧ span.stop ≤ text.length ∧
      text[span.stop - 1]? = some '}' := by
  obtain ⟨closer, hstop, hlt, hcloser⟩ := hspans.ends.exists_closer hspans.declares.opens
  obtain ⟨hlong, -⟩ := List.getElem?_eq_some_iff.mp hcloser
  refine ⟨hspans.declares.start_lt, by omega, by omega, ?_⟩
  rw [hstop]
  exact hcloser

/-- From the header that is found on, the span is determined. -/
theorem findFunction_iff_spans (hheader : findHeader text name = some (span.start, brace)) :
    findFunction balancedMatching text name = some span ↔
      Spans balancedMatching name text span brace := by
  have hdeclares := hasDeclaration_of_findHeader hheader
  have hlong : span.start ≤ text.length := by
    have hlt := hdeclares.start_lt
    obtain ⟨hbrace, -⟩ := List.getElem?_eq_some_iff.mp hdeclares.opens
    omega
  rw [findFunction_eq_some]
  constructor
  · intro hfound
    obtain ⟨brace', length, hheader', hend, hstop, hindent⟩ := hfound
    rw [hheader, Option.some_inj] at hheader'
    obtain rfl : brace = brace' := congrArg Prod.snd hheader'
    refine ⟨hdeclares, ?_, lineStart text span.start, beginsLine_lineStart hlong, hindent⟩
    rw [hstop]
    exact (bodyEnd?_eq_some hdeclares.opens).mp hend
  · intro hspans
    obtain ⟨-, hends, line, hline, hindent⟩ := hspans
    obtain ⟨closer, hstop, hcloser, -⟩ := hends.exists_closer hdeclares.opens
    obtain ⟨length, hlength⟩ := Nat.exists_eq_add_of_le (show brace ≤ span.stop by omega)
    rw [hlength] at hends
    refine ⟨brace, length, hheader, (bodyEnd?_eq_some hdeclares.opens).mpr hends, hlength, ?_⟩
    rw [hindent, hline.unique (beginsLine_lineStart hlong)]
    rfl

theorem exists_spans_of_findFunction
    (hfound : findFunction balancedMatching text name = some span) :
    ∃ brace, Spans balancedMatching name text span brace := by
  obtain ⟨brace, -, hheader, -⟩ := findFunction_eq_some.mp hfound
  exact ⟨brace, (findFunction_iff_spans hheader).mp hfound⟩

theorem findFunction_eq_none (hname : '(' ∉ name) :
    findFunction balancedMatching text name = none ↔
      (¬ ∃ start brace, HasDeclaration name text start brace) ∨
        ∃ start brace, HasFirstDeclaration name text start brace ∧
          ¬ ∃ closer, brace < closer ∧ text[closer]? = some '}' := by
  rw [findFunction_eq, Option.bind_eq_none_iff]
  constructor
  · intro hnone
    cases hheader : findHeader text name with
    | none =>
      left
      intro hdeclares
      obtain ⟨start, brace, hdeclares⟩ := hdeclares
      exact (findHeader_eq_none hname).mp hheader start brace hdeclares
    | some found =>
      right
      have hfirst := (findHeader_eq_some hname).mp hheader
      have hend := Option.map_eq_none_iff.mp (hnone found hheader)
      refine ⟨found.1, found.2, hfirst, ?_⟩
      rw [not_exists]
      exact (bodyEnd?_eq_none hfirst.1.opens).mp hend
  · intro hnone found hheader
    have hfirst := (findHeader_eq_some hname).mp hheader
    rcases hnone with hnone | ⟨start, brace, hother, hnone⟩
    · exact absurd ⟨_, _, hfirst.1⟩ hnone
    · have hsame := (findHeader_eq_some hname).mpr hother
      rw [hheader, Option.some_inj] at hsame
      rw [hsame]
      rw [not_exists] at hnone
      exact Option.map_eq_none_iff.mpr ((bodyEnd?_eq_none hother.1.opens).mpr hnone)

end

/-- The search for a function is sound. What it finds is a declaration of the function up to the end that
the first rule finds, and a brace behind a `return` never ends it. For a name without an opening
parenthesis it is complete as well: it finds the first declaration, and it finds nothing only if there is
no declaration or no closing brace behind the brace of its body. -/
theorem findFunction_finds_first (balancedMatching : Bool) (name text : List Char) :
    (∀ span, findFunction balancedMatching text name = some span →
      ∃ brace, Spans balancedMatching name text span brace) ∧
    (∀ span brace, Spans balancedMatching name text span brace →
      span.start < brace ∧ brace < span.stop ∧ span.stop ≤ text.length ∧
        text[span.stop - 1]? = some '}' ∧ span.bodyEnd ≠ .afterReturn) ∧
    ('(' ∉ name →
      (∀ span, findFunction balancedMatching text name = some span ↔
        ∃ brace, HasFirstDeclaration name text span.start brace ∧
          Spans balancedMatching name text span brace) ∧
      (findFunction balancedMatching text name = none ↔
        (¬ ∃ start brace, HasDeclaration name text start brace) ∨
          ∃ start brace, HasFirstDeclaration name text start brace ∧
            ¬ ∃ closer, brace < closer ∧ text[closer]? = some '}')) := by
  refine ⟨fun _ => exists_spans_of_findFunction, ?_, ?_⟩
  · intro span brace hspans
    obtain ⟨hstart, hbrace, hstop, hlast⟩ := hspans.bounds
    exact ⟨hstart, hbrace, hstop, hlast, hspans.ends.ne_afterReturn⟩
  · intro hname
    refine ⟨?_, findFunction_eq_none hname⟩
    intro span
    constructor
    · intro hfound
      obtain ⟨brace, -, hheader, -⟩ := findFunction_eq_some.mp hfound
      have hfirst := (findHeader_eq_some hname).mp hheader
      exact ⟨brace, hfirst, (findFunction_iff_spans hheader).mp hfound⟩
    · intro hfound
      obtain ⟨brace, hfirst, hspans⟩ := hfound
      exact (findFunction_iff_spans ((findHeader_eq_some hname).mpr hfirst)).mpr hspans

set_option maxRecDepth 20000 in
/-- What `findFunction_finds_first` says of an indented declaration whose brackets match. -/
theorem findFunction_finds_first_indented :
    ∃ brace, HasFirstDeclaration "f".toList "g;\n  async function f(a) \x7b\n  \x7d".toList 5 brace ∧
      Spans true "f".toList "g;\n  async function f(a) \x7b\n  \x7d".toList
        ⟨5, 30, [' ', ' '], .balanced⟩ brace := by
  have hname : '(' ∉ "f".toList := by
    decide
  have hfound : findFunction true "g;\n  async function f(a) \x7b\n  \x7d".toList "f".toList =
      some ⟨5, 30, [' ', ' '], .balanced⟩ := by
    cbv
  exact (((findFunction_finds_first true _ _).2.2 hname).1 _).mp hfound

/-- A text in which headers of the name `x(function x` overlap. -/
def overlappingHeaders : List Char :=
  "function x(function x(function x()\x7b\x7d".toList

set_option maxRecDepth 20000 in
theorem findFunction_overlappingHeaders :
    findFunction true overlappingHeaders "x(function x".toList = none := by
  cbv

set_option maxRecDepth 20000 in
/-- The first header there has no body, the second one has. -/
theorem hasFirstDeclaration_overlappingHeaders :
    HasFirstDeclaration "x(function x".toList overlappingHeaders 11 34 := by
  have hsecond : functionHeader "x(function x".toList (overlappingHeaders.take 11).getLast?
      (overlappingHeaders.drop 11) = some 22 := by
    decide
  have hbody : bodyDistance ((overlappingHeaders.drop 11).drop 21) = some 2 := by
    have htext : (overlappingHeaders.drop 11).drop 21 = "()\x7b\x7d".toList := by
      decide
    rw [htext]
    cbv
  have hfirst : functionHeader "x(function x".toList none overlappingHeaders = some 22 := by
    decide
  have hnone : bodyDistance (overlappingHeaders.drop 21) = none := by
    have htext : overlappingHeaders.drop 21 = "(function x()\x7b\x7d".toList := by
      decide
    rw [htext]
    cbv
  have hbetween : ∀ earlier < 11, earlier ≠ 0 → functionHeader "x(function x".toList
      (overlappingHeaders.take earlier).getLast? (overlappingHeaders.drop earlier) = none := by
    decide
  refine ⟨hasDeclaration_iff.mpr ⟨22, 2, ?_, hbody, rfl⟩, ?_⟩
  · rw [Option.or_none]
    exact hsecond
  · intro earlier brace hearlier
    have hearlier := hasDeclaration_iff.mp hearlier
    by_contra hlt
    cases earlier with
    | zero =>
      obtain ⟨length, distance, hheader, hdistance, -⟩ := declaresFrom_zero.mp hearlier
      rw [hfirst, Option.some_inj] at hheader
      rw [← hheader, hnone] at hdistance
      exact absurd hdistance.symm (Option.some_ne_none distance)
    | succ earlier =>
      obtain ⟨length, -, hheader, -⟩ := hearlier
      rw [Option.or_none, hbetween _ (Nat.lt_of_not_le hlt) (Nat.succ_ne_zero _)] at hheader
      exact absurd hheader.symm (Option.some_ne_none length)

/-- With a parenthesis in the name, a declaration can begin in a header that has no body, and the search
does not find it. -/
theorem findFunction_passes_header :
    HasFirstDeclaration "x(function x".toList overlappingHeaders 11 34 ∧
      overlappingHeaders[35]? = some '}' ∧
      findFunction true overlappingHeaders "x(function x".toList = none :=
  ⟨hasFirstDeclaration_overlappingHeaders, by decide, findFunction_overlappingHeaders⟩

end PageGraft.Page
