import Mathlib.Order.Bounds.Basic
import PageGraft.Proofs.Declaration
import PageGraft.Proofs.Matching

/-!
# Where a body ends

`EndsBody` has one case for each way in which the end of a body is found: the brace that matches, the
first closing brace on a line of its own, the first closing brace. The rules that the search tries one
after the other find exactly these ends (`bodyEnd?_eq_some`), and they find none only if there is no
closing brace (`bodyEnd?_eq_none`).

The readers go on until they find something, so that what they find is the least index at which there is
something to find. They count from where they begin, and `isLeast_add` brings these counts to indices of
the whole text.
-/

namespace PageGraft.Page

open PageGraft.Text PageGraft.Script

/-! ## Least indices -/

/-- Least indices are the same with an offset. -/
theorem isLeast_add {found shifted : Nat → Prop} {offset index : Nat}
    (hshift : ∀ index, shifted (offset + index) ↔ found index)
    (hbound : ∀ index, shifted index → offset ≤ index) :
    IsLeast {index | shifted index} (offset + index) ↔ IsLeast {index | found index} index := by
  constructor
  · intro hleast
    refine ⟨(hshift index).mp hleast.1, ?_⟩
    intro other hother
    have hle := hleast.2 ((hshift other).mpr hother)
    omega
  · intro hleast
    refine ⟨(hshift index).mpr hleast.1, ?_⟩
    intro other hother
    obtain ⟨further, rfl⟩ := Nat.exists_eq_add_of_le (hbound other hother)
    have hle := hleast.2 ((hshift further).mp hother)
    omega

theorem isLeast_iff_exists {found shifted : Nat → Prop} {offset index : Nat}
    (hshift : ∀ index, shifted (offset + index) ↔ found index)
    (hbound : ∀ index, shifted index → offset ≤ index) :
    IsLeast {index | shifted index} index ↔
      ∃ further, IsLeast {index | found index} further ∧ index = offset + further := by
  constructor
  · intro hleast
    obtain ⟨further, rfl⟩ := Nat.exists_eq_add_of_le (hbound index hleast.1)
    exact ⟨further, (isLeast_add hshift hbound).mp hleast, rfl⟩
  · intro hfurther
    obtain ⟨further, hleast, rfl⟩ := hfurther
    exact (isLeast_add hshift hbound).mpr hleast

theorem isLeast_iff_eq {found : Nat → Prop} {least index : Nat}
    (hleast : IsLeast {index | found index} least) :
    IsLeast {index | found index} index ↔ index = least := by
  constructor
  · exact fun hindex => hindex.unique hleast
  · intro hindex
    rw [hindex]
    exact hleast

theorem exists_isLeast {found : Nat → Prop} :
    (∃ index, IsLeast {index | found index} index) ↔ ∃ index, found index := by
  constructor
  · intro hleast
    obtain ⟨index, hleast⟩ := hleast
    exact ⟨index, hleast.1⟩
  · intro hfound
    exact ⟨sInf {index | found index}, Nat.sInf_mem hfound, fun _ hother => Nat.sInf_le hother⟩

/-! ## White space in front of a mark -/

/-- From one index to another there is white space, and then there is a mark. -/
structure SpacedTo (text : List Char) (index : Nat) (mark : Char) (position : Nat) : Prop where
  le : index ≤ position
  spaces : ((text.take position).drop index).all isSpace
  mark : text[position]? = some mark

section

variable {text : List Char} {index position : Nat} {mark : Char}

theorem spacedTo_drop {offset : Nat} :
    SpacedTo text (offset + index) mark (offset + position) ↔
      SpacedTo (text.drop offset) index mark position := by
  have hspaces : (text.take (offset + position)).drop (offset + index) =
      ((text.drop offset).take position).drop index := by
    rw [List.drop_take, List.drop_take, List.drop_drop, Nat.add_sub_add_left]
  constructor
  · intro hspaced
    refine ⟨Nat.le_of_add_le_add_left hspaced.le, ?_, ?_⟩
    · rw [← hspaces]
      exact hspaced.spaces
    · rw [List.getElem?_drop]
      exact hspaced.mark
  · intro hspaced
    refine ⟨Nat.add_le_add_left hspaced.le offset, ?_, ?_⟩
    · rw [hspaces]
      exact hspaced.spaces
    · rw [← List.getElem?_drop]
      exact hspaced.mark

/-- The mark is what white space is followed by. -/
theorem spacedTo_iff (hmark : isSpace mark = false) :
    SpacedTo text index mark position ↔
      ((text.drop index).drop ((text.drop index).takeWhile isSpace).length).head? = some mark ∧
        position = index + ((text.drop index).takeWhile isSpace).length := by
  constructor
  · intro hspaced
    obtain ⟨count, rfl⟩ := Nat.exists_eq_add_of_le hspaced.le
    have hzero := @spacedTo_drop text 0 count mark index
    rw [Nat.add_zero] at hzero
    obtain ⟨-, hspaces, hhere⟩ := hzero.mp hspaced
    generalize text.drop index = rest at hspaces hhere ⊢
    rw [List.drop_zero] at hspaces
    have hcount : (rest.take count).length = count := by
      have hlong : count < rest.length := by
        by_contra hshort
        rw [List.getElem?_eq_none (Nat.le_of_not_lt hshort)] at hhere
        exact absurd hhere (by nofun)
      exact List.length_take_of_le hlong.le
    have hhead : (rest.drop count).head? = some mark := by
      rw [List.head?_drop]
      exact hhere
    have htake : rest.takeWhile isSpace = rest.take count := by
      conv_lhs => rw [← List.take_append_drop count rest]
      apply takeWhile_append_of_head hspaces
      intro character hcharacter
      rw [hhead] at hcharacter
      rw [← Option.mem_some_iff.mp hcharacter]
      exact hmark
    rw [htake, hcount]
    exact ⟨hhead, rfl⟩
  · intro hhead
    obtain ⟨hhead, rfl⟩ := hhead
    refine ⟨Nat.le_add_right _ _, ?_, ?_⟩
    · have htake : (text.drop index).take ((text.drop index).takeWhile isSpace).length =
          (text.drop index).takeWhile isSpace :=
        List.prefix_iff_eq_take.mp (List.takeWhile_prefix _) |>.symm
      rw [List.drop_take, Nat.add_sub_cancel_left, htake]
      exact List.all_takeWhile
    · rw [← List.getElem?_drop, ← List.head?_drop]
      exact hhead

/-- No other character stands between. -/
theorem SpacedTo.le_of_getElem? {other : Nat} {character : Char}
    (hspaced : SpacedTo text index mark position) (hother : text[other]? = some character)
    (hcharacter : isSpace character = false) (hle : index ≤ other) : position ≤ other := by
  by_contra hlt
  have hmem : character ∈ (text.take position).drop index := by
    apply @List.mem_of_getElem? _ _ (other - index)
    rw [List.getElem?_drop, Nat.add_sub_cancel' hle, List.getElem?_take_of_lt (by omega)]
    exact hother
  have hspace := List.all_eq_true.mp hspaced.spaces _ hmem
  rw [hcharacter] at hspace
  exact Bool.false_ne_true hspace

end

/-! ## Closing braces -/

section

variable {text : List Char} {index : Nat}

theorem distanceTo_brace_eq_some :
    distanceTo ['}'] text = some index ↔ IsLeast {index | text[index]? = some '}'} index := by
  induction text generalizing index with
  | nil =>
    constructor
    · intro hnone
      exact absurd hnone (by simp [distanceTo])
    · intro hleast
      exact absurd hleast.1 (by simp)
  | cons character rest ih =>
    rw [distanceTo]
    by_cases hbrace : '}' = character
    · have hzero : IsLeast {index | (character :: rest)[index]? = some '}'} 0 := by
        refine ⟨?_, fun _ _ => Nat.zero_le _⟩
        rw [hbrace]
        rfl
      rw [if_pos (by simpa using hbrace), isLeast_iff_eq hzero, Option.some_inj, eq_comm]
    · have hshift : ∀ index, (character :: rest)[1 + index]? = some '}' ↔ rest[index]? = some '}' := by
        intro index
        rw [Nat.add_comm, List.getElem?_cons_succ]
      have hbound : ∀ index, (character :: rest)[index]? = some '}' → 1 ≤ index := by
        intro index hindex
        cases index with
        | zero => exact absurd (Option.some_inj.mp hindex).symm hbrace
        | succ index => exact Nat.succ_pos _
      rw [if_neg (by simpa using hbrace), isLeast_iff_exists hshift hbound, Option.map_eq_some_iff]
      simp only [ih, eq_comm, Nat.add_comm]

/-- At an index there is a closing brace that only white space separates from a newline, which does not
stand in front of the first index. -/
def ClosesLine (text : List Char) (first index : Nat) : Prop :=
  ∃ newline, first ≤ newline ∧ text[newline]? = some '\n' ∧ SpacedTo text (newline + 1) '}' index

theorem closesLine_drop {offset : Nat} :
    ClosesLine text offset (offset + index) ↔ ClosesLine (text.drop offset) 0 index := by
  constructor
  · intro hcloses
    obtain ⟨newline, hfirst, hnewline, hspaced⟩ := hcloses
    obtain ⟨further, rfl⟩ := Nat.exists_eq_add_of_le hfirst
    refine ⟨further, Nat.zero_le _, ?_, spacedTo_drop.mp hspaced⟩
    rw [List.getElem?_drop]
    exact hnewline
  · intro hcloses
    obtain ⟨newline, -, hnewline, hspaced⟩ := hcloses
    refine ⟨offset + newline, Nat.le_add_right _ _, ?_, spacedTo_drop.mpr hspaced⟩
    rw [← List.getElem?_drop]
    exact hnewline

theorem ClosesLine.first_le {first : Nat} (hcloses : ClosesLine text first index) :
    first ≤ index := by
  obtain ⟨newline, hfirst, -, hspaced⟩ := hcloses
  have hle := hspaced.le
  omega

/-- A newline that only white space separates from a closing brace closes the first line. -/
theorem isLeast_closesLine {rest : List Char} (hspaced : SpacedTo ('\n' :: rest) 1 '}' index) :
    IsLeast {index | ClosesLine ('\n' :: rest) 0 index} index := by
  refine ⟨⟨0, Nat.le_refl _, rfl, hspaced⟩, ?_⟩
  intro other hother
  obtain ⟨newline, -, -, hother⟩ := hother
  have hle := hother.le
  exact hspaced.le_of_getElem? hother.mark (by decide) (by omega)

/-- A first character that is no such newline closes no line. -/
theorem closesLine_cons {character : Char} {rest : List Char}
    (hhere : ¬ (character = '\n' ∧ ∃ index, SpacedTo (character :: rest) 1 '}' index)) :
    ClosesLine (character :: rest) 0 index ↔ ClosesLine (character :: rest) 1 index := by
  constructor
  · intro hcloses
    obtain ⟨newline, -, hnewline, hspaced⟩ := hcloses
    cases newline with
    | zero => exact absurd ⟨Option.some_inj.mp hnewline, index, hspaced⟩ hhere
    | succ newline => exact ⟨newline + 1, Nat.le_add_left _ _, hnewline, hspaced⟩
  · intro hcloses
    obtain ⟨newline, -, hnewline, hspaced⟩ := hcloses
    exact ⟨newline, Nat.zero_le _, hnewline, hspaced⟩

theorem closingLineLength_eq_some {length : Nat} :
    closingLineLength text = some length ↔
      ∃ index, IsLeast {index | ClosesLine text 0 index} index ∧ length = index + 1 := by
  induction text generalizing length with
  | nil =>
    constructor
    · intro hnone
      exact absurd hnone (by simp [closingLineLength])
    · intro hleast
      obtain ⟨index, hleast, -⟩ := hleast
      obtain ⟨newline, -, hnewline, -⟩ := hleast.1
      exact absurd hnewline (by simp)
  | cons character rest ih =>
    have hspaced : ∀ position, SpacedTo (character :: rest) 1 '}' position ↔
        (rest.drop (rest.takeWhile isSpace).length).head? = some '}' ∧
          position = 1 + (rest.takeWhile isSpace).length :=
      fun position => spacedTo_iff (by decide)
    rw [closingLineLength]
    by_cases hhere : character = '\n' ∧
        (rest.drop (rest.takeWhile isSpace).length).head? = some '}'
    · obtain ⟨rfl, hhead⟩ := hhere
      have hleast := isLeast_closesLine ((hspaced _).mpr ⟨hhead, rfl⟩)
      simp only [isLeast_iff_eq hleast, hhead, decide_true, Bool.and_self, if_true, exists_eq_left,
        Option.some_inj]
      omega
    · have hnot : ¬ (character = '\n' ∧ ∃ index, SpacedTo (character :: rest) 1 '}' index) := by
        intro hclosed
        obtain ⟨hnewline, index, hindex⟩ := hclosed
        exact hhere ⟨hnewline, ((hspaced _).mp hindex).1⟩
      have hshift : ∀ index, ClosesLine (character :: rest) 0 (1 + index) ↔
          ClosesLine rest 0 index := by
        intro index
        exact (closesLine_cons hnot).trans (@closesLine_drop (character :: rest) index 1)
      have hbound : ∀ index, ClosesLine (character :: rest) 0 index → 1 ≤ index :=
        fun index hcloses => ((closesLine_cons hnot).mp hcloses).first_le
      rw [if_neg (by simpa using hhere), Option.map_eq_some_iff]
      simp only [isLeast_iff_exists hshift hbound, ih]
      constructor
      · intro hlength
        obtain ⟨_, ⟨index, hleast, rfl⟩, rfl⟩ := hlength
        exact ⟨1 + index, ⟨index, hleast, rfl⟩, by omega⟩
      · intro hindex
        obtain ⟨_, ⟨index, hleast, rfl⟩, rfl⟩ := hindex
        exact ⟨index + 1, ⟨index, hleast, rfl⟩, by omega⟩

end

/-! ## Ends of bodies -/

/-- Where the body behind a brace ends, by the first of the rules that finds an end. There is no case
for a brace behind a `return`: where there is one, there is a first brace. -/
inductive EndsBody (balancedMatching : Bool) (text : List Char) (brace : Nat) : BodyEnd → Nat → Prop
  | balanced {close : Nat} (henabled : balancedMatching = true)
      (hclose : findMatching text brace = some close) :
      EndsBody balancedMatching text brace .balanced (close + 1)
  | closingLine {closer : Nat} (hopen : balancedMatching = true → findMatching text brace = none)
      (hleast : IsLeast {closer | ClosesLine text (brace + 1) closer} closer) :
      EndsBody balancedMatching text brace .closingLine (closer + 1)
  | firstBrace {closer : Nat} (hopen : balancedMatching = true → findMatching text brace = none)
      (hline : ∀ closer, ¬ ClosesLine text (brace + 1) closer)
      (hleast : IsLeast {closer | brace < closer ∧ text[closer]? = some '}'} closer) :
      EndsBody balancedMatching text brace .firstBrace (closer + 1)

section

variable {text : List Char} {brace length : Nat}

theorem bodyLength_balanced :
    BodyEnd.balanced.bodyLength (text.drop brace) = some length ↔
      ∃ close, findMatching text brace = some close ∧ brace + length = close + 1 := by
  rw [BodyEnd.bodyLength, findMatching, Option.map_eq_some_iff]
  simp only [Option.map_eq_some_iff]
  constructor
  · intro hlength
    obtain ⟨distance, hdistance, rfl⟩ := hlength
    exact ⟨distance + brace, ⟨distance, hdistance, rfl⟩, by omega⟩
  · intro hclose
    obtain ⟨_, ⟨distance, hdistance, rfl⟩, hsum⟩ := hclose
    exact ⟨distance, hdistance, by omega⟩

theorem bodyLength_closingLine :
    BodyEnd.closingLine.bodyLength (text.drop brace) = some length ↔
      ∃ closer, IsLeast {closer | ClosesLine text (brace + 1) closer} closer ∧
        brace + length = closer + 1 := by
  have hshift : ∀ index, ClosesLine text (brace + 1) (brace + 1 + index) ↔
      ClosesLine (text.drop (brace + 1)) 0 index :=
    fun index => closesLine_drop
  have hbound : ∀ index, ClosesLine text (brace + 1) index → brace + 1 ≤ index :=
    fun index hcloses => hcloses.first_le
  rw [BodyEnd.bodyLength, List.drop_drop, Option.map_eq_some_iff]
  simp only [closingLineLength_eq_some, isLeast_iff_exists hshift hbound]
  constructor
  · intro hlength
    obtain ⟨_, ⟨index, hleast, rfl⟩, rfl⟩ := hlength
    exact ⟨_, ⟨index, hleast, rfl⟩, by omega⟩
  · intro hcloser
    obtain ⟨_, ⟨index, hleast, rfl⟩, hsum⟩ := hcloser
    exact ⟨_, ⟨index, hleast, rfl⟩, by omega⟩

theorem bodyLength_firstBrace :
    BodyEnd.firstBrace.bodyLength (text.drop brace) = some length ↔
      ∃ closer, IsLeast {closer | brace < closer ∧ text[closer]? = some '}'} closer ∧
        brace + length = closer + 1 := by
  have hshift : ∀ index, (brace < brace + 1 + index ∧ text[brace + 1 + index]? = some '}') ↔
      (text.drop (brace + 1))[index]? = some '}' := by
    intro index
    rw [List.getElem?_drop]
    exact and_iff_right (by omega)
  have hbound : ∀ index, brace < index ∧ text[index]? = some '}' → brace + 1 ≤ index :=
    fun index hcloser => hcloser.1
  rw [BodyEnd.bodyLength, List.drop_drop, Option.map_eq_some_iff]
  simp only [distanceTo_brace_eq_some, isLeast_iff_exists hshift hbound]
  constructor
  · intro hlength
    obtain ⟨index, hleast, rfl⟩ := hlength
    exact ⟨_, ⟨index, hleast, rfl⟩, by omega⟩
  · intro hcloser
    obtain ⟨_, ⟨index, hleast, rfl⟩, hsum⟩ := hcloser
    exact ⟨index, hleast, by omega⟩

/-- A rule that ends the body at a least index finds no end only if there is no such index. -/
theorem bodyLength_eq_none {rule : BodyEnd} {found : Nat → Prop}
    (hrule : ∀ length, rule.bodyLength (text.drop brace) = some length ↔
      ∃ closer, IsLeast {closer | found closer} closer ∧ brace + length = closer + 1)
    (hbound : ∀ closer, found closer → brace < closer) :
    rule.bodyLength (text.drop brace) = none ↔ ∀ closer, ¬ found closer := by
  rw [← not_exists, ← exists_isLeast, Option.eq_none_iff_forall_ne_some]
  constructor
  · intro hnone hleast
    obtain ⟨closer, hleast⟩ := hleast
    have hbehind := hbound closer hleast.1
    exact hnone (closer + 1 - brace) ((hrule _).mpr ⟨closer, hleast, by omega⟩)
  · intro hnone length hlength
    obtain ⟨closer, hleast, -⟩ := (hrule length).mp hlength
    exact hnone ⟨closer, hleast⟩

/-- Without a closing brace there is none behind a `return`. -/
theorem bodyLength_afterReturn (hnone : ∀ closer, ¬ (brace < closer ∧ text[closer]? = some '}')) :
    BodyEnd.afterReturn.bodyLength (text.drop brace) = none := by
  rw [Option.eq_none_iff_forall_ne_some]
  intro length hlength
  obtain ⟨toReturn, -, hlater⟩ := Option.bind_eq_some_iff.mp hlength
  obtain ⟨toBrace, hdistance, -⟩ := Option.bind_eq_some_iff.mp hlater
  have hbrace := getElem?_of_distanceTo hdistance
  rw [List.getElem?_drop, List.getElem?_drop] at hbrace
  exact hnone _ ⟨by omega, hbrace⟩

/-- The first rule that finds an end finds the end of the body. If none does, there is none. -/
theorem bodyEnd?_spec (balancedMatching : Bool) (text : List Char) (brace : Nat) :
    match bodyEnd? balancedMatching (text.drop brace) with
    | some (rule, length) => EndsBody balancedMatching text brace rule (brace + length)
    | none => ∀ closer, ¬ (brace < closer ∧ text[closer]? = some '}') := by
  -- The rules that are tried if the brackets are not matched or not to be matched.
  have hlegacy : (balancedMatching = true → findMatching text brace = none) →
      match [BodyEnd.closingLine, .firstBrace, .afterReturn].findSome? fun rule =>
        (rule.bodyLength (text.drop brace)).map fun length => (rule, length) with
      | some (rule, length) => EndsBody balancedMatching text brace rule (brace + length)
      | none => ∀ closer, ¬ (brace < closer ∧ text[closer]? = some '}') := by
    intro hopen
    cases hline : BodyEnd.closingLine.bodyLength (text.drop brace) with
    | some length =>
      obtain ⟨closer, hleast, hstop⟩ := bodyLength_closingLine.mp hline
      simp only [List.findSome?_cons, hline, Option.map_some, hstop]
      exact .closingLine hopen hleast
    | none =>
      have hlines := (bodyLength_eq_none (fun _ => bodyLength_closingLine)
        fun _ hcloses => hcloses.first_le).mp hline
      cases hfirst : BodyEnd.firstBrace.bodyLength (text.drop brace) with
      | some length =>
        obtain ⟨closer, hleast, hstop⟩ := bodyLength_firstBrace.mp hfirst
        simp only [List.findSome?_cons, hline, hfirst, Option.map_none, Option.map_some, hstop]
        exact .firstBrace hopen hlines hleast
      | none =>
        have hnone := (bodyLength_eq_none (fun _ => bodyLength_firstBrace)
          fun _ hcloser => hcloser.1).mp hfirst
        simp only [List.findSome?_cons, hline, hfirst, bodyLength_afterReturn hnone,
          Option.map_none, List.findSome?_nil]
        exact hnone
  cases balancedMatching with
  | false => exact hlegacy (by simp)
  | true =>
    cases hbalanced : BodyEnd.balanced.bodyLength (text.drop brace) with
    | some length =>
      obtain ⟨close, hclose, hstop⟩ := bodyLength_balanced.mp hbalanced
      simp only [bodyEnd?, BodyEnd.order, if_true, List.singleton_append, List.findSome?_cons,
        hbalanced, Option.map_some, hstop]
      exact .balanced rfl hclose
    | none =>
      have hopen : findMatching text brace = none := by
        rw [BodyEnd.bodyLength, Option.map_eq_none_iff] at hbalanced
        rw [findMatching, hbalanced]
        rfl
      simp only [bodyEnd?, BodyEnd.order, if_true, List.singleton_append]
      rw [List.findSome?_cons, hbalanced]
      exact hlegacy fun _ => hopen

variable {balancedMatching : Bool} {rule : BodyEnd} {stop : Nat}

/-- A body ends at one place, by one rule. -/
theorem EndsBody.unique {rule' : BodyEnd} {stop' : Nat}
    (hends : EndsBody balancedMatching text brace rule stop)
    (hother : EndsBody balancedMatching text brace rule' stop') : rule = rule' ∧ stop = stop' := by
  cases hends with
  | balanced henabled hclose =>
    cases hother with
    | balanced _ hclose' =>
      rw [hclose, Option.some_inj] at hclose'
      exact ⟨rfl, by omega⟩
    | closingLine hopen _ => exact absurd (hclose.symm.trans (hopen henabled)) (by nofun)
    | firstBrace hopen _ _ => exact absurd (hclose.symm.trans (hopen henabled)) (by nofun)
  | closingLine hopen hleast =>
    cases hother with
    | balanced henabled hclose => exact absurd (hclose.symm.trans (hopen henabled)) (by nofun)
    | closingLine _ hleast' => exact ⟨rfl, congrArg (· + 1) (hleast.unique hleast')⟩
    | firstBrace _ hline _ => exact absurd hleast.1 (hline _)
  | firstBrace hopen hline hleast =>
    cases hother with
    | balanced henabled hclose => exact absurd (hclose.symm.trans (hopen henabled)) (by nofun)
    | closingLine _ hleast' => exact absurd hleast'.1 (hline _)
    | firstBrace _ _ hleast' => exact ⟨rfl, congrArg (· + 1) (hleast.unique hleast')⟩

theorem EndsBody.ne_afterReturn (hends : EndsBody balancedMatching text brace rule stop) :
    rule ≠ .afterReturn := by
  intro hrule
  rw [hrule] at hends
  cases hends

/-- A body ends with a closing brace. -/
theorem EndsBody.exists_closer (hbrace : text[brace]? = some '\x7b')
    (hends : EndsBody balancedMatching text brace rule stop) :
    ∃ closer, stop = closer + 1 ∧ brace < closer ∧ text[closer]? = some '}' := by
  cases hends with
  | @balanced close _ hclose =>
    obtain ⟨front, opener, closer, inside, after, -, htext, hopener, -, hstart, hstop⟩ :=
      isGroup_of_findMatching hclose
    have hopens : text[brace]? = some opener := by
      rw [htext, hstart, List.getElem?_append_right (Nat.le_refl _), Nat.sub_self]
      rfl
    rw [hbrace, Option.some_inj] at hopens
    rw [← hopens] at hopener
    obtain rfl : '}' = closer := Option.some_inj.mp hopener
    refine ⟨close, rfl, by omega, ?_⟩
    rw [htext, hstop, List.getElem?_append_right (by omega)]
    have hindex : front.length + 1 + inside.length - front.length = inside.length + 1 := by omega
    rw [hindex, List.getElem?_cons_succ, List.getElem?_append_right (Nat.le_refl _), Nat.sub_self]
    rfl
  | closingLine _ hleast =>
    obtain ⟨newline, -, -, hspaced⟩ := hleast.1
    exact ⟨_, rfl, hleast.1.first_le, hspaced.mark⟩
  | firstBrace _ _ hleast => exact ⟨_, rfl, hleast.1⟩

/-- The rules find exactly the ends of bodies. -/
theorem bodyEnd?_eq_some {length : Nat} (hbrace : text[brace]? = some '\x7b') :
    bodyEnd? balancedMatching (text.drop brace) = some (rule, length) ↔
      EndsBody balancedMatching text brace rule (brace + length) := by
  have hspec := bodyEnd?_spec balancedMatching text brace
  constructor
  · intro hend
    rw [hend] at hspec
    exact hspec
  · intro hends
    cases hend : bodyEnd? balancedMatching (text.drop brace) with
    | none =>
      rw [hend] at hspec
      obtain ⟨closer, -, hcloser⟩ := hends.exists_closer hbrace
      exact absurd hcloser (hspec closer)
    | some found =>
      rw [hend] at hspec
      obtain ⟨hrule, hstop⟩ := hspec.unique hends
      rw [← hrule, ← Nat.add_left_cancel hstop]

theorem bodyEnd?_eq_none (hbrace : text[brace]? = some '\x7b') :
    bodyEnd? balancedMatching (text.drop brace) = none ↔
      ∀ closer, ¬ (brace < closer ∧ text[closer]? = some '}') := by
  have hspec := bodyEnd?_spec balancedMatching text brace
  cases hend : bodyEnd? balancedMatching (text.drop brace) with
  | none =>
    rw [hend] at hspec
    exact iff_of_true rfl hspec
  | some found =>
    rw [hend] at hspec
    obtain ⟨closer, -, hcloser⟩ := hspec.exists_closer hbrace
    exact iff_of_false (by nofun) fun hnone => hnone closer hcloser

end

end PageGraft.Page
