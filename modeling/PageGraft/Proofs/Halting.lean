import PageGraft.Proofs.Cuts
import PageGraft.Proofs.Turns

/-!
# The readers advance, end and stay in the text

The readers of chunks, for arguments and statements, answer as well (`answers_topLevel`, `answers_statement`),
since every chunk leaves less text. Where a run ends is read off from the lengths that the readers answer.

`scanner_isSafe` puts this together. In one turn no reader stays where it is, each run halts with the answer of
the function on lists, and the answer lies in the text.
-/

namespace PageGraft.Script

open PageGraft.Text StateTransition

variable {text rest : List Char} {character : Char} {index length : Nat}

/-! ## How far the readers come -/

theorem stringLength_pos_le {quote : Char} (hlength : stringLength quote text = some length) :
    0 < length ∧ length ≤ text.length := by
  obtain ⟨body, rest, rfl, rfl, hbody⟩ := exists_of_stringLength hlength
  refine ⟨?_, by simp⟩
  cases hbody <;> exact Nat.succ_pos _

theorem regexLength_pos_le {inClass : Bool} (hlength : regexLength inClass text = some length) :
    0 < length ∧ length ≤ text.length := by
  obtain ⟨body, flags, rest, rfl, rfl, hbody, -⟩ := exists_of_regexLength hlength
  have hpositive := List.length_pos_iff.mpr hbody.ne_nil
  simp only [List.length_append]
  omega

theorem templateLength_pos_le (hlength : templateLength text = some length) :
    0 < length ∧ length ≤ text.length := by
  obtain ⟨htemplates, -⟩ := readers_sound text
  obtain ⟨body, rest, rfl, rfl, hbody⟩ := @htemplates none [] length hlength
  refine ⟨?_, by simp⟩
  cases hbody <;> exact Nat.succ_pos _

theorem blockCommentLength_le (hlength : blockCommentLength text = some length) : length ≤ text.length := by
  obtain ⟨body, rest, rfl, rfl, -⟩ := exists_of_blockCommentLength hlength
  simp

theorem lineLength_le (text : List Char) : lineLength text ≤ text.length :=
  (List.takeWhile_prefix _).length_le

theorem further_lt_of_opening {further : Nat} (hopening : opening text = .piece further) :
    further < text.length := by
  cases text with
  | nil =>
    rw [opening.eq_def] at hopening
    exact absurd hopening (by nofun)
  | cons character rest =>
    rw [List.length_cons, Nat.lt_succ_iff]
    rcases opening_eq_piece hopening with ⟨-, hlength⟩ | ⟨-, hlength⟩ | ⟨-, line, rfl, rfl⟩ |
      ⟨-, block, length, rfl, hlength, rfl⟩
    · exact (stringLength_pos_le hlength).2
    · exact (templateLength_pos_le hlength).2
    · have hline := lineLength_le line
      rw [List.length_cons]
      omega
    · have hblock := blockCommentLength_le hlength
      rw [List.length_cons]
      omega

theorem lt_of_findMatching {start stop : Nat} (hmatching : findMatching text start = some stop) :
    start < stop ∧ stop < text.length := by
  obtain ⟨front, opener, closer, inside, after, last, rfl, -, -, rfl, rfl⟩ :=
    isGroup_of_findMatching hmatching
  simp only [List.length_append, List.length_cons]
  omega

theorem lt_of_groupLength {distance : Nat} (hgroup : groupLength text = some distance) :
    distance < text.length := by
  have hmatching : findMatching text 0 = some distance := by
    rw [findMatching, List.drop_zero, hgroup, Option.map_some, Nat.add_zero]
  exact (lt_of_findMatching hmatching).2

theorem IsChunk.width_le {width : Nat} (hchunk : IsChunk text width) : width ≤ text.length := by
  cases hchunk with
  | piece hopening => exact further_lt_of_opening hopening
  | group hgroup => exact lt_of_groupLength hgroup
  | single => simp

theorem Walks.length_le {stops : Char → Bool} (hwalks : Walks stops text length) : length ≤ text.length := by
  induction hwalks with
  | here => exact Nat.zero_le _
  | chunk hchunk _ ih =>
    have hwidth := hchunk.width_le
    rw [List.length_drop] at ih
    omega

theorem statementLength_le (text : List Char) : statementLength text ≤ text.length := by
  rcases walksStatement_statementLength text with hwalks | ⟨place, hwalks, -, heq⟩
  · exact hwalks.length_le
  · have hplace := hwalks.length_le
    have hline := lineLength_le (text.drop place)
    rw [List.length_drop] at hline
    omega

theorem lt_of_topLevelDistance {stops : Char → Bool} {distance : Nat}
    (hdistance : topLevelDistance stops text = some distance) : distance < text.length := by
  fun_induction topLevelDistance stops text generalizing distance with
  | case1 => simp at hdistance
  | case2 =>
    obtain rfl := Option.some.inj hdistance
    exact Nat.succ_pos _
  | case3 => simp at hdistance
  | case4 character rest hstops further hopening ih =>
    obtain ⟨inner, hinner, rfl⟩ := Option.map_eq_some_iff.mp hdistance
    have hless := ih hinner
    rw [List.length_drop] at hless
    rw [List.length_cons]
    omega
  | case5 => simp at hdistance
  | case6 character rest hstops hopening hopener width hgroup ih =>
    obtain ⟨inner, hinner, rfl⟩ := Option.map_eq_some_iff.mp hdistance
    have hless := ih hinner
    rw [List.length_drop] at hless
    rw [List.length_cons]
    omega
  | case7 character rest hstops hopening hopener ih =>
    obtain ⟨inner, hinner, rfl⟩ := Option.map_eq_some_iff.mp hdistance
    have hless := ih hinner
    rw [List.length_cons]
    omega

/-! ## From chunk to chunk -/

section

variable {width : Nat}

theorem topLevelDistance_of_chunk {stops : Char → Bool} (hstops : ¬ stops character)
    (hchunk : IsChunk (character :: rest) width) :
    topLevelDistance stops (character :: rest) =
      (topLevelDistance stops ((character :: rest).drop width)).map (· + width) := by
  rw [topLevelDistance, if_neg hstops]
  cases hchunk with
  | piece hopening => simp only [hopening, List.drop_succ_cons]
  | group hgroup =>
    have hopener := isOpener_of_groupLength hgroup
    simp only [opening_of_isOpener hopener, if_pos hopener, hgroup, List.drop_succ_cons]
  | single hopener hopening =>
    simp only [hopening, hopener, Bool.false_eq_true, if_false, List.drop_succ_cons, List.drop_zero]

theorem topLevelDistance_of_isUnfinished {stops : Char → Bool} (hstops : ¬ stops character)
    (hunfinished : IsUnfinished (character :: rest)) : topLevelDistance stops (character :: rest) = none := by
  rw [topLevelDistance, if_neg hstops]
  rcases hunfinished with hopening | ⟨opener, _, heq, hopener, hgroup⟩
  · simp only [hopening]
  · obtain ⟨rfl, rfl⟩ := List.cons.inj heq
    simp only [opening_of_isOpener hopener, if_pos hopener, hgroup]

section

variable (hgoes : ¬ (character = ';' ∨ character = '\n' ∨ startsComment (character :: rest)))
include hgoes

theorem statementLength_of_chunk (hchunk : IsChunk (character :: rest) width) :
    statementLength (character :: rest) = statementLength ((character :: rest).drop width) + width := by
  rw [statementLength, if_neg (by simpa [or_assoc] using hgoes)]
  cases hchunk with
  | piece hopening => simp only [hopening, List.drop_succ_cons]
  | group hgroup =>
    have hopener := isOpener_of_groupLength hgroup
    simp only [opening_of_isOpener hopener, if_pos hopener, hgroup, List.drop_succ_cons]
  | single hopener hopening =>
    simp only [hopening, hopener, Bool.false_eq_true, if_false, List.drop_succ_cons, List.drop_zero]

theorem statementLength_of_isUnfinished (hunfinished : IsUnfinished (character :: rest)) :
    statementLength (character :: rest) = lineLength (character :: rest) := by
  rw [statementLength, if_neg (by simpa [or_assoc] using hgoes)]
  rcases hunfinished with hopening | ⟨opener, _, heq, hopener, hgroup⟩
  · simp only [hopening]
  · obtain ⟨rfl, rfl⟩ := List.cons.inj heq
    simp only [opening_of_isOpener hopener, if_pos hopener, hgroup]

end

/-- A chunk is passed over whole, and a reader is stuck at something unfinished. -/
theorem answers_passChunk {stuck : Action} {next : Nat → Action} {result : Option Nat}
    (hdrop : text.drop index = character :: rest)
    (hnext : ∀ width, IsChunk (character :: rest) width → Answers text (next (index + width)) result)
    (hstuck : IsUnfinished (character :: rest) → Answers text stuck result) :
    Answers text (passChunk text index stuck next) result := by
  refine answers_skip (fun _ => answers_template text (index + 1)) ?_ ?_ ?_
  · intro further hopening
    rw [hdrop] at hopening
    exact hnext _ (.piece hopening)
  · intro hopening
    rw [hdrop] at hopening
    exact hstuck (.inl hopening)
  · intro hopening
    rw [hdrop] at hopening
    rw [getElem?_of_drop_cons hdrop, Option.any_some]
    by_cases hopener : isOpener character
    · rw [if_pos hopener]
      refine answers_call (answers_group hdrop hopener) ?_
      rw [findMatching, hdrop]
      cases hgroup : groupLength (character :: rest) with
      | none => exact hstuck (.inr ⟨character, rest, rfl, hopener, hgroup⟩)
      | some distance =>
        have hstop : distance + index + 1 = index + (distance + 1) := by omega
        rw [Option.map_some, Option.elim_some, hstop]
        exact hnext _ (.group hgroup)
    · rw [if_neg hopener]
      exact hnext 1 (.single (by simpa using hopener) hopening)

theorem answers_topLevel (text : List Char) (stops : Char → Bool) (index : Nat) :
    Answers text (.goOn (.topLevel stops) index) (findTopLevel text stops index) := by
  unfold findTopLevel
  induction index using left_induction text with
  | hstep index hlater =>
    apply answers_goOn
    cases hdrop : text.drop index with
    | nil =>
      unfold turn
      rw [getElem?_of_drop_nil hdrop]
      rw [topLevelDistance]
      exact answers_answer _ _
    | cons character rest =>
      unfold turn
      rw [getElem?_of_drop_cons hdrop]
      dsimp only
      by_cases hstops : stops character
      · rw [if_pos hstops, topLevelDistance, if_pos hstops, Option.map_some, Nat.zero_add]
        exact answers_answer _ _
      · rw [if_neg hstops]
        refine answers_passChunk hdrop (fun width hchunk => ?_) fun hunfinished => ?_
        · have hpositive := hchunk.width_pos
          rw [topLevelDistance_of_chunk hstops hchunk, map_add_map_add, ← hdrop, List.drop_drop]
          exact hlater (by simp [hdrop]) _ (by omega)
        · rw [topLevelDistance_of_isUnfinished hstops hunfinished]
          exact answers_answer _ _

theorem answers_statement (text : List Char) (index : Nat) :
    Answers text (.goOn .statement index) (some (findStatementEnd text index)) := by
  induction index using left_induction text with
  | hstep index hlater =>
    apply answers_goOn
    cases hdrop : text.drop index with
    | nil =>
      have hindex : text.length ≤ index := List.drop_eq_nil_iff.mp hdrop
      unfold turn
      rw [getElem?_of_drop_nil hdrop]
      rw [findStatementEnd, hdrop, statementLength, Nat.min_eq_right hindex, Nat.add_zero]
      exact answers_answer _ _
    | cons character rest =>
      have hlength : (character :: rest).length = text.length - index := by
        rw [← hdrop, List.length_drop]
      have hindex : index < text.length := by
        rw [List.length_cons] at hlength
        omega
      unfold turn
      rw [getElem?_of_drop_cons hdrop]
      simp only [hdrop]
      rw [findStatementEnd, hdrop, Nat.min_eq_left hindex.le]
      by_cases hgoes : character = ';' ∨ character = '\n' ∨ startsComment (character :: rest)
      · rw [if_pos hgoes, statementLength, if_pos (by simpa [or_assoc] using hgoes), Nat.add_zero]
        exact answers_answer _ _
      · rw [if_neg hgoes]
        refine answers_passChunk hdrop (fun width hchunk => ?_) fun hunfinished => ?_
        · have hpositive := hchunk.width_pos
          have hwidth := hchunk.width_le
          have hgoOn := hlater (by simp [hdrop]) (index + width) (by omega)
          rw [findStatementEnd, Nat.min_eq_left (by omega), ← List.drop_drop, hdrop] at hgoOn
          have hstop : index + (statementLength ((character :: rest).drop width) + width) =
              index + width + statementLength ((character :: rest).drop width) := by
            omega
          rw [statementLength_of_chunk hgoes hchunk, hstop]
          exact hgoOn
        · rw [statementLength_of_isUnfinished hgoes hunfinished]
          exact answers_answer _ _

end

/-! ## Advance -/

/-- Seen from an index, an action answers or goes on behind the index. So does what a call resumes with, the
call being answered. -/
inductive Action.Advances (text : List Char) (index : Nat) : Action → Prop where
  | answer (result : Option Nat) : Advances text index (.answer result)
  | goOn (reader : Reader) {next : Nat} (hnext : index < next) : Advances text index (.goOn reader next)
  | call {reader : Reader} {start : Nat} {resume : Option Nat → Action} {found : Option Nat}
    (hstart : index ≤ start) (hcall : Answers text (.goOn reader start) found)
    (hresume : Advances text index (resume found)) : Advances text index (.call reader start resume)

section

variable {resume : Option Nat → Action}

/-- A call with an answer that lies so much further on than the index. -/
theorem Action.Advances.call_of_map {reader : Reader} {start : Nat} {found : Option Nat} (hstart : index ≤ start)
    (hcall : Answers text (.goOn reader start) (found.map (· + start)))
    (hnone : (resume none).Advances text index)
    (hsome : ∀ stop, start ≤ stop → (resume (some stop)).Advances text index) :
    (Action.call reader start resume).Advances text index := by
  refine .call hstart hcall ?_
  cases found with
  | none => exact hnone
  | some length => exact hsome _ (Nat.le_add_left start length)

theorem skip_advances {code : Action} (hnone : (resume none).Advances text index)
    (hsome : ∀ stop, index < stop → (resume (some stop)).Advances text index)
    (hcode : code.Advances text index) : (skip text index resume code).Advances text index := by
  have hlater : ∀ stop, index + 1 ≤ stop → (resume (some stop)).Advances text index := hsome
  unfold skip
  split
  · exact .call_of_map (Nat.le_succ index) (answers_string text '\'' (index + 1)) hnone hlater
  · exact .call_of_map (Nat.le_succ index) (answers_string text '"' (index + 1)) hnone hlater
  · exact .call_of_map (Nat.le_succ index) (answers_template text (index + 1)) hnone hlater
  · exact hsome _ (by omega)
  · rename_i rest _
    cases blockCommentLength rest with
    | none => exact hnone
    | some length =>
      refine hsome (length + (index + 2)) ?_
      omega
  · exact hcode

theorem takeCode_advances (expected : List Char) (previous : Option Char) (character : Char) :
    (takeCode expected previous character index).Advances text index := by
  have hgoOn : ∀ expected previous,
      (Action.goOn (.brackets expected previous) (index + 1)).Advances text index :=
    fun _ _ => .goOn _ (Nat.lt_succ_self index)
  unfold takeCode
  repeat' split
  all_goals first | exact hgoOn _ _ | exact .answer _

theorem passChunk_advances {stuck : Action} {next : Nat → Action} (hstuck : stuck.Advances text index)
    (hnext : ∀ stop, index < stop → (next stop).Advances text index) :
    (passChunk text index stuck next).Advances text index := by
  refine skip_advances hstuck hnext ?_
  cases hdrop : text.drop index with
  | nil =>
    rw [getElem?_of_drop_nil hdrop]
    exact hnext _ (Nat.lt_succ_self index)
  | cons character rest =>
    rw [getElem?_of_drop_cons hdrop, Option.any_some]
    by_cases hopener : isOpener character
    · rw [if_pos hopener]
      exact .call_of_map (Nat.le_refl index) (answers_group hdrop hopener) hstuck
        fun stop hstop => hnext _ (Nat.lt_succ_of_le hstop)
    · rw [if_neg hopener]
      exact hnext _ (Nat.lt_succ_self index)

end

theorem turn_advances (text : List Char) (reader : Reader) (index : Nat) :
    (turn text reader index).Advances text index := by
  have hgoOn : ∀ reader further, (Action.goOn reader (index + (further + 1))).Advances text index :=
    fun _ _ => .goOn _ (by omega)
  unfold turn
  cases hhead : text[index]? with
  | none =>
    cases reader <;> exact .answer _
  | some character =>
    cases reader with
    | string quote =>
      dsimp only
      repeat' split
      all_goals first | exact hgoOn _ 0 | exact hgoOn _ 1 | exact .answer _
    | regex inClass =>
      dsimp only
      repeat' split
      all_goals first | exact hgoOn _ 0 | exact hgoOn _ 1 | exact .answer _
    | flags =>
      dsimp only
      split
      · exact hgoOn _ 0
      · exact .answer _
    | template =>
      dsimp only
      split
      · exact hgoOn _ 1
      · split
        · exact .answer _
        · split
          · rename_i hsubstitution
            have hinside := hsubstitution.2
            rw [← List.head?_drop] at hinside
            obtain ⟨inside, hdrop⟩ := List.head?_eq_some_iff.mp hinside
            exact .call_of_map (Nat.le_succ index) (answers_group hdrop (by decide)) (.answer none)
              fun stop hstop => .goOn _ (by omega)
          · exact hgoOn _ 0
    | brackets expected previous =>
      dsimp only
      refine skip_advances (.answer none) (fun stop hstop => .goOn _ hstop) ?_
      split
      · exact .call_of_map (Nat.le_succ index) (answers_regex text false (index + 1))
          (takeCode_advances expected previous character) fun stop hstop => .goOn _ hstop
      · exact takeCode_advances expected previous character
    | topLevel stops =>
      dsimp only
      split
      · exact .answer _
      · exact passChunk_advances (.answer none) fun stop hstop => .goOn _ hstop
    | statement =>
      dsimp only
      split
      · exact .answer _
      · exact passChunk_advances (.answer _) fun stop hstop => .goOn _ hstop

/-! ## Safety -/

/-- A run without other calls halts with the answer. -/
theorem Answers.mem_eval {action : Action} {result : Option Nat} (hanswers : Answers text action result) :
    (.answer result, []) ∈ eval (step text) (action, []) :=
  StateTransition.mem_eval.mpr ⟨hanswers [], rfl⟩

/-- The run of an action halts with a result, and an index that it answers lies in a range. -/
structure EndsIn (text : List Char) (action : Action) (result : Option Nat) (range : Set Nat) : Prop where
  halts : (.answer result, []) ∈ eval (step text) (action, [])
  mem : ∀ stop ∈ result, stop ∈ range

/-- The index behind the string, template literal or comment that begins at an index. -/
def Opening.stop (index : Nat) : Opening → Option Nat
  | .piece further => some (index + (further + 1))
  | .unterminated => none
  | .code => none

/-- From an index on, the readers advance, halt and stay in the text. The readers of literals begin behind the
first character. A statement that begins behind the end of the text ends with the text. -/
structure IsSafe (text : List Char) (start : Nat) : Prop where
  advances : ∀ reader, (turn text reader start).Advances text start
  string : ∀ quote, EndsIn text (.goOn (.string quote) (start + 1))
    ((stringLength quote (text.drop (start + 1))).map (· + (start + 1))) (Set.Ioc start text.length)
  template : EndsIn text (.goOn .template (start + 1))
    ((templateLength (text.drop (start + 1))).map (· + (start + 1))) (Set.Ioc start text.length)
  regex : EndsIn text (.goOn (.regex false) (start + 1))
    ((regexLength false (text.drop (start + 1))).map (· + (start + 1))) (Set.Ioc start text.length)
  piece : EndsIn text (skip text start .answer (.answer none)) ((opening (text.drop start)).stop start)
    (Set.Ioc start text.length)
  matching : EndsIn text (matchAt text start) (findMatching text start) (Set.Ioo start text.length)
  topLevel : ∀ stops, EndsIn text (.goOn (.topLevel stops) start) (findTopLevel text stops start)
    (Set.Ico start text.length)
  statement : EndsIn text (.goOn .statement start) (some (findStatementEnd text start))
    (Set.Icc (min start text.length) text.length)

section

variable {start : Nat}

/-- What is read from an index behind the start lies behind the start, and in the text with what is read. -/
theorem mem_Ioc_of_length {found : Option Nat} {stop : Nat} (hstop : stop ∈ found.map (· + (start + 1)))
    (hlength : ∀ length, found = some length → 0 < length ∧ length ≤ (text.drop (start + 1)).length) :
    stop ∈ Set.Ioc start text.length := by
  obtain ⟨length, hfound, rfl⟩ := Option.map_eq_some_iff.mp hstop
  obtain ⟨hpositive, hle⟩ := hlength length hfound
  rw [List.length_drop] at hle
  rw [Set.mem_Ioc]
  omega

theorem answers_piece (text : List Char) (start : Nat) :
    Answers text (skip text start .answer (.answer none)) ((opening (text.drop start)).stop start) := by
  refine answers_skip (fun _ => answers_template text (start + 1)) ?_ ?_ ?_
  · intro further hopening
    rw [hopening]
    exact answers_answer _ _
  · intro hopening
    rw [hopening]
    exact answers_answer _ _
  · intro hopening
    rw [hopening]
    exact answers_answer _ _

theorem mem_Ioc_of_opening {stop : Nat} (hstop : stop ∈ (opening (text.drop start)).stop start) :
    stop ∈ Set.Ioc start text.length := by
  cases hopening : opening (text.drop start) with
  | piece further =>
    rw [hopening] at hstop
    obtain rfl := Option.some.inj hstop
    have hless := further_lt_of_opening hopening
    rw [List.length_drop] at hless
    rw [Set.mem_Ioc]
    omega
  | unterminated =>
    rw [hopening] at hstop
    exact absurd hstop (by nofun)
  | code =>
    rw [hopening] at hstop
    exact absurd hstop (by nofun)

theorem mem_Ico_of_findTopLevel {stops : Char → Bool} {stop : Nat}
    (hstop : findTopLevel text stops start = some stop) : stop ∈ Set.Ico start text.length := by
  obtain ⟨distance, hdistance, rfl⟩ := Option.map_eq_some_iff.mp hstop
  have hless := lt_of_topLevelDistance hdistance
  rw [List.length_drop] at hless
  rw [Set.mem_Ico]
  omega

theorem findStatementEnd_mem_Icc (text : List Char) (start : Nat) :
    findStatementEnd text start ∈ Set.Icc (min start text.length) text.length := by
  have hlength := statementLength_le (text.drop start)
  rw [List.length_drop] at hlength
  rw [Set.mem_Icc, findStatementEnd]
  omega

end

/-- From every index of every text the readers advance, end and stay in the text, also where a literal does not
end or a bracket is not closed. -/
theorem scanner_isSafe (text : List Char) (start : Nat) : IsSafe text start where
  advances reader := turn_advances text reader start
  string quote :=
    { halts := (answers_string text quote (start + 1)).mem_eval
      mem := fun _ hstop => mem_Ioc_of_length hstop fun _ => stringLength_pos_le }
  template :=
    { halts := (answers_template text (start + 1)).mem_eval
      mem := fun _ hstop => mem_Ioc_of_length hstop fun _ => templateLength_pos_le }
  regex :=
    { halts := (answers_regex text false (start + 1)).mem_eval
      mem := fun _ hstop => mem_Ioc_of_length hstop fun _ => regexLength_pos_le }
  piece :=
    { halts := (answers_piece text start).mem_eval
      mem := fun _ => mem_Ioc_of_opening }
  matching :=
    { halts := (answers_matchAt text start).mem_eval
      mem := fun _ => lt_of_findMatching }
  topLevel stops :=
    { halts := (answers_topLevel text stops start).mem_eval
      mem := fun _ => mem_Ico_of_findTopLevel }
  statement :=
    { halts := (answers_statement text start).mem_eval
      mem := fun stop hstop => by
        obtain rfl := Option.some.inj hstop
        exact findStatementEnd_mem_Icc text start }

end PageGraft.Script
