import PageGraft.Proofs.CallRewriting
import PageGraft.Proofs.Matching
import PageGraft.Proofs.Passages

/-!
# Which calls become assignments

The calls of state setters that become assignments, whatever else the text holds: `IsAssignment` is such
a call at the front of a text, and `IsAssigned` one that the replacement comes to, in front of others,
behind them or in their arguments. A text begins with one or it does not (`assignment_induction`), and in
the second case its first character is kept (`replaceCalls_of_not_isAssignment`).

As a substitution (`stateAssignment`) the replacement takes from the old text the callees and both
parentheses of these calls, and nothing else (`IsAssigned.replacesAt`, `exists_isAssigned_of_replaced`).
-/

namespace PageGraft.Script

open PageGraft.Page PageGraft.Text PageGraft.Settings

/-- A text begins with the call of a state setter that becomes an assignment: a word can begin there,
the name is not preserved, and the parenthesis closes. -/
structure IsAssignment (preserved : List String) (previous : Option Char)
    (text name arguments behind : List Char) : Prop where
  text_eq : text = name ++ '(' :: (arguments ++ ')' :: behind)
  starts : startsWord previous
  setter : isSetter name
  unpreserved : String.ofList name ∉ preserved
  closes : groupLength ('(' :: (arguments ++ ')' :: behind)) = some (arguments.length + 1)

/-- The lengths of the name and of the arguments of a call that becomes an assignment. -/
def assignment? (preserved : List String) (previous : Option Char) (text : List Char) :
    Option (Nat × Nat) := do
  let length ← setterCallee previous text
  guard (!preserved.contains (String.ofList (text.take length)))
  let distance ← groupLength (text.drop length)
  pure (length, distance - 1)

section

variable {preserved : List String} {previous : Option Char}
  {text name arguments behind rest : List Char} {character : Char}

theorem IsAssignment.setterCallee_eq
    (hcall : IsAssignment preserved previous text name arguments behind) :
    setterCallee previous text = some name.length :=
  recognises_setterCallee.found_iff.mpr ⟨hcall.starts, name, _, hcall.text_eq, hcall.setter, rfl⟩

theorem IsAssignment.assignment?_eq
    (hcall : IsAssignment preserved previous text name arguments behind) :
    assignment? preserved previous text = some (name.length, arguments.length) := by
  have htake : text.take name.length = name := by rw [hcall.text_eq, List.take_left]
  have hdrop : text.drop name.length = '(' :: (arguments ++ ')' :: behind) := by
    rw [hcall.text_eq, List.drop_left]
  simp [assignment?, hcall.setterCallee_eq, htake, hdrop, hcall.unpreserved, hcall.closes]

theorem exists_of_assignment? {length width : Nat}
    (hfound : assignment? preserved previous text = some (length, width)) :
    ∃ name arguments behind, IsAssignment preserved previous text name arguments behind ∧
      name.length = length ∧ arguments.length = width := by
  simp only [assignment?, Option.bind_eq_bind, Option.bind_eq_some_iff, Option.pure_def,
    Option.some.injEq, Prod.mk.injEq] at hfound
  obtain ⟨length', hcallee, ⟨⟩, hpreserved, distance, hgroup, rfl, rfl⟩ := hfound
  obtain ⟨hstarts, name, rest, rfl, hsetter, rfl⟩ := recognises_setterCallee.found_iff.mp hcallee
  rw [List.drop_left] at hgroup
  rw [List.take_left] at hpreserved
  obtain ⟨arguments, behind, _, rfl, rfl, -⟩ :=
    exists_group_of_closingDistance rfl (readers_sound rest).2 hgroup
  refine ⟨name, arguments, behind, ⟨rfl, hstarts, hsetter, ?_, hgroup⟩, rfl, rfl⟩
  simpa [guard] using hpreserved

theorem IsAssignment.unique {name' arguments' behind' : List Char}
    (hcall : IsAssignment preserved previous text name arguments behind)
    (hcall' : IsAssignment preserved previous text name' arguments' behind') :
    name = name' ∧ arguments = arguments' ∧ behind = behind' := by
  have hlengths := hcall.assignment?_eq.symm.trans hcall'.assignment?_eq
  obtain ⟨hname, harguments⟩ : name.length = name'.length ∧ arguments.length = arguments'.length := by
    simpa using hlengths
  obtain ⟨rfl, hinner⟩ := List.append_inj (hcall.text_eq.symm.trans hcall'.text_eq) hname
  obtain ⟨rfl, hbehind⟩ := List.append_inj (List.cons.inj hinner).2 harguments
  exact ⟨rfl, rfl, (List.cons.inj hbehind).2⟩

/-- Every text is empty, or begins with a call that becomes an assignment, or does not. -/
theorem assignment_induction (preserved : List String) {motive : Option Char → List Char → Prop}
    (nil : ∀ previous, motive previous [])
    (call : ∀ previous text name arguments behind,
      IsAssignment preserved previous text name arguments behind →
        motive none arguments → motive (some ')') behind → motive previous text)
    (step : ∀ previous character rest,
      (∀ name arguments behind,
        ¬ IsAssignment preserved previous (character :: rest) name arguments behind) →
        motive (some character) rest → motive previous (character :: rest))
    (previous : Option Char) (text : List Char) : motive previous text := by
  induction hlength : text.length using Nat.strong_induction_on generalizing previous text with
  | _ length ih =>
    subst hlength
    by_cases hcall : ∃ name arguments behind,
        IsAssignment preserved previous text name arguments behind
    · obtain ⟨name, arguments, behind, hcall⟩ := hcall
      have hlength : text.length = name.length + arguments.length + behind.length + 2 := by
        simp only [hcall.text_eq, List.length_append, List.length_cons]
        omega
      exact call previous text name arguments behind hcall
        (ih arguments.length (by omega) none arguments rfl)
        (ih behind.length (by omega) (some ')') behind rfl)
    · cases text with
      | nil => exact nil previous
      | cons character rest =>
        refine step previous character rest ?_ (ih rest.length (by simp) _ rest rfl)
        intro name arguments behind hhere
        exact hcall ⟨name, arguments, behind, hhere⟩

/-! ## The replacement of calls -/

theorem replaceCalls_of_isAssignment
    (hcall : IsAssignment preserved previous text name arguments behind) :
    replaceCalls setterCallee (setterToAssignment preserved) previous text =
      decapitalise (name.drop 3) ++ " = ".toList ++
        replaceCalls setterCallee (setterToAssignment preserved) none arguments ++
        replaceCalls setterCallee (setterToAssignment preserved) (some ')') behind := by
  obtain ⟨rfl, hstarts, hsetter, hpreserved, hcloses⟩ := hcall
  have hnonempty := (recognises_setterCallee.plain hsetter).2
  have hfound : setterCallee previous (name ++ '(' :: (arguments ++ ')' :: behind)) =
      some name.length :=
    recognises_setterCallee.found_iff.mpr ⟨hstarts, name, _, rfl, hsetter, rfl⟩
  rw [replaceCalls_of_found hnonempty hfound hcloses, List.take_left, setterToAssignment]
  simp [hpreserved]

/-- In the middle of a name no callee begins. -/
theorem splitCallee_of_isNamePart {stretch : List Char} (hcharacter : isNamePart character)
    (hname : stretch.all isNamePart) {isCallee : List Char → Bool} :
    splitCallee isCallee (some character) stretch = none := by
  induction stretch generalizing character with
  | nil => rfl
  | cons first stretch ih =>
    rw [List.all_cons, Bool.and_eq_true] at hname
    simp [splitCallee, startsWord, hcharacter, ih hname.1 hname.2]

theorem replaceCalls_of_not_isAssignment
    (hnone : ∀ name arguments behind,
      ¬ IsAssignment preserved previous (character :: rest) name arguments behind) :
    replaceCalls setterCallee (setterToAssignment preserved) previous (character :: rest) =
      character ::
        replaceCalls setterCallee (setterToAssignment preserved) (some character) rest := by
  cases hfound : setterCallee previous (character :: rest) with
  | none => rw [replaceCalls, hfound]
  | some length =>
    obtain ⟨hstarts, name, inner, htext, hsetter, rfl⟩ :=
      recognises_setterCallee.found_iff.mp hfound
    -- the call is preserved, or its parenthesis does not close
    have hkept : ∀ distance, groupLength ('(' :: inner) = some distance →
        setterToAssignment preserved name (replaceCalls setterCallee
          (setterToAssignment preserved) none (inner.take (distance - 1))) = none := by
      intro distance hgroup
      obtain ⟨arguments, behind, _, rfl, rfl, -⟩ :=
        exists_group_of_closingDistance rfl (readers_sound inner).2 hgroup
      by_cases hpreserved : String.ofList name ∈ preserved
      · simp [setterToAssignment, hpreserved]
      · exact absurd ⟨htext, hstarts, hsetter, hpreserved, hgroup⟩ (hnone name arguments behind)
    obtain ⟨hplain, hnonempty⟩ := recognises_setterCallee.plain hsetter
    have hname := isNamePart_of_isSetter hsetter
    obtain ⟨first, more, rfl⟩ := List.exists_cons_of_ne_nil hnonempty
    rw [List.cons_append] at htext
    obtain ⟨rfl, rfl⟩ := List.cons.inj htext
    rw [List.all_cons, Bool.and_eq_true] at hplain hname
    have hparenthesis : ∀ mark ∈ ('(' :: inner).head?, isPlain mark = false := by
      rintro mark ⟨⟩
      rfl
    have hrest : replaceCalls setterCallee (setterToAssignment preserved) (some character)
        (more ++ '(' :: inner) = more ++
          replaceCalls setterCallee (setterToAssignment preserved) none ('(' :: inner) :=
      replaceCalls_stretch recognises_setterCallee hplain.2 hparenthesis
        (fun _ => splitCallee_of_isNamePart hname.1 hname.2)
    rw [hrest, replaceCalls_cons_of_not_isPlain recognises_setterCallee (hparenthesis _ rfl)]
    exact replaceCalls_of_kept hnonempty hfound hkept

/-! ## The replacement as a substitution -/

/-- What the replacement of calls keeps and replaces: of each call that becomes an assignment the callee
with its parenthesis, and the closing parenthesis. -/
def assignPassages (preserved : List String) (previous : Option Char) : List Char → List Passage
  | [] => []
  | character :: rest =>
    match assignment? preserved previous (character :: rest) with
    | none => .kept character :: assignPassages preserved (some character) rest
    | some (length, width) =>
      let name := (character :: rest).take length
      let inner := (character :: rest).drop (length + 1)
      .replaced (name ++ ['(']) (decapitalise (name.drop 3) ++ " = ".toList) ::
        (assignPassages preserved none (inner.take width) ++
          .replaced [')'] [] :: assignPassages preserved (some ')') (inner.drop (width + 1)))
termination_by text => text.length
decreasing_by all_goals simp only [List.length_take, List.length_drop, List.length_cons]; omega

theorem assignPassages_of_isAssignment
    (hcall : IsAssignment preserved previous text name arguments behind) :
    assignPassages preserved previous text =
      .replaced (name ++ ['(']) (decapitalise (name.drop 3) ++ " = ".toList) ::
        (assignPassages preserved none arguments ++
          .replaced [')'] [] :: assignPassages preserved (some ')') behind) := by
  have hfound := hcall.assignment?_eq
  obtain ⟨rfl, -, hsetter, -, -⟩ := hcall
  have hname : (name ++ '(' :: (arguments ++ ')' :: behind)).take name.length = name :=
    List.take_left
  have hinner : (name ++ '(' :: (arguments ++ ')' :: behind)).drop (name.length + 1) =
      arguments ++ ')' :: behind := by simp
  have harguments : (arguments ++ ')' :: behind).take arguments.length = arguments := List.take_left
  have hbehind : (arguments ++ ')' :: behind).drop (arguments.length + 1) = behind := by simp
  obtain ⟨first, more, rfl⟩ :=
    List.exists_cons_of_ne_nil (recognises_setterCallee.plain hsetter).2
  rw [List.cons_append] at hfound hname hinner ⊢
  rw [assignPassages]
  simp only [hfound, hname, hinner, harguments, hbehind]

theorem assignPassages_of_not_isAssignment
    (hnone : ∀ name arguments behind,
      ¬ IsAssignment preserved previous (character :: rest) name arguments behind) :
    assignPassages preserved previous (character :: rest) =
      .kept character :: assignPassages preserved (some character) rest := by
  rw [assignPassages]
  split
  · rfl
  · rename_i hfound
    obtain ⟨name, arguments, behind, hcall, -⟩ := exists_of_assignment? hfound
    exact absurd hcall (hnone name arguments behind)

theorem oldText_assignPassages (previous : Option Char) (text : List Char) :
    oldText (assignPassages preserved previous text) = text := by
  induction previous, text using assignment_induction preserved with
  | nil previous => rw [assignPassages, oldText_nil]
  | call previous text name arguments behind hcall harguments hbehind =>
    rw [assignPassages_of_isAssignment hcall, hcall.text_eq]
    simp [Passage.old, harguments, hbehind]
  | step previous character rest hnone hrest =>
    rw [assignPassages_of_not_isAssignment hnone, oldText_cons, hrest, Passage.old,
      List.singleton_append]

theorem newText_assignPassages (previous : Option Char) (text : List Char) :
    newText (assignPassages preserved previous text) =
      replaceCalls setterCallee (setterToAssignment preserved) previous text := by
  induction previous, text using assignment_induction preserved with
  | nil previous => rw [assignPassages, newText_nil, replaceCalls]
  | call previous text name arguments behind hcall harguments hbehind =>
    rw [assignPassages_of_isAssignment hcall, replaceCalls_of_isAssignment hcall]
    simp [Passage.new, harguments, hbehind]
  | step previous character rest hnone hrest =>
    rw [assignPassages_of_not_isAssignment hnone, replaceCalls_of_not_isAssignment hnone,
      newText_cons, hrest, Passage.new, List.singleton_append]

end

/-- State setters become assignments. -/
def stateAssignment (settings : TransformSettings) : Substitution where
  apply := assignState settings
  passages := assignPassages settings.preservedCalls none
  oldText_passages := oldText_assignPassages none
  newText_passages := newText_assignPassages none

/-! ## Where calls are replaced -/

/-- A call becomes an assignment whose name begins at one index and whose closing parenthesis stands at
another. Arguments are a text of their own. -/
inductive IsAssigned (preserved : List String) : Option Char → List Char → Nat → Nat → Prop
  | here {previous : Option Char} {text name arguments behind : List Char}
      (hcall : IsAssignment preserved previous text name arguments behind) :
      IsAssigned preserved previous text 0 (name.length + 1 + arguments.length)
  | inside {previous : Option Char} {text name arguments behind : List Char} {first last : Nat}
      (hcall : IsAssignment preserved previous text name arguments behind)
      (hassigned : IsAssigned preserved none arguments first last) :
      IsAssigned preserved previous text (name.length + 1 + first) (name.length + 1 + last)
  | behind {previous : Option Char} {text name arguments behind : List Char} {first last : Nat}
      (hcall : IsAssignment preserved previous text name arguments behind)
      (hassigned : IsAssigned preserved (some ')') behind first last) :
      IsAssigned preserved previous text (name.length + 1 + arguments.length + 1 + first)
        (name.length + 1 + arguments.length + 1 + last)
  | later {previous : Option Char} {rest : List Char} {character : Char} {first last : Nat}
      (hnone : ∀ name arguments behind,
        ¬ IsAssignment preserved previous (character :: rest) name arguments behind)
      (hassigned : IsAssigned preserved (some character) rest first last) :
      IsAssigned preserved previous (character :: rest) (first + 1) (last + 1)

/-- Something is replaced that begins at an index. -/
def ReplacesAt (passages : List Passage) (index : Nat) : Prop :=
  ∃ before old new after, passages = before ++ .replaced old new :: after ∧
    (oldText before).length = index ∧ old ≠ []

section

variable {passages before after : List Passage} {index : Nat}

theorem ReplacesAt.append_left (hreplaces : ReplacesAt passages index) (before : List Passage)
    {place : Nat} (hplace : place = (oldText before).length + index) :
    ReplacesAt (before ++ passages) place := by
  obtain ⟨earlier, old, new, later, rfl, rfl, hold⟩ := hreplaces
  exact ⟨before ++ earlier, old, new, later, by simp, by simp [hplace], hold⟩

theorem ReplacesAt.append_right (hreplaces : ReplacesAt passages index) (after : List Passage) :
    ReplacesAt (passages ++ after) index := by
  obtain ⟨earlier, old, new, later, rfl, rfl, hold⟩ := hreplaces
  exact ⟨earlier, old, new, later ++ after, by simp, rfl, hold⟩

theorem replacesAt_zero {old new : List Char} (hold : old ≠ []) :
    ReplacesAt (.replaced old new :: after) 0 :=
  ⟨[], old, new, after, rfl, rfl, hold⟩

end

section

variable {preserved : List String} {previous : Option Char} {text : List Char}

section

variable {name arguments behind : List Char}
  (hcall : IsAssignment preserved previous text name arguments behind)

include hcall

theorem IsAssignment.replacesAt_inside {index : Nat}
    (hreplaces : ReplacesAt (assignPassages preserved none arguments) index) :
    ReplacesAt (assignPassages preserved previous text) (name.length + 1 + index) := by
  rw [assignPassages_of_isAssignment hcall]
  refine (hreplaces.append_right _).append_left [.replaced (name ++ ['(']) _] ?_
  simp [Passage.old]

theorem IsAssignment.replacesAt_closing :
    ReplacesAt (assignPassages preserved previous text) (name.length + 1 + arguments.length) := by
  rw [assignPassages_of_isAssignment hcall]
  refine (replacesAt_zero (List.cons_ne_nil _ _)).append_left
    (.replaced (name ++ ['(']) _ :: assignPassages preserved none arguments) ?_
  simp only [oldText_cons, oldText_assignPassages, Passage.old, List.length_append,
    List.length_cons, List.length_nil]
  omega

theorem IsAssignment.replacesAt_behind {index : Nat}
    (hreplaces : ReplacesAt (assignPassages preserved (some ')') behind) index) :
    ReplacesAt (assignPassages preserved previous text)
      (name.length + 1 + arguments.length + 1 + index) := by
  rw [assignPassages_of_isAssignment hcall]
  have hclosing : ReplacesAt (.replaced [')'] [] :: assignPassages preserved (some ')') behind)
      (1 + index) := hreplaces.append_left [.replaced [')'] []] rfl
  refine hclosing.append_left
    (.replaced (name ++ ['(']) _ :: assignPassages preserved none arguments) ?_
  simp only [oldText_cons, oldText_assignPassages, Passage.old, List.length_append,
    List.length_cons, List.length_nil]
  omega

end

/-- Of a call that becomes an assignment, the name and the closing parenthesis are replaced. -/
theorem IsAssigned.replacesAt {first last : Nat}
    (hassigned : IsAssigned preserved previous text first last) :
    ReplacesAt (assignPassages preserved previous text) first ∧
      ReplacesAt (assignPassages preserved previous text) last := by
  induction hassigned with
  | here hcall =>
    refine ⟨?_, hcall.replacesAt_closing⟩
    rw [assignPassages_of_isAssignment hcall]
    exact replacesAt_zero (by simp)
  | inside hcall _ ih => exact ⟨hcall.replacesAt_inside ih.1, hcall.replacesAt_inside ih.2⟩
  | behind hcall _ ih => exact ⟨hcall.replacesAt_behind ih.1, hcall.replacesAt_behind ih.2⟩
  | @later previous rest character first last hnone _ ih =>
    rw [assignPassages_of_not_isAssignment hnone]
    exact ⟨ih.1.append_left [.kept character] (Nat.add_comm _ _),
      ih.2.append_left [.kept character] (Nat.add_comm _ _)⟩

/-- In a text that begins with a call that becomes an assignment, what is replaced is the name with its
parenthesis, or lies in the arguments, or is the closing parenthesis, or lies behind it. -/
theorem IsAssignment.replaced_cases {name arguments behind old new : List Char}
    {before after : List Passage} (hcall : IsAssignment preserved previous text name arguments behind)
    (hsplit : assignPassages preserved previous text = before ++ .replaced old new :: after) :
    ((oldText before).length = 0 ∧ old = name ++ ['(']) ∨
      (∃ inner more, assignPassages preserved none arguments = inner ++ .replaced old new :: more ∧
        (oldText before).length = name.length + 1 + (oldText inner).length) ∨
      ((oldText before).length = name.length + 1 + arguments.length ∧ old = [')']) ∨
      (∃ inner more, assignPassages preserved (some ')') behind = inner ++ .replaced old new :: more ∧
        (oldText before).length = name.length + 1 + arguments.length + 1 + (oldText inner).length) := by
  rw [assignPassages_of_isAssignment hcall] at hsplit
  cases before with
  | nil =>
    obtain ⟨heq, -⟩ := List.cons.inj hsplit
    obtain ⟨rfl, -⟩ := Passage.replaced.inj heq
    exact .inl ⟨rfl, rfl⟩
  | cons passage before =>
    obtain ⟨rfl, hrest⟩ := List.cons.inj hsplit
    have hlength : (oldText (.replaced (name ++ ['('])
        (decapitalise (name.drop 3) ++ " = ".toList) :: before)).length =
        name.length + 1 + (oldText before).length := by
      simp [Passage.old, Nat.add_assoc, Nat.add_comm]
    rw [hlength]
    have hclosing : before = assignPassages preserved none arguments →
        Passage.replaced [')'] [] = .replaced old new →
        name.length + 1 + (oldText before).length = name.length + 1 + arguments.length ∧
          old = [')'] := by
      rintro rfl heq
      obtain ⟨rfl, -⟩ := Passage.replaced.inj heq
      rw [oldText_assignPassages]
      exact ⟨rfl, rfl⟩
    rcases List.append_eq_append_iff.mp hrest with ⟨middle, rfl, hmiddle⟩ | ⟨middle, hmiddle, hlast⟩
    · cases middle with
      | nil =>
        rw [List.append_nil] at hclosing ⊢
        exact .inr (.inr (.inl (hclosing rfl (List.cons.inj hmiddle).1)))
      | cons passage middle =>
        obtain ⟨rfl, hbehind⟩ := List.cons.inj hmiddle
        refine .inr (.inr (.inr ⟨middle, after, hbehind, ?_⟩))
        simp only [oldText_append, oldText_cons, oldText_assignPassages, Passage.old,
          List.length_append, List.length_cons, List.length_nil]
        omega
    · cases middle with
      | nil =>
        rw [List.append_nil] at hmiddle
        exact .inr (.inr (.inl (hclosing hmiddle.symm (List.cons.inj hlast).1.symm)))
      | cons passage middle =>
        obtain ⟨rfl, -⟩ := List.cons.inj hlast
        exact .inr (.inl ⟨before, middle, hmiddle, rfl⟩)

/-- Whatever is replaced is the name of a call that becomes an assignment, with its parenthesis, or the
closing parenthesis of one. -/
theorem exists_isAssigned_of_replaced {before after : List Passage} {old new : List Char}
    (hsplit : assignPassages preserved previous text = before ++ .replaced old new :: after) :
    (∃ last, IsAssigned preserved previous text (oldText before).length last ∧
        ∀ character ∈ old, isQuote character = false) ∨
      ∃ first, IsAssigned preserved previous text first (oldText before).length ∧ old = [')'] := by
  induction previous, text using assignment_induction preserved generalizing before after with
  | nil previous =>
    rw [assignPassages] at hsplit
    simp at hsplit
  | step previous character rest hnone ih =>
    rw [assignPassages_of_not_isAssignment hnone] at hsplit
    cases before with
    | nil => simp at hsplit
    | cons passage before =>
      obtain ⟨rfl, hrest⟩ := List.cons.inj hsplit
      have hlength : (oldText (.kept character :: before)).length = (oldText before).length + 1 := by
        simp [Passage.old, Nat.add_comm]
      rw [hlength]
      rcases ih hrest with ⟨last, hassigned, hquotes⟩ | ⟨first, hassigned, hold⟩
      · exact .inl ⟨last + 1, .later hnone hassigned, hquotes⟩
      · exact .inr ⟨first + 1, .later hnone hassigned, hold⟩
  | call previous text name arguments behind hcall ihArguments ihBehind =>
    rcases hcall.replaced_cases hsplit with
      ⟨hplace, rfl⟩ | ⟨inner, more, hinner, hplace⟩ | ⟨hplace, rfl⟩ | ⟨inner, more, hinner, hplace⟩
    · rw [hplace]
      refine .inl ⟨_, .here hcall, ?_⟩
      intro character hmem
      rcases List.mem_append.mp hmem with hname | hparenthesis
      · have hplain := List.all_eq_true.mp (recognises_setterCallee.plain hcall.setter).1 _ hname
        exact (isCode_of_isPlain hplain none [] []).quotes
      · obtain rfl := List.mem_singleton.mp hparenthesis
        rfl
    · rw [hplace]
      rcases ihArguments hinner with ⟨last, hassigned, hquotes⟩ | ⟨first, hassigned, hold⟩
      · exact .inl ⟨_, .inside hcall hassigned, hquotes⟩
      · exact .inr ⟨_, .inside hcall hassigned, hold⟩
    · rw [hplace]
      exact .inr ⟨0, .here hcall, rfl⟩
    · rw [hplace]
      rcases ihBehind hinner with ⟨last, hassigned, hquotes⟩ | ⟨first, hassigned, hold⟩
      · exact .inl ⟨_, .behind hcall hassigned, hquotes⟩
      · exact .inr ⟨_, .behind hcall hassigned, hold⟩

end

/-- An index lies in a piece of a text behind some front. -/
def IsWithin (front piece : List Char) (index : Nat) : Prop :=
  front.length ≤ index ∧ index < front.length + piece.length

/-- A piece that begins with a quote stays if and only if no call that becomes an assignment has its name
or its closing parenthesis in it. -/
theorem stays_assignPassages_iff {preserved : List String} {text front piece rest : List Char}
    {quote : Char} (hquote : isQuote quote) (htext : text = front ++ (quote :: piece ++ rest)) :
    Stays (assignPassages preserved none text) front (quote :: piece) ↔
      ∀ first last, IsAssigned preserved none text first last →
        ¬ IsWithin front (quote :: piece) first ∧ ¬ IsWithin front (quote :: piece) last := by
  have hold : oldText (assignPassages preserved none text) =
      front ++ (quote :: piece ++ rest) := by rw [oldText_assignPassages, htext]
  constructor
  · intro hstays first last hassigned
    have houtside : ∀ {index}, ReplacesAt (assignPassages preserved none text) index →
        ¬ IsWithin front (quote :: piece) index := by
      rintro index ⟨before, old, new, after, hsplit, rfl, hnonempty⟩ ⟨hbegin, hend⟩
      have hlength := List.length_pos_of_ne_nil hnonempty
      have houtside := hstays.outside (List.cons_ne_nil _ _) hsplit
      omega
    exact ⟨houtside hassigned.replacesAt.1, houtside hassigned.replacesAt.2⟩
  · intro hwithin
    refine stays_of_outside (List.cons_ne_nil _ _) hold ?_
    intro before old new after hsplit
    rcases exists_isAssigned_of_replaced hsplit with
      ⟨last, hassigned, hquotes⟩ | ⟨first, hassigned, rfl⟩
    · have hfirst := (hwithin _ last hassigned).1
      rw [IsWithin, not_and, not_lt] at hfirst
      by_contra hreaches
      rw [not_or, not_le, not_le] at hreaches
      -- the name would reach over the quote
      have hmem : quote ∈ old := mem_of_reaches hold hsplit (by omega) (by omega)
      rw [hquotes quote hmem] at hquote
      exact Bool.noConfusion hquote
    · have hlast := (hwithin first _ hassigned).2
      rw [IsWithin, not_and, not_lt] at hlast
      simp only [List.length_singleton]
      omega

end PageGraft.Script
