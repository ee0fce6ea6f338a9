import PageGraft.Proofs.Statement

/-!
# Literals and comments as they are spelled

What a string literal, a regular expression literal and a comment consist of, said without a reader, and
that the readers consume exactly that. Every reader stops after the first piece of its kind, so a piece
that is spelled so is the one that is read, whatever stands behind it.
-/

namespace PageGraft.Script

open PageGraft.Page PageGraft.Text

/-! ## How literals and comments are spelled -/

/-- A string literal after its opening quote: plain characters and escaped ones, and its quote again. Only
an escaped newline can be in it. -/
inductive IsStringBody (quote : Char) : List Char → Prop
  | close : IsStringBody quote [quote]
  | escape {escaped : Char} {body : List Char} (hbody : IsStringBody quote body) :
      IsStringBody quote ('\\' :: escaped :: body)
  | plain {character : Char} {body : List Char} (hescape : character ≠ '\\')
      (hquote : character ≠ quote) (hnewline : character ≠ '\n') (hbody : IsStringBody quote body) :
      IsStringBody quote (character :: body)

/-- A regular expression literal after its opening slash, up to its closing one. In a character class
only a bracket means anything. -/
inductive IsRegexBody : Bool → List Char → Prop
  | close : IsRegexBody false ['/']
  | escape {inClass : Bool} {escaped : Char} {body : List Char} (hbody : IsRegexBody inClass body) :
      IsRegexBody inClass ('\\' :: escaped :: body)
  | inClass {character : Char} {body : List Char} (hescape : character ≠ '\\')
      (hnewline : character ≠ '\n') (hbody : IsRegexBody (character ≠ ']') body) :
      IsRegexBody true (character :: body)
  | plain {character : Char} {body : List Char} (hescape : character ≠ '\\')
      (hnewline : character ≠ '\n') (hslash : character ≠ '/')
      (hbody : IsRegexBody (character = '[') body) : IsRegexBody false (character :: body)

/-- A block comment after the two characters that open it, up to the first two that close it. -/
inductive IsBlockBody : List Char → Prop
  | close : IsBlockBody ['*', '/']
  | plain {character : Char} {body : List Char} (hclose : ¬ ['*', '/'] <+: character :: body)
      (hbody : IsBlockBody body) : IsBlockBody (character :: body)

variable {body rest text : List Char} {length : Nat}

/-! ## Strings -/

theorem IsStringBody.stringLength_append {quote : Char} (hquote : quote ≠ '\\')
    (hbody : IsStringBody quote body) : stringLength quote (body ++ rest) = some body.length := by
  induction hbody with
  | close =>
    rw [List.singleton_append, stringLength_cons hquote, if_pos rfl]
    rfl
  | escape hbody ih =>
    rw [List.cons_append, List.cons_append, stringLength, ih]
    rfl
  | plain hescape hother hnewline hbody ih =>
    rw [List.cons_append, stringLength_cons hescape, if_neg hother, if_neg hnewline, ih]
    rfl

theorem exists_of_stringLength {quote : Char} (hlength : stringLength quote text = some length) :
    ∃ body rest, text = body ++ rest ∧ body.length = length ∧ IsStringBody quote body := by
  fun_induction stringLength quote text generalizing length with
  | case1 => simp at hlength
  | case2 => simp at hlength
  | case3 escaped rest ih =>
    obtain ⟨inner, hinner, rfl⟩ := Option.map_eq_some_iff.mp hlength
    obtain ⟨body, rest, rfl, rfl, hbody⟩ := ih hinner
    exact ⟨_, rest, rfl, rfl, hbody.escape⟩
  | case4 rest =>
    obtain rfl := Option.some.inj hlength
    exact ⟨[quote], rest, rfl, rfl, .close⟩
  | case5 => simp at hlength
  | case6 character rest hlast hescape hquote hnewline ih =>
    obtain ⟨inner, hinner, rfl⟩ := Option.map_eq_some_iff.mp hlength
    obtain ⟨body, rest, rfl, rfl, hbody⟩ := ih hinner
    exact ⟨_, rest, rfl, rfl, hbody.plain (ne_backslash hlast hescape) hquote hnewline⟩

/-! ## Regular expressions -/

theorem regexLength_cons {inClass : Bool} {character : Char} (hescape : character ≠ '\\') :
    regexLength inClass (character :: rest) =
      if character = '\n' then none
      else if inClass then (regexLength (character ≠ ']') rest).map (· + 1)
      else if character = '/' then some (1 + (rest.takeWhile isNamePart).length)
      else (regexLength (character = '[') rest).map (· + 1) := by
  rw [regexLength.eq_4]
  · intro hbackslash _
    exact hescape hbackslash
  · intro _ _ hbackslash _
    exact hescape hbackslash

/-- The flags of a regular expression literal reach as far as a name does. -/
def IsFlags (flags rest : List Char) : Prop :=
  flags.all isNamePart ∧ ∀ next ∈ rest.head?, isNamePart next = false

theorem IsFlags.takeWhile_append {flags : List Char} (hflags : IsFlags flags rest) :
    (flags ++ rest).takeWhile isNamePart = flags :=
  takeWhile_append_of_head hflags.1 hflags.2

theorem isFlags_takeWhile (text : List Char) :
    IsFlags (text.takeWhile isNamePart) (text.dropWhile isNamePart) :=
  ⟨List.all_takeWhile, head?_dropWhile_eq_false⟩

theorem IsRegexBody.regexLength_append {inClass : Bool} {flags : List Char}
    (hbody : IsRegexBody inClass body) (hflags : IsFlags flags rest) :
    regexLength inClass (body ++ (flags ++ rest)) = some (body ++ flags).length := by
  induction hbody with
  | close =>
    rw [List.singleton_append, regexLength_cons (by decide), if_neg (by decide), if_neg (by decide),
      if_pos rfl, hflags.takeWhile_append, List.singleton_append, List.length_cons, Nat.add_comm]
  | escape hbody ih =>
    rw [List.cons_append, List.cons_append, regexLength, ih]
    rfl
  | inClass hescape hnewline hbody ih =>
    rw [List.cons_append, regexLength_cons hescape, if_neg hnewline, if_pos rfl, ih]
    rfl
  | plain hescape hnewline hslash hbody ih =>
    rw [List.cons_append, regexLength_cons hescape, if_neg hnewline, if_neg (by decide),
      if_neg hslash, ih]
    rfl

theorem exists_of_regexLength {inClass : Bool} (hlength : regexLength inClass text = some length) :
    ∃ body flags rest, text = body ++ (flags ++ rest) ∧ (body ++ flags).length = length ∧
      IsRegexBody inClass body ∧ IsFlags flags rest := by
  fun_induction regexLength inClass text generalizing length with
  | case1 => simp at hlength
  | case2 => simp at hlength
  | case3 inClass escaped rest ih =>
    obtain ⟨inner, hinner, rfl⟩ := Option.map_eq_some_iff.mp hlength
    obtain ⟨body, flags, rest, rfl, rfl, hbody, hflags⟩ := ih hinner
    exact ⟨_, flags, rest, rfl, rfl, hbody.escape, hflags⟩
  | case4 => simp at hlength
  | case5 character rest hlast hescape hnewline ih =>
    obtain ⟨inner, hinner, rfl⟩ := Option.map_eq_some_iff.mp hlength
    obtain ⟨body, flags, rest, rfl, rfl, hbody, hflags⟩ := ih hinner
    exact ⟨_, flags, rest, rfl, rfl, hbody.inClass (ne_backslash hlast hescape) hnewline, hflags⟩
  | case6 inClass rest hclass =>
    obtain rfl := Option.some.inj hlength
    rw [Bool.not_eq_true] at hclass
    subst hclass
    refine ⟨['/'], rest.takeWhile isNamePart, rest.dropWhile isNamePart, ?_, ?_, .close,
      isFlags_takeWhile rest⟩
    · rw [List.takeWhile_append_dropWhile]
      rfl
    · rw [List.singleton_append, List.length_cons, Nat.add_comm]
  | case7 inClass character rest hlast hescape hnewline hclass hslash ih =>
    obtain ⟨inner, hinner, rfl⟩ := Option.map_eq_some_iff.mp hlength
    obtain ⟨body, flags, rest, rfl, rfl, hbody, hflags⟩ := ih hinner
    rw [Bool.not_eq_true] at hclass
    subst hclass
    exact ⟨_, flags, rest, rfl, rfl, hbody.plain (ne_backslash hlast hescape) hnewline hslash, hflags⟩

/-- No regular expression ends in a text exactly if none of its beginnings is spelled as one. -/
theorem regexLength_eq_none {inClass : Bool} :
    regexLength inClass text = none ↔
      ¬ ∃ body after, text = body ++ after ∧ IsRegexBody inClass body := by
  constructor
  · rintro hnone ⟨body, after, rfl, hbody⟩
    have hlength := hbody.regexLength_append (isFlags_takeWhile after)
    rw [List.takeWhile_append_dropWhile, hnone] at hlength
    simp at hlength
  · intro hnone
    cases hlength : regexLength inClass text with
    | none => rfl
    | some length =>
      obtain ⟨body, flags, rest, htext, -, hbody, -⟩ := exists_of_regexLength hlength
      exact absurd ⟨body, flags ++ rest, htext, hbody⟩ hnone

/-! ## Comments -/

theorem IsBlockBody.blockCommentLength_append (hbody : IsBlockBody body) :
    blockCommentLength (body ++ rest) = some body.length := by
  induction hbody with
  | close => rfl
  | plain hclose hbody ih =>
    rw [List.cons_append, blockCommentLength, ih]
    · rfl
    · rintro tail rfl hslash
      refine hclose ?_
      cases hbody with
      | close => simp at hslash
      | plain =>
        obtain ⟨rfl, -⟩ := List.cons.inj hslash
        exact ⟨_, rfl⟩

theorem exists_of_blockCommentLength (hlength : blockCommentLength text = some length) :
    ∃ body rest, text = body ++ rest ∧ body.length = length ∧ IsBlockBody body := by
  fun_induction blockCommentLength text generalizing length with
  | case1 rest =>
    obtain rfl := Option.some.inj hlength
    exact ⟨['*', '/'], rest, rfl, rfl, .close⟩
  | case2 character rest hclose ih =>
    obtain ⟨inner, hinner, rfl⟩ := Option.map_eq_some_iff.mp hlength
    obtain ⟨body, rest, rfl, rfl, hbody⟩ := ih hinner
    refine ⟨_, rest, rfl, rfl, hbody.plain ?_⟩
    rintro ⟨tail, htail⟩
    obtain ⟨rfl, rfl⟩ := List.cons.inj htail
    exact hclose (tail ++ rest) rfl rfl
  | case3 => simp at hlength

/-- A line comment reaches up to the next newline or the end. -/
def IsLine (line rest : List Char) : Prop :=
  '\n' ∉ line ∧ ∀ next ∈ rest.head?, next = '\n'

theorem IsLine.lineLength_append {line : List Char} (hline : IsLine line rest) :
    lineLength (line ++ rest) = line.length := by
  rw [lineLength, takeWhile_append_of_head]
  · rw [List.all_eq_true]
    intro character hcharacter
    have hne : character ≠ '\n' := by
      rintro rfl
      exact hline.1 hcharacter
    simpa using hne
  · intro next hnext
    simpa using hline.2 next hnext

theorem isLine_takeWhile (text : List Char) :
    IsLine (text.takeWhile (· ≠ '\n')) (text.dropWhile (· ≠ '\n')) := by
  refine ⟨?_, ?_⟩
  · intro hmem
    simpa using List.mem_takeWhile_imp hmem
  · intro next hnext
    simpa using head?_dropWhile_eq_false next hnext

end PageGraft.Script
