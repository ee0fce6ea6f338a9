import PageGraft.Proofs.Cleaning

/-!
# Removing imports removes nothing else

An import statement (`IsImport`) is `import`, what it binds, `from` and the module in quotes, or `import` and
the module alone; it ends with its line. The readers of import statements read each of these forms to its end
and not beyond it, whatever follows (`afterImport?_append`), so that the removal of imports takes the
statements out of a text and leaves the other lines as they are (`replaceAll_importStatement`).

Two readings have to be kept apart. A name in front of `from` can be `type`, which is a keyword in front of
another clause; `afterClause_append` says that the two readings of `type` agree. And `from` in front of the
module is a name itself, which `afterDefault` tries first (`afterDefault_origin`).
-/

namespace PageGraft.Script

open PageGraft.Page PageGraft.Text

/-! ## The forms of import statements -/

/-- White space between two words. -/
def IsGap (text : List Char) : Prop :=
  text ≠ [] ∧ text.all isSpace

/-- A word that is bound. -/
def IsName (text : List Char) : Prop :=
  text ≠ [] ∧ text.all isNamePart

/-- A module in quotes, with the semicolon and the newline that end the statement. -/
inductive IsModule : List Char → Prop
  | quoted {quote : Char} {name semicolon : List Char} (hquote : isModuleQuote quote)
      (hname : ∀ character ∈ name, isModuleQuote character = false ∧ character ≠ '\n')
      (hsemicolon : semicolon = [] ∨ semicolon = [';']) :
      IsModule (quote :: (name ++ quote :: (semicolon ++ ['\n'])))

/-- `from` and a module. -/
inductive IsOrigin : List Char → Prop
  | origin {spaces module : List Char} (hspaces : spaces.all isSpace) (hmodule : IsModule module) :
      IsOrigin ("from".toList ++ (spaces ++ module))

/-- A brace list or `* as` and a name, with the white space behind it. -/
inductive IsBindings : List Char → Prop
  | named {list spaces : List Char} (hlist : '}' ∉ list) (hspaces : spaces.all isSpace) :
      IsBindings ('\x7b' :: (list ++ '}' :: spaces))
  | namespaced {spaces gap name behind : List Char} (hspaces : spaces.all isSpace) (hgap : IsGap gap)
      (hname : IsName name) (hbehind : IsGap behind) :
      IsBindings ('*' :: (spaces ++ ("as".toList ++ (gap ++ (name ++ behind)))))

/-- A name, bindings, or both with a comma between them. -/
inductive IsClause : List Char → Prop
  | default {name gap : List Char} (hname : IsName name) (hgap : IsGap gap) : IsClause (name ++ gap)
  | bindings {bindings : List Char} (hbindings : IsBindings bindings) : IsClause bindings
  | both {name before after bindings : List Char} (hname : IsName name) (hbefore : before.all isSpace)
      (hafter : after.all isSpace) (hbindings : IsBindings bindings) :
      IsClause (name ++ (before ++ ',' :: (after ++ bindings)))

inductive IsImport : List Char → Prop
  | effect {spaces module : List Char} (hspaces : spaces.all isSpace) (hmodule : IsModule module) :
      IsImport ("import".toList ++ (spaces ++ module))
  | clause {gap clause origin : List Char} (hgap : IsGap gap) (hclause : IsClause clause)
      (horigin : IsOrigin origin) : IsImport ("import".toList ++ (gap ++ (clause ++ origin)))
  | typed {gap gap' clause origin : List Char} (hgap : IsGap gap) (hgap' : IsGap gap')
      (hclause : IsClause clause) (horigin : IsOrigin origin) :
      IsImport ("import".toList ++ (gap ++ ("type".toList ++ (gap' ++ (clause ++ origin)))))

/-! ## Where words and white space end -/

variable {text rest spaces gap name module origin bindings clause statement : List Char}
  {afterwards : List Char → Option (List Char)} {head : Char} {previous : Option Char}

/-- A name begins with no white space. -/
theorem IsName.exists_cons (hname : IsName name) :
    ∃ first tail, isSpace first = false ∧ name = first :: tail := by
  obtain ⟨first, tail, rfl⟩ := List.exists_cons_of_ne_nil hname.1
  refine ⟨first, tail, ?_, rfl⟩
  by_contra hspace
  have hpart := List.all_eq_true.mp hname.2 first List.mem_cons_self
  rw [(isNamePart_of_isSpace (by simpa using hspace)).1] at hpart
  exact Bool.false_ne_true hpart

/-- White space that is not empty ends a word. -/
theorem IsGap.endsWord (hgap : IsGap gap) : endsWord (gap ++ rest) := by
  obtain ⟨hne, hspaces⟩ := hgap
  cases gap with
  | nil => exact absurd rfl hne
  | cons first gap =>
    have hfirst : isSpace first := List.all_eq_true.mp hspaces first List.mem_cons_self
    simp [Text.endsWord, (isNamePart_of_isSpace hfirst).1]

/-- A word ends where white space and then no name character follow. -/
theorem endsWord_append (hspaces : spaces.all isSpace) (hends : endsWord rest) :
    endsWord (spaces ++ rest) := by
  by_cases hempty : spaces = []
  · simpa [hempty] using hends
  · exact IsGap.endsWord ⟨hempty, hspaces⟩

theorem dropSpaces (hspaces : spaces.all isSpace) (hhead : isSpace head = false) :
    (spaces ++ head :: rest).dropWhile isSpace = head :: rest :=
  dropWhile_append_of_head hspaces (by simpa using hhead)

theorem IsGap.dropSpaces? (hgap : IsGap gap) (hhead : isSpace head = false) (rest : List Char) :
    dropSpaces? (gap ++ head :: rest) = some (head :: rest) :=
  dropSpaces?_eq_some.mpr ⟨by simpa using hhead, gap, hgap.1, hgap.2, rfl⟩

/-- What follows a name of its own. -/
theorem dropWord {word : List Char} (hword : word.all isNamePart) (hname : name.all isNamePart)
    (hends : endsWord rest) : (dropPiece word (name ++ rest)).bind dropSpaces? =
      if name = word then dropSpaces? rest else none := by
  by_cases heq : name = word
  · subst heq
    rw [if_pos rfl, dropPiece_eq_some.mpr rfl, Option.bind_some]
  · rw [if_neg heq, Option.bind_eq_none_iff]
    intro rest' hpiece
    rw [Option.eq_none_iff_forall_ne_some]
    intro tail htail
    obtain ⟨-, gap, hne, hspaces, rfl⟩ := dropSpaces?_eq_some.mp htail
    have hsplit : name ++ rest = word ++ (gap ++ tail) := dropPiece_eq_some.mp hpiece
    apply heq
    calc name = (name ++ rest).takeWhile isNamePart :=
          (takeWhile_append_of_head hname (endsWord_iff.mp hends)).symm
      _ = word := by
          rw [hsplit]
          exact takeWhile_append_of_head hword (endsWord_iff.mp (IsGap.endsWord ⟨hne, hspaces⟩))

/-! ## Modules -/

theorem IsModule.exists_quote (hmodule : IsModule module) :
    ∃ quote tail, isModuleQuote quote ∧ module = quote :: tail := by
  cases hmodule with
  | quoted hquote => exact ⟨_, _, hquote, rfl⟩

theorem isModuleQuote_cases (hquote : isModuleQuote head) : head = '\'' ∨ head = '"' := by
  simpa [isModuleQuote] using hquote

theorem isSpace_of_isModuleQuote (hquote : isModuleQuote head) : isSpace head = false := by
  rcases isModuleQuote_cases hquote with rfl | rfl <;> decide

theorem isNamePart_of_isModuleQuote (hquote : isModuleQuote head) : isNamePart head = false := by
  rcases isModuleQuote_cases hquote with rfl | rfl <;> decide

theorem afterModule_append (hmodule : IsModule module) (rest : List Char) :
    afterModule (module ++ rest) = some rest := by
  cases hmodule with
  | @quoted quote name semicolon hquote hname hsemicolon =>
    have hbody : name.all fun character => !isModuleQuote character && character ≠ '\n' := by
      rw [List.all_eq_true]
      intro character hmem
      simp [hname character hmem]
    have hdropped : (name ++ quote :: (semicolon ++ '\n' :: rest)).dropWhile
        (fun character => !isModuleQuote character && character ≠ '\n') =
          quote :: (semicolon ++ '\n' :: rest) :=
      dropWhile_append_of_head hbody (by simp [hquote])
    rw [List.cons_append, List.append_assoc, List.cons_append, List.append_assoc,
      List.singleton_append, afterModule, if_pos hquote, hdropped]
    rcases hsemicolon with rfl | rfl <;> simp [hquote, dropOptional]

/-- No keyword stands where a module begins. -/
theorem afterFrom_of_isModuleQuote (hquote : isModuleQuote head) (rest : List Char) :
    afterFrom (head :: rest) = none := by
  have hnone : dropPiece "from".toList (head :: rest) = none := by
    rcases isModuleQuote_cases hquote with rfl | rfl <;> rfl
  rw [afterFrom, List.dropWhile_cons_of_neg (by simp [isSpace_of_isModuleQuote hquote]), hnone]
  rfl

theorem afterBindings_of_isModuleQuote (hquote : isModuleQuote head) :
    afterBindings (head :: rest) = none := by
  rw [← afterFrom_of_isModuleQuote hquote rest]
  rcases isModuleQuote_cases hquote with rfl | rfl <;> rfl

/-! ## Names -/

theorem afterName_append (hname : IsName name) (hends : endsWord rest)
    (hafterwards : afterwards rest = some text) : afterName afterwards (name ++ rest) = some text := by
  have htake : (name ++ rest).takeWhile isNamePart = name :=
    takeWhile_append_of_head hname.2 (endsWord_iff.mp hends)
  have hdrop : (name ++ rest).dropWhile isNamePart = rest :=
    dropWhile_append_of_head hname.2 (endsWord_iff.mp hends)
  have hempty : name.isEmpty = false := by simpa using hname.1
  simp [afterName, htake, hdrop, hempty, hafterwards]

theorem afterName_of_head (hhead : isNamePart head = false) :
    afterName afterwards (head :: rest) = none := by
  simp [afterName, hhead]

/-! ## Clauses -/

theorem IsOrigin.exists_cons (horigin : IsOrigin origin) : ∃ tail, origin = 'f' :: tail := by
  cases horigin with
  | origin => exact ⟨_, rfl⟩

theorem afterFrom_append (horigin : IsOrigin origin) (hspaces : spaces.all isSpace) (rest : List Char) :
    afterFrom (spaces ++ (origin ++ rest)) = some rest := by
  cases horigin with
  | @origin spaces' module hspaces' hmodule =>
    obtain ⟨quote, tail, hquote, rfl⟩ := hmodule.exists_quote
    have hfrom : (spaces ++ ("from".toList ++ (spaces' ++ (quote :: tail ++ rest)))).dropWhile isSpace =
        "from".toList ++ (spaces' ++ (quote :: tail ++ rest)) :=
      dropSpaces hspaces (by decide)
    have hmodule' : (spaces' ++ (quote :: tail ++ rest)).dropWhile isSpace = quote :: tail ++ rest :=
      dropSpaces hspaces' (isSpace_of_isModuleQuote hquote)
    rw [List.append_assoc, List.append_assoc, afterFrom, hfrom, dropPiece_eq_some.mpr rfl]
    show afterModule ((spaces' ++ (quote :: tail ++ rest)).dropWhile isSpace) = some rest
    rw [hmodule', afterModule_append hmodule]

/-- Bindings begin with a brace or an asterisk. -/
theorem IsBindings.exists_cons (hbindings : IsBindings bindings) :
    ∃ first tail, (first = '\x7b' ∨ first = '*') ∧ bindings = first :: tail := by
  cases hbindings with
  | named => exact ⟨_, _, .inl rfl, rfl⟩
  | namespaced => exact ⟨_, _, .inr rfl, rfl⟩

theorem afterBindings_append (hbindings : IsBindings bindings) (horigin : IsOrigin origin)
    (rest : List Char) :
    afterBindings (bindings ++ (origin ++ rest)) = some rest := by
  cases hbindings with
  | @named list spaces hlist hspaces =>
    have hdropped : (list ++ '}' :: (spaces ++ (origin ++ rest))).dropWhile (· ≠ '}') =
        '}' :: (spaces ++ (origin ++ rest)) := by
      refine dropWhile_append_of_head ?_ (by simp)
      rw [List.all_eq_true]
      intro character hmem
      exact decide_eq_true (ne_of_mem_of_not_mem hmem hlist)
    rw [List.cons_append, List.append_assoc, List.cons_append, afterBindings, hdropped]
    exact afterFrom_append horigin hspaces rest
  | @namespaced spaces gap name behind hspaces hgap hname hbehind =>
    obtain ⟨first, tail, hfirst, rfl⟩ := hname.exists_cons
    have hgap' := hgap.dropSpaces? hfirst (tail ++ (behind ++ (origin ++ rest)))
    have hafter : afterName afterFrom ((first :: tail) ++ (behind ++ (origin ++ rest))) = some rest :=
      afterName_append hname hbehind.endsWord (afterFrom_append horigin hbehind.2 rest)
    have has : (spaces ++ ("as".toList ++ (gap ++ (first :: tail ++ (behind ++ (origin ++ rest)))))).dropWhile
        isSpace = "as".toList ++ (gap ++ (first :: tail ++ (behind ++ (origin ++ rest)))) :=
      dropSpaces hspaces (by decide)
    simp only [List.cons_append, List.append_assoc] at has hafter ⊢
    rw [afterBindings, has, dropPiece_eq_some.mpr rfl]
    show (dropSpaces? (gap ++ first :: (tail ++ (behind ++ (origin ++ rest))))).bind _ = some rest
    rw [hgap', Option.bind_some, hafter]

/-- Without bindings, the origin follows. -/
theorem afterBindings_origin (horigin : IsOrigin origin) (rest : List Char) :
    afterBindings (origin ++ rest) = some rest := by
  have hafter : afterFrom ([] ++ (origin ++ rest)) = some rest := afterFrom_append horigin rfl rest
  obtain ⟨tail, rfl⟩ := horigin.exists_cons
  exact hafter

/-- A keyword in front of the module is read as a name first, which leads nowhere. -/
theorem afterDefault_origin (horigin : IsOrigin origin) (rest : List Char) :
    afterDefault (origin ++ rest) = some rest := by
  have hnone : afterName (fun rest => afterBindings
      ((dropOptional ',' (rest.dropWhile isSpace)).dropWhile isSpace)) (origin ++ rest) = none := by
    cases horigin with
    | @origin spaces module hspaces hmodule =>
      obtain ⟨quote, tail, hquote, rfl⟩ := hmodule.exists_quote
      have hspace := isSpace_of_isModuleQuote hquote
      have hcomma : quote ≠ ',' := by
        rintro rfl
        exact absurd hquote (by decide)
      have hends : endsWord (spaces ++ (quote :: (tail ++ rest))) :=
        endsWord_append hspaces (by simp [Text.endsWord, isNamePart_of_isModuleQuote hquote])
      have htake : ("from".toList ++ (spaces ++ quote :: (tail ++ rest))).takeWhile isNamePart =
          "from".toList := takeWhile_append_of_head (by decide) (endsWord_iff.mp hends)
      have hdrop : ("from".toList ++ (spaces ++ quote :: (tail ++ rest))).dropWhile isNamePart =
          spaces ++ quote :: (tail ++ rest) :=
        dropWhile_append_of_head (by decide) (endsWord_iff.mp hends)
      rw [List.append_assoc, List.append_assoc, List.cons_append, afterName, htake, hdrop,
        dropSpaces hspaces hspace, dropOptional, if_neg hcomma,
        List.dropWhile_cons_of_neg (by simp [hspace]), afterBindings_of_isModuleQuote hquote]
      rfl
  rw [afterDefault, hnone, afterBindings_origin horigin]
  rfl

theorem afterDefault_append (hclause : IsClause clause) (horigin : IsOrigin origin) (rest : List Char) :
    afterDefault (clause ++ (origin ++ rest)) = some rest := by
  cases hclause with
  | @default name gap hname hgap =>
    have hbindings := afterBindings_origin horigin rest
    obtain ⟨tail, rfl⟩ := horigin.exists_cons
    have hafter : afterBindings ((dropOptional ','
        ((gap ++ 'f' :: (tail ++ rest)).dropWhile isSpace)).dropWhile isSpace) = some rest := by
      rw [dropSpaces hgap.2 (by decide)]
      exact hbindings
    rw [List.append_assoc, afterDefault, List.cons_append,
      afterName_append hname hgap.endsWord hafter]
    rfl
  | bindings hbindings =>
    have hafter := afterBindings_append hbindings horigin rest
    obtain ⟨first, tail, hfirst, rfl⟩ := hbindings.exists_cons
    have hhead : isNamePart first = false := by
      rcases hfirst with rfl | rfl <;> decide
    rw [List.cons_append] at hafter ⊢
    rw [afterDefault, afterName_of_head hhead, hafter]
    rfl
  | @both name before after bindings hname hbefore hafter hbindings =>
    have hread := afterBindings_append hbindings horigin rest
    obtain ⟨first, tail, hfirst, rfl⟩ := hbindings.exists_cons
    have hhead : isSpace first = false := by
      rcases hfirst with rfl | rfl <;> decide
    have hread' : afterBindings ((dropOptional ',' ((before ++ ',' :: (after ++ first ::
        (tail ++ (origin ++ rest)))).dropWhile isSpace)).dropWhile isSpace) = some rest := by
      rw [dropSpaces hbefore (by decide), dropOptional, if_pos rfl, dropSpaces hafter hhead]
      exact hread
    have hends : endsWord (before ++ ',' :: (after ++ first :: (tail ++ (origin ++ rest)))) :=
      endsWord_append hbefore rfl
    simp only [List.append_assoc, List.cons_append]
    rw [afterDefault, afterName_append hname hends hread']
    rfl

/-- The reading that takes `type` for a keyword. -/
def afterType (text : List Char) : Option (List Char) :=
  ((dropPiece "type".toList text).bind dropSpaces?).bind afterDefault

theorem afterClause_eq : afterClause text = (afterType text).or (afterDefault text) := by
  rw [Option.or_eq_orElse, afterType, Option.bind_assoc]
  rfl

/-- Where a clause can be read with `type` as a keyword, it leads to the same place. -/
theorem afterType_append (hclause : IsClause clause) (horigin : IsOrigin origin) (rest : List Char) :
    afterType (clause ++ (origin ++ rest)) = none ∨
      afterType (clause ++ (origin ++ rest)) = some rest := by
  cases hclause with
  | @default name gap hname hgap =>
    rw [List.append_assoc, afterType, dropWord (by decide) hname.2 hgap.endsWord]
    split
    · -- the name is `type`, and `from` behind it can be a name or a keyword
      have hdefault := afterDefault_origin horigin rest
      obtain ⟨tail, rfl⟩ := horigin.exists_cons
      rw [List.cons_append] at hdefault ⊢
      rw [hgap.dropSpaces? (by decide), Option.bind_some]
      exact .inr hdefault
    · exact .inl rfl
  | bindings hbindings =>
    obtain ⟨first, tail, rfl | rfl, rfl⟩ := hbindings.exists_cons
    · exact .inl rfl
    · exact .inl rfl
  | @both name before after bindings hname hbefore hafter hbindings =>
    rw [List.append_assoc, List.append_assoc, List.cons_append, afterType, dropWord (by decide) hname.2
      (endsWord_append hbefore rfl)]
    split
    · -- the name is `type`, and nothing can be read from the comma on
      by_cases hempty : before = []
      · subst hempty
        exact .inl rfl
      · rw [IsGap.dropSpaces? ⟨hempty, hbefore⟩ (by decide)]
        exact .inl rfl
    · exact .inl rfl

theorem afterClause_append (hclause : IsClause clause) (horigin : IsOrigin origin) (rest : List Char) :
    afterClause (clause ++ (origin ++ rest)) = some rest := by
  rw [afterClause_eq, afterDefault_append hclause horigin]
  rcases afterType_append hclause horigin rest with hnone | hsome
  · rw [hnone, Option.none_or]
  · rw [hsome, Option.some_or]

theorem afterClause_of_isModuleQuote (hquote : isModuleQuote head) :
    afterClause (head :: rest) = none := by
  have htype : afterType (head :: rest) = none := by
    rcases isModuleQuote_cases hquote with rfl | rfl <;> rfl
  rw [afterClause_eq, htype, Option.none_or, afterDefault,
    afterName_of_head (isNamePart_of_isModuleQuote hquote), afterBindings_of_isModuleQuote hquote]
  rfl

/-- A clause begins with no white space. -/
theorem IsClause.exists_cons (hclause : IsClause clause) :
    ∃ first tail, isSpace first = false ∧ clause = first :: tail := by
  cases hclause with
  | default hname =>
    obtain ⟨first, tail, hfirst, rfl⟩ := hname.exists_cons
    exact ⟨first, _, hfirst, rfl⟩
  | bindings hbindings =>
    obtain ⟨first, tail, rfl | rfl, rfl⟩ := hbindings.exists_cons
    · exact ⟨_, _, by decide, rfl⟩
    · exact ⟨_, _, by decide, rfl⟩
  | both hname =>
    obtain ⟨first, tail, hfirst, rfl⟩ := hname.exists_cons
    exact ⟨first, _, hfirst, rfl⟩

/-! ## Statements -/

theorem afterImport?_of_afterClause (hgap : IsGap gap) (hhead : isSpace head = false)
    (hafter : afterClause (head :: text) = some rest) :
    afterImport? ("import".toList ++ (gap ++ head :: text)) = some rest := by
  rw [afterImport?, dropPiece_eq_some.mpr rfl]
  show ((dropSpaces? (gap ++ head :: text)).bind afterClause <|> _) = some rest
  rw [hgap.dropSpaces? hhead, Option.bind_some, hafter]
  rfl

/-- An import statement is read to its end, whatever follows. -/
theorem afterImport?_append (hstatement : IsImport statement) (rest : List Char) :
    afterImport? (statement ++ rest) = some rest := by
  cases hstatement with
  | @effect spaces module hspaces hmodule =>
    have hafter := afterModule_append hmodule rest
    obtain ⟨quote, tail, hquote, rfl⟩ := hmodule.exists_quote
    have hspace := isSpace_of_isModuleQuote hquote
    have hnone : (dropSpaces? (spaces ++ quote :: (tail ++ rest))).bind afterClause = none := by
      by_cases hempty : spaces = []
      · subst hempty
        simp [dropSpaces?, hspace]
      · rw [IsGap.dropSpaces? ⟨hempty, hspaces⟩ hspace, Option.bind_some,
          afterClause_of_isModuleQuote hquote]
    rw [List.append_assoc, List.append_assoc, List.cons_append, afterImport?, dropPiece_eq_some.mpr rfl]
    show ((dropSpaces? (spaces ++ quote :: (tail ++ rest))).bind afterClause <|>
      afterModule ((spaces ++ quote :: (tail ++ rest)).dropWhile isSpace)) = some rest
    rw [hnone, dropSpaces hspaces hspace]
    exact hafter
  | @clause gap clause origin hgap hclause horigin =>
    have hafter := afterClause_append hclause horigin rest
    obtain ⟨first, tail, hfirst, rfl⟩ := hclause.exists_cons
    rw [List.append_assoc, List.append_assoc, List.append_assoc]
    exact afterImport?_of_afterClause hgap hfirst hafter
  | @typed gap gap' clause origin hgap hgap' hclause horigin =>
    have hdefault := afterDefault_append hclause horigin rest
    obtain ⟨first, tail, hfirst, rfl⟩ := hclause.exists_cons
    have htype : afterType ("type".toList ++ (gap' ++ (first :: tail ++ (origin ++ rest)))) =
        some rest := by
      rw [afterType, dropPiece_eq_some.mpr rfl, Option.bind_some, List.cons_append,
        hgap'.dropSpaces? hfirst, Option.bind_some]
      exact hdefault
    rw [List.append_assoc, List.append_assoc, List.append_assoc, List.append_assoc, List.append_assoc]
    refine afterImport?_of_afterClause hgap (show isSpace 't' = false by decide) ?_
    show afterClause ("type".toList ++ (gap' ++ (first :: tail ++ (origin ++ rest)))) = some rest
    rw [afterClause_eq, htype, Option.some_or]

/-! ## Texts of statements and lines -/

/-- A part of a text: an import statement, or a line without the word `import`. -/
inductive ModulePart
  | statement (statement : List Char) (himport : IsImport statement)
  | line (content : List Char) (hnone : ¬ "import".toList <:+: content)

def ModulePart.printed : ModulePart → List Char
  | .statement statement _ => statement
  | .line content _ => content ++ ['\n']

/-- What is left of a part without imports. -/
def ModulePart.kept : ModulePart → List Char
  | .statement _ _ => []
  | .line content _ => content ++ ['\n']

theorem IsModule.newline_suffix (hmodule : IsModule module) : ['\n'] <:+ module := by
  cases hmodule with
  | @quoted quote name semicolon =>
    exact ⟨quote :: (name ++ quote :: semicolon), by simp⟩

theorem newline_suffix_append {front : List Char} (hsuffix : ['\n'] <:+ rest) : ['\n'] <:+ front ++ rest :=
  hsuffix.trans (List.suffix_append front rest)

theorem IsOrigin.newline_suffix (horigin : IsOrigin origin) : ['\n'] <:+ origin := by
  cases horigin with
  | origin _ hmodule => exact newline_suffix_append (newline_suffix_append hmodule.newline_suffix)

/-- An import statement ends with a newline. -/
theorem IsImport.newline_suffix (hstatement : IsImport statement) : ['\n'] <:+ statement := by
  cases hstatement with
  | effect _ hmodule => exact newline_suffix_append (newline_suffix_append hmodule.newline_suffix)
  | clause _ _ horigin =>
    iterate 3 apply newline_suffix_append
    exact horigin.newline_suffix
  | typed _ _ _ horigin =>
    iterate 5 apply newline_suffix_append
    exact horigin.newline_suffix

/-- A word can begin behind every part. -/
theorem ModulePart.startsWord_getLast? (part : ModulePart) :
    startsWord (part.printed.getLast?.or previous) := by
  have hsuffix : ['\n'] <:+ part.printed := by
    cases part with
    | statement statement himport => exact himport.newline_suffix
    | line content hnone => exact List.suffix_append _ _
  obtain ⟨front, hfront⟩ := hsuffix
  rw [← hfront, List.getLast?_concat, Option.some_or]
  decide

theorem importStatement_nil : importStatement previous [] = none := by
  rw [importStatement]
  split
  · rfl
  · rfl

theorem importStatement_append (hstarts : startsWord previous) (hstatement : IsImport statement)
    (rest : List Char) :
    importStatement previous (statement ++ rest) = some statement.length := by
  simp [importStatement, hstarts, afterImport?_append hstatement]

theorem importStatement_eq_none (hnone : ¬ "import".toList <+: text) :
    importStatement previous text = none := by
  have hpiece : dropPiece "import".toList text = none := by
    rw [Option.eq_none_iff_forall_ne_some]
    intro tail htail
    exact hnone ⟨tail, (dropPiece_eq_some.mp htail).symm⟩
  have hread : afterImport? text = none := by
    rw [afterImport?, hpiece]
    rfl
  rw [importStatement, hread]
  split
  · rfl
  · rfl

/-- No import begins in a line without the word `import`, whatever follows the line. -/
theorem passes_line {content : List Char} (hnone : ¬ "import".toList <:+: content) :
    importStatement.Passes previous (content ++ ['\n']) rest := by
  intro left right hright hsplit
  apply importStatement_eq_none
  intro hbegins
  obtain ⟨run, hrun, rfl⟩ := exists_suffix_of_concat hsplit hright
  rw [List.append_assoc, List.singleton_append, prefix_append_cons (by decide)] at hbegins
  exact hnone (hbegins.isInfix.trans hrun.isInfix)

/-- The removal takes a statement out and keeps a line. -/
theorem replaceFrom_part (part : ModulePart) (hstarts : startsWord previous) :
    importStatement.replaceFrom [] 0 previous (part.printed ++ rest) =
      part.kept ++ importStatement.replaceFrom [] 0 (part.printed.getLast?.or previous) rest := by
  cases part with
  | line content hnone => exact replaceFrom_append (passes_line hnone)
  | statement statement himport =>
    have hfound := importStatement_append hstarts himport rest
    obtain ⟨first, tail, rfl⟩ : ∃ first tail, statement = first :: tail := by
      cases himport with
      | effect => exact ⟨_, _, rfl⟩
      | clause => exact ⟨_, _, rfl⟩
      | typed => exact ⟨_, _, rfl⟩
    show importStatement.replaceFrom [] 0 previous (first :: (tail ++ rest)) =
      importStatement.replaceFrom [] 0 ((first :: tail).getLast?.or previous) rest
    rw [List.cons_append, List.length_cons] at hfound
    rw [Finder.replaceFrom, hfound]
    show importStatement.replaceFrom [] tail.length (some first) (tail ++ rest) = _
    rw [replaceFrom_skip fun _ => importStatement_nil, List.take_left, List.drop_left,
      getLast?_cons_or]

/-- The removal of imports takes the import statements out of a text and leaves the other lines, in order and
unchanged. -/
theorem replaceAll_importStatement (parts : List ModulePart) (last : List Char)
    (hlast : ¬ "import".toList <:+: last) :
    importStatement.replaceAll [] (parts.flatMap ModulePart.printed ++ last) =
      parts.flatMap ModulePart.kept ++ last := by
  have hrun : ∀ previous, startsWord previous →
      importStatement.replaceFrom [] 0 previous (parts.flatMap ModulePart.printed ++ last) =
        parts.flatMap ModulePart.kept ++ last := by
    induction parts with
    | nil =>
      intro previous _
      refine replaceFrom_eq_self (fun _ => importStatement_nil) ?_
      intro left right _ hsplit
      apply importStatement_eq_none
      rw [List.append_nil]
      intro hbegins
      have hsuffix : right <:+ last := ⟨left, by simpa using hsplit.symm⟩
      exact hlast (hbegins.isInfix.trans hsuffix.isInfix)
    | cons part parts ih =>
      intro previous hstarts
      rw [List.flatMap_cons, List.flatMap_cons, List.append_assoc, List.append_assoc,
        replaceFrom_part part hstarts, ih _ part.startsWord_getLast?]
  exact hrun none rfl

/-- A default import with named ones over two lines, a name that is `type`, types of a namespace and an import
for effect, with lines between them. -/
theorem replaceAll_importStatement_mixed :
    ¬ "import".toList <:+: "export \x7ba\x7d;".toList ∧ importStatement.replaceAll []
        ("import A, \x7bb,\nc\x7d from \"m\";\nlet a = 1\nimport type from './t'\n\n".toList ++
          "import type * as N from 'n';\nimport 'from'\nexport \x7ba\x7d;".toList) =
      "let a = 1\n\nexport \x7ba\x7d;".toList := by
  have hlast : ¬ "import".toList <:+: "export \x7ba\x7d;".toList := by decide
  have hgap : IsGap [' '] := by
    unfold IsGap
    decide
  have hnames : ∀ name ∈ ["A".toList, "type".toList, "N".toList], IsName name := by
    unfold IsName
    decide
  have hmodules : ∀ name ∈ ["m".toList, "./t".toList, "n".toList, "from".toList],
      ∀ character ∈ name, isModuleQuote character = false ∧ character ≠ '\n' := by
    simp [isModuleQuote]
  have hnamed : IsImport "import A, \x7bb,\nc\x7d from \"m\";\n".toList :=
    .clause hgap
      (@IsClause.both _ [] _ _ (hnames "A".toList (by simp)) rfl hgap.2
        (@IsBindings.named "b,\nc".toList [' '] (by decide) rfl))
      (.origin hgap.2 (@IsModule.quoted '"' "m".toList [';'] rfl (hmodules _ (by simp)) (.inr rfl)))
  have htype : IsImport "import type from './t'\n".toList :=
    .clause hgap (.default (hnames "type".toList (by simp)) hgap)
      (.origin hgap.2 (@IsModule.quoted '\'' "./t".toList [] rfl (hmodules _ (by simp)) (.inl rfl)))
  have hnamespace : IsImport "import type * as N from 'n';\n".toList :=
    .typed hgap hgap (.bindings (.namespaced hgap.2 hgap (hnames "N".toList (by simp)) hgap))
      (.origin hgap.2 (@IsModule.quoted '\'' "n".toList [';'] rfl (hmodules _ (by simp)) (.inr rfl)))
  have heffect : IsImport "import 'from'\n".toList :=
    .effect hgap.2 (@IsModule.quoted '\'' "from".toList [] rfl (hmodules _ (by simp)) (.inl rfl))
  have hremoved := replaceAll_importStatement
    [.statement _ hnamed, .line "let a = 1".toList (by decide), .statement _ htype, .line [] (by decide),
      .statement _ hnamespace, .statement _ heffect] _ hlast
  exact ⟨hlast, by simpa [ModulePart.printed, ModulePart.kept] using hremoved⟩

end PageGraft.Script
