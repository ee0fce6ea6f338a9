import PageGraft.Proofs.Search

/-!
# Headers of functions

A header is described by what it is made of (`IsHeader`), and the reader of headers is shown to
recognise these and no others. A name without an opening parenthesis keeps the whole header free of
them, so that a header ends at the first parenthesis of a text. Two consequences carry the proofs
about splices: a header that begins in front of a piece of text and ends in it is `async` and white
space in front of a header that the piece itself begins with (`asyncFront_of_isHeader_append`), and
where no header begins in front of a piece, the search for a header goes on in that piece
(`headerFrom_append`).
-/

namespace PageGraft.Page

open PageGraft.Text PageGraft.Script

/-! ## What a header is made of -/

/-- Nothing, or the keyword of an asynchronous function and white space. -/
def IsAsyncPart (lead : List Char) : Prop :=
  lead = [] ∨ ∃ gap, gap ≠ [] ∧ gap.all isSpace ∧ lead = "async".toList ++ gap

/-- The header of a function with a given name, up to the parenthesis that opens its parameters. -/
def IsHeader (name head : List Char) : Prop :=
  ∃ lead gap tail, IsAsyncPart lead ∧ gap ≠ [] ∧ gap.all isSpace ∧ tail.all isSpace ∧
    head = lead ++ ("function".toList ++ (gap ++ (name ++ tail)))

/-- What the header of a function without `async` takes off a text. -/
theorem plainParameters_eq_some {name text rest : List Char} :
    (dropPiece "function".toList text).bind (beforeMark name '(') = some rest ↔
      rest.head? = some '(' ∧ ∃ gap tail, gap ≠ [] ∧ gap.all isSpace ∧ tail.all isSpace ∧
        text = "function".toList ++ (gap ++ (name ++ (tail ++ rest))) := by
  simp only [Option.bind_eq_some_iff, dropPiece_eq_some,
    beforeMark_eq_some (show isSpace '(' = false by decide)]
  constructor
  · rintro ⟨after, rfl, hhead, gap, tail, hgap, hspaces, htail, rfl⟩
    exact ⟨hhead, gap, tail, hgap, hspaces, htail, rfl⟩
  · rintro ⟨hhead, gap, tail, hgap, hspaces, htail, rfl⟩
    exact ⟨_, rfl, hhead, gap, tail, hgap, hspaces, htail, rfl⟩

/-- The reader of headers takes exactly the headers off a text. -/
theorem atParameters_eq_some {name text rest : List Char} :
    atParameters name text = some rest ↔
      rest.head? = some '(' ∧ ∃ head, IsHeader name head ∧ text = head ++ rest := by
  have hread : atParameters name text =
      (((dropPiece "async".toList text).bind dropSpaces?).bind fun after =>
        (dropPiece "function".toList after).bind (beforeMark name '(')).or
      ((dropPiece "function".toList text).bind (beforeMark name '(')) := by
    simp only [atParameters, Option.bind_eq_bind, Option.orElse_eq_orElse, Option.orElse_eq_or,
      Option.bind_assoc]
  rw [hread, Option.or_eq_some_iff]
  constructor
  · rintro (h | ⟨-, h⟩)
    · obtain ⟨after, h, hplain⟩ := Option.bind_eq_some_iff.mp h
      obtain ⟨spaced, hasync, hspaced⟩ := Option.bind_eq_some_iff.mp h
      obtain rfl := dropPiece_eq_some.mp hasync
      obtain ⟨-, lead, hlead, hleads, rfl⟩ := dropSpaces?_eq_some.mp hspaced
      obtain ⟨hhead, gap, tail, hgap, hspaces, htail, rfl⟩ := plainParameters_eq_some.mp hplain
      exact ⟨hhead, _, ⟨_, gap, tail, .inr ⟨lead, hlead, hleads, rfl⟩, hgap, hspaces, htail, rfl⟩,
        by simp⟩
    · obtain ⟨hhead, gap, tail, hgap, hspaces, htail, rfl⟩ := plainParameters_eq_some.mp h
      exact ⟨hhead, _, ⟨[], gap, tail, .inl rfl, hgap, hspaces, htail, rfl⟩, by simp⟩
  · rintro ⟨hhead, head, ⟨lead, gap, tail, hlead, hgap, hspaces, htail, rfl⟩, rfl⟩
    have hplain : (dropPiece "function".toList
        ("function".toList ++ (gap ++ (name ++ (tail ++ rest))))).bind (beforeMark name '(') =
          some rest :=
      plainParameters_eq_some.mpr ⟨hhead, gap, tail, hgap, hspaces, htail, rfl⟩
    rw [List.append_assoc, List.append_assoc, List.append_assoc, List.append_assoc]
    generalize hafter : "function".toList ++ (gap ++ (name ++ (tail ++ rest))) = after at hplain ⊢
    have hletter : after.head? = some 'f' := by
      rw [← hafter]
      simp
    rcases hlead with rfl | ⟨lead, hlead, hleads, rfl⟩
    · have hasync : dropPiece "async".toList after = none := by
        rw [Option.eq_none_iff_forall_ne_some]
        intro tail htail
        rw [dropPiece_eq_some.mp htail] at hletter
        simp at hletter
      refine .inr ⟨?_, hplain⟩
      rw [List.nil_append, hasync]
      rfl
    · have hspaced : dropSpaces? (lead ++ after) = some after := by
        refine dropSpaces?_eq_some.mpr ⟨?_, lead, hlead, hleads, rfl⟩
        rw [hletter]
        intro character hcharacter
        obtain rfl : 'f' = character := by simpa using hcharacter
        decide
      have hasync : dropPiece "async".toList ("async".toList ++ (lead ++ after)) =
          some (lead ++ after) := dropPiece_eq_some.mpr rfl
      refine .inl ?_
      rw [List.append_assoc, hasync, Option.bind_some, hspaced, Option.bind_some, hplain]

/-- Where a header is found, and how long it is with the parenthesis after it. -/
theorem functionHeader_eq_some {name text : List Char} {previous : Option Char} {length : Nat} :
    functionHeader name previous text = some length ↔
      startsWord previous ∧ ∃ head rest, IsHeader name head ∧ text = head ++ '(' :: rest ∧
        length = head.length + 1 := by
  unfold functionHeader
  split
  · rename_i hword
    simp only [hword, true_and, Option.map_eq_some_iff, atParameters_eq_some]
    constructor
    · rintro ⟨after, ⟨hhead, head, hheader, rfl⟩, rfl⟩
      obtain ⟨rest, rfl⟩ := List.head?_eq_some_iff.mp hhead
      refine ⟨head, rest, hheader, rfl, ?_⟩
      simp only [List.length_append, List.length_cons]
      omega
    · rintro ⟨head, rest, hheader, rfl, rfl⟩
      refine ⟨'(' :: rest, ⟨rfl, head, hheader, rfl⟩, ?_⟩
      simp only [List.length_append, List.length_cons]
      omega
  · rename_i hword
    simp [hword]

/-- A header begins with a letter. -/
theorem IsHeader.head?_mem {name head : List Char} (hheader : IsHeader name head) :
    head.head? = some 'a' ∨ head.head? = some 'f' := by
  obtain ⟨lead, gap, tail, rfl | ⟨space, -, -, rfl⟩, -, -, -, rfl⟩ := hheader
  · exact .inr (by simp)
  · exact .inl (by simp)

theorem IsHeader.isAlpha {name head : List Char} (hheader : IsHeader name head) :
    ∃ first ∈ head.head?, first.isAlpha := by
  rcases hheader.head?_mem with hhead | hhead
  · exact ⟨'a', hhead, by decide⟩
  · exact ⟨'f', hhead, by decide⟩

/-- What a header is found in begins with a letter. -/
theorem isSpace_head_of_functionHeader {name text : List Char} {previous : Option Char}
    {length : Nat} (hheader : functionHeader name previous text = some length) :
    ∀ character ∈ text.head?, isSpace character = false := by
  obtain ⟨-, head, rest, hspelled, rfl, -⟩ := functionHeader_eq_some.mp hheader
  intro character hcharacter
  rw [List.head?_append] at hcharacter
  rcases hspelled.head?_mem with hhead | hhead
  · obtain rfl : 'a' = character := by simpa [hhead] using hcharacter
    decide
  · obtain rfl : 'f' = character := by simpa [hhead] using hcharacter
    decide

/-- A header holds no character that neither its words nor its name hold. -/
theorem IsHeader.not_mem {name head : List Char} {character : Char}
    (hspace : isSpace character = false) (hword : character ∉ "async function".toList)
    (hname : character ∉ name) (hheader : IsHeader name head) : character ∉ head := by
  have hspaces : ∀ {gap : List Char}, gap.all isSpace → character ∉ gap := by
    intro gap hgap hmem
    have hmark := List.all_eq_true.mp hgap _ hmem
    rw [hspace] at hmark
    exact Bool.false_ne_true hmark
  have hasync : character ∉ "async".toList := by
    intro hmem
    exact hword (List.mem_append_left " function".toList hmem)
  have hfunction : character ∉ "function".toList := by
    intro hmem
    exact hword (List.mem_append_right "async ".toList hmem)
  obtain ⟨lead, gap, tail, hlead, -, hgap, htail, rfl⟩ := hheader
  have hleads : character ∉ lead := by
    rcases hlead with rfl | ⟨space, -, hgap, rfl⟩
    · simp
    · rw [List.mem_append, not_or]
      exact ⟨hasync, hspaces hgap⟩
  simp only [List.mem_append, not_or]
  exact ⟨hleads, hfunction, hspaces hgap, hname, hspaces htail⟩

theorem IsHeader.not_mem_equals {name head : List Char} (hname : '=' ∉ name)
    (hheader : IsHeader name head) : '=' ∉ head :=
  hheader.not_mem (by decide) (by decide) hname

theorem IsHeader.not_mem_paren {name head : List Char} (hname : '(' ∉ name)
    (hheader : IsHeader name head) : '(' ∉ head :=
  hheader.not_mem (by decide) (by decide) hname

/-! ## Headers across a seam -/

/-- Two texts with white space at their ends are equal only with the same white space. -/
theorem trailing_unique {front front' run run' : List Char}
    (hrun : run.all isSpace) (hrun' : run'.all isSpace)
    (hfront : ∀ character ∈ front.getLast?, isSpace character = false)
    (hfront' : ∀ character ∈ front'.getLast?, isSpace character = false)
    (htext : front ++ run = front' ++ run') : front = front' ∧ run = run' := by
  have hreverse := congrArg (fun text => text.reverse.dropWhile isSpace) htext
  simp only [List.reverse_append] at hreverse
  rw [dropWhile_append_of_head (by simpa using hrun) (by simpa using hfront),
    dropWhile_append_of_head (by simpa using hrun') (by simpa using hfront'),
    List.reverse_inj] at hreverse
  exact ⟨hreverse, List.append_cancel_left (hreverse ▸ htext)⟩

/-- White space around a name that ends in none does not matter for what stands in front. -/
theorem front_unique {front front' name gap gap' tail tail' : List Char}
    (hgap : gap.all isSpace) (hgap' : gap'.all isSpace)
    (htail : tail.all isSpace) (htail' : tail'.all isSpace)
    (hname : ∀ character ∈ name.getLast?, isSpace character = false)
    (hfront : ∀ character ∈ front.getLast?, isSpace character = false)
    (hfront' : ∀ character ∈ front'.getLast?, isSpace character = false)
    (htext : front ++ (gap ++ (name ++ tail)) = front' ++ (gap' ++ (name ++ tail'))) :
    front = front' := by
  rcases List.eq_nil_or_concat name with rfl | ⟨begun, last, rfl⟩
  · have hrun : (gap ++ tail).all isSpace := by simp [hgap, htail]
    have hrun' : (gap' ++ tail').all isSpace := by simp [hgap', htail']
    exact (trailing_unique hrun hrun' hfront hfront' (by simpa using htext)).1
  · have hends : ∀ text : List Char, ∀ character ∈ (text ++ (begun ++ [last])).getLast?,
        isSpace character = false := by
      intro text character hcharacter
      exact hname character (by simpa using hcharacter)
    have hcut := (trailing_unique htail htail' (hends (front ++ gap)) (hends (front' ++ gap'))
      (by simpa using htext)).1
    exact (trailing_unique hgap hgap' hfront hfront' (List.append_cancel_right hcut)).1

/-- The white space at the end of a name is like the white space that may follow it. -/
theorem trimmed_append (name : List Char) {tail : List Char} (htail : tail.all isSpace) :
    ∃ tail', tail'.all isSpace ∧ name ++ tail = dropEndWhile isSpace name ++ tail' := by
  obtain ⟨run, hrun, hsplit⟩ := dropEndWhile_append isSpace name
  refine ⟨run ++ tail, by simp [hrun, htail], ?_⟩
  rw [← List.append_assoc, hsplit]

theorem isSpace_getLast?_dropEndWhile {name : List Char} :
    ∀ character ∈ (dropEndWhile isSpace name).getLast?, isSpace character = false := by
  rw [dropEndWhile, List.getLast?_reverse]
  exact head?_dropWhile_eq_false

/-- What stands in front of a name between white space is determined by the whole. -/
theorem words_unique {front front' name gap gap' tail tail' : List Char}
    (hgap : gap.all isSpace) (hgap' : gap'.all isSpace)
    (htail : tail.all isSpace) (htail' : tail'.all isSpace)
    (hfront : ∀ character ∈ front.getLast?, isSpace character = false)
    (hfront' : ∀ character ∈ front'.getLast?, isSpace character = false)
    (htext : front ++ (gap ++ (name ++ tail)) = front' ++ (gap' ++ (name ++ tail'))) :
    front = front' := by
  obtain ⟨run, hrun, hname⟩ := trimmed_append name htail
  obtain ⟨run', hrun', hname'⟩ := trimmed_append name htail'
  rw [hname, hname'] at htext
  exact front_unique hgap hgap' hrun hrun' isSpace_getLast?_dropEndWhile hfront hfront' htext

/-- A name in one piece: no white space in it, and none of the marks that end a header. -/
def IsPlain (name : List Char) : Prop :=
  name ≠ [] ∧ ∀ character ∈ name, isSpace character = false ∧ character ≠ '(' ∧ character ≠ '='

theorem IsPlain.not_mem_paren {name : List Char} (hname : IsPlain name) : '(' ∉ name :=
  fun hmem => (hname.2 _ hmem).2.1 rfl

theorem IsPlain.not_mem_equals {name : List Char} (hname : IsPlain name) : '=' ∉ name :=
  fun hmem => (hname.2 _ hmem).2.2 rfl

/-- The last word of a text is determined by the whole. -/
theorem name_unique {front front' name name' gap gap' tail tail' : List Char}
    (hname : IsPlain name) (hname' : IsPlain name')
    (hgap : gap ≠ []) (hgap' : gap' ≠ []) (hspaces : gap.all isSpace) (hspaces' : gap'.all isSpace)
    (htail : tail.all isSpace) (htail' : tail'.all isSpace)
    (htext : front ++ (gap ++ (name ++ tail)) = front' ++ (gap' ++ (name' ++ tail'))) :
    name = name' := by
  have hword : ∀ {front gap name tail : List Char}, IsPlain name → gap ≠ [] → gap.all isSpace →
      tail.all isSpace →
      ((front ++ (gap ++ (name ++ tail))).reverse.dropWhile isSpace).takeWhile (!isSpace ·) =
        name.reverse := by
    intro front gap name tail hname hgap hspaces htail
    obtain ⟨begun, last, rfl⟩ := (List.eq_nil_or_concat name).resolve_left hname.1
    obtain ⟨front', space, rfl⟩ := (List.eq_nil_or_concat gap).resolve_left hgap
    have hlast : isSpace last = false := (hname.2 last (by simp)).1
    have hspace : isSpace space := List.all_eq_true.mp hspaces space (by simp)
    have hdrop : ((front ++ (front'.concat space ++ (begun.concat last ++ tail))).reverse.dropWhile
        isSpace) = (begun.concat last).reverse ++ (front'.concat space).reverse ++ front.reverse := by
      simp only [List.reverse_append, List.append_assoc]
      exact dropWhile_append_of_head (by simpa using htail) (by simp [hlast])
    rw [hdrop, List.append_assoc]
    refine takeWhile_append_of_head ?_ (by simp [hspace])
    rw [List.all_reverse, List.all_eq_true]
    intro character hcharacter
    simp [(hname.2 character hcharacter).1]
  have hleft := @hword front gap name tail hname hgap hspaces htail
  rw [htext, hword hname' hgap' hspaces' htail', List.reverse_inj] at hleft
  exact hleft.symm

/-- A header that ends like another one is a header of the same name. -/
theorem IsHeader.name_eq {name name' front head : List Char} (hname : IsPlain name)
    (hname' : IsPlain name') (hheader : IsHeader name head)
    (hlonger : IsHeader name' (front ++ head)) : name' = name := by
  obtain ⟨lead, gap, tail, -, hgap, hspaces, htail, rfl⟩ := hheader
  obtain ⟨lead', gap', tail', -, hgap', hspaces', htail', htext⟩ := hlonger
  have hwords : (lead' ++ "function".toList) ++ (gap' ++ (name' ++ tail')) =
      (front ++ lead ++ "function".toList) ++ (gap ++ (name ++ tail)) := by
    simpa using htext.symm
  exact name_unique hname' hname hgap' hgap hspaces' hspaces htail' htail hwords

/-- A header that goes on in front of another one has only `async` and white space there. -/
theorem asyncFront_of_isHeader_append {name front head : List Char} (hfront : front ≠ [])
    (hheader : IsHeader name head) (hlonger : IsHeader name (front ++ head)) :
    ∃ gap, gap.all isSpace ∧ front = "async".toList ++ gap := by
  obtain ⟨lead, gap, tail, hlead, -, hgap, htail, rfl⟩ := hheader
  obtain ⟨lead', gap', tail', hlead', -, hgap', htail', htext⟩ := hlonger
  have hword : ∀ text : List Char, ∀ character ∈ (text ++ "function".toList).getLast?,
      isSpace character = false := by
    intro text character hcharacter
    obtain rfl : 'n' = character := by simpa using hcharacter
    decide
  have hwords : front ++ lead ++ "function".toList = lead' ++ "function".toList :=
    words_unique hgap hgap' htail htail' (hword _) (hword _) (by simpa using htext)
  have hleads : front ++ lead = lead' := List.append_cancel_right hwords
  rcases hlead' with rfl | ⟨space', -, hspace', rfl⟩
  · exact absurd (List.append_eq_nil_iff.mp hleads).1 hfront
  · rcases hlead with rfl | ⟨space, -, hspace, rfl⟩
    · exact ⟨space', hspace', by simpa using hleads⟩
    · -- two words `async` would have to fill the place of one
      have hasync : ∀ text : List Char, ∀ character ∈ (text ++ "async".toList).getLast?,
          isSpace character = false := by
        intro text character hcharacter
        obtain rfl : 'c' = character := by simpa using hcharacter
        decide
      have hfull : front ++ "async".toList ++ space = [] ++ "async".toList ++ space' := by
        simpa using hleads
      have hone := (trailing_unique hspace hspace' (hasync _) (hasync _) hfull).1
      exact absurd (List.append_cancel_right hone) hfront

/-! ## Searching for a header -/

variable {name : List Char} {previous : Option Char}

/-- The indices at which headers begin. -/
def headerStarts (name text : List Char) : List Nat :=
  (List.range text.length).filter fun start =>
    (functionHeader name (text.take start).getLast? (text.drop start)).isSome

theorem length_mem_headerStarts {front rest : List Char} {length : Nat}
    (hheader : functionHeader name front.getLast? rest = some length) :
    front.length ∈ headerStarts name (front ++ rest) := by
  obtain ⟨-, head, tail, -, rfl, -⟩ := functionHeader_eq_some.mp hheader
  rw [headerStarts, List.mem_filter, List.take_left, List.drop_left, hheader, List.mem_range]
  refine ⟨?_, rfl⟩
  simp only [List.length_append, List.length_cons]
  omega

/-- The search for a header goes on behind a front part in which none begins. -/
theorem headerFrom_append {front rest : List Char}
    (hpasses : Finder.Passes (functionHeader name) previous front rest) :
    headerFrom name 0 previous (front ++ rest) =
      (headerFrom name 0 (front.getLast?.or previous) rest).map fun (start, brace) =>
        (front.length + start, front.length + brace) := by
  induction front generalizing previous with
  | nil => simp
  | cons character front ih =>
    obtain ⟨hhere, htail⟩ := Finder.passes_cons.mp hpasses
    rw [List.cons_append, headerFrom, hhere, getLast?_cons_or]
    simp only [ih htail, Option.map_map, List.length_cons]
    congr 1
    funext ⟨start, brace⟩
    simp only [Function.comp, Prod.mk.injEq]
    omega

/-- A header with a body is found where the search begins. -/
theorem headerFrom_of_functionHeader {text : List Char} {length distance : Nat}
    (hheader : functionHeader name previous text = some length)
    (hbody : bodyDistance (text.drop (length - 1)) = some distance) :
    headerFrom name 0 previous text = some (0, length - 1 + distance) := by
  cases text with
  | nil =>
    obtain ⟨-, head, rest, -, htext, -⟩ := functionHeader_eq_some.mp hheader
    simp at htext
  | cons character rest => simp only [headerFrom, hheader, hbody]

/-- A text that begins with a header and has a body is found at once. -/
theorem findHeader_of_isHeader {head after : List Char} {distance : Nat}
    (hheader : IsHeader name head) (hbody : bodyDistance ('(' :: after) = some distance) :
    findHeader (head ++ '(' :: after) name = some (0, head.length + distance) := by
  have hfront : functionHeader name none (head ++ '(' :: after) = some (head.length + 1) :=
    functionHeader_eq_some.mpr ⟨rfl, head, after, hheader, rfl, rfl⟩
  refine headerFrom_of_functionHeader hfront ?_
  rw [Nat.add_sub_cancel, List.drop_left]
  exact hbody

/-- What the search finds is a header with a body. -/
theorem functionHeader_of_headerFrom {skip start brace : Nat} {text : List Char}
    (hfound : headerFrom name skip previous text = some (start, brace)) :
    ∃ front rest length distance, text = front ++ rest ∧ front.length = start ∧
      functionHeader name (front.getLast?.or previous) rest = some length ∧
      bodyDistance (rest.drop (length - 1)) = some distance ∧
      brace = start + (length - 1 + distance) := by
  induction text generalizing skip previous start brace with
  | nil => simp [headerFrom] at hfound
  | cons character text ih =>
    have hlater : ∀ {skip}, (headerFrom name skip (some character) text).map
        (fun (start, brace) => (start + 1, brace + 1)) = some (start, brace) →
        ∃ front rest length distance, character :: text = front ++ rest ∧ front.length = start ∧
          functionHeader name (front.getLast?.or previous) rest = some length ∧
          bodyDistance (rest.drop (length - 1)) = some distance ∧
          brace = start + (length - 1 + distance) := by
      intro skip hmap
      obtain ⟨⟨start', brace'⟩, hlater, hshift⟩ := Option.map_eq_some_iff.mp hmap
      obtain ⟨rfl, rfl⟩ : start' + 1 = start ∧ brace' + 1 = brace := by simpa using hshift
      obtain ⟨front, rest, length, distance, rfl, rfl, hheader, hbody, rfl⟩ := ih hlater
      refine ⟨character :: front, rest, length, distance, rfl, rfl, ?_, hbody, by omega⟩
      rw [getLast?_cons_or, hheader]
    cases skip with
    | succ skip => exact hlater (by simpa only [headerFrom] using hfound)
    | zero =>
      rw [headerFrom] at hfound
      split at hfound
      · exact hlater hfound
      · rename_i length hheader
        split at hfound
        · rename_i distance hbody
          obtain ⟨rfl, rfl⟩ : 0 = start ∧ length - 1 + distance = brace := by simpa using hfound
          exact ⟨[], character :: text, length, distance, rfl, rfl, hheader, hbody, by omega⟩
        · exact hlater hfound

/-- A header that a search finds at once is found behind every front part in which none begins and
that a word can follow. -/
theorem headerFrom_append_of_start {front rest : List Char} {brace : Nat}
    (hfound : findHeader rest name = some (0, brace))
    (hword : startsWord (front.getLast?.or previous))
    (hpasses : Finder.Passes (functionHeader name) previous front rest) :
    headerFrom name 0 previous (front ++ rest) = some (front.length, front.length + brace) := by
  obtain ⟨begun, after, length, distance, rfl, hbegun, hheader, hbody, rfl⟩ :=
    functionHeader_of_headerFrom hfound
  obtain rfl := List.length_eq_zero_iff.mp hbegun
  obtain ⟨-, hspelled⟩ := functionHeader_eq_some.mp hheader
  rw [headerFrom_append hpasses, List.nil_append,
    headerFrom_of_functionHeader (functionHeader_eq_some.mpr ⟨hword, hspelled⟩) hbody]
  simp

/-- A header ends at the first parenthesis. -/
theorem functionHeader_marked (hname : '(' ∉ name) :
    (functionHeader name).Marked '(' (IsHeader name) where
  isSome_iff := by
    intro previous text
    rw [Option.isSome_iff_exists]
    simp only [functionHeader_eq_some]
    constructor
    · rintro ⟨length, hword, head, rest, hheader, htext, -⟩
      exact ⟨hword, head, rest, hheader, htext⟩
    · rintro ⟨hword, head, rest, hheader, htext⟩
      exact ⟨_, hword, head, rest, hheader, htext, rfl⟩
  not_mem := fun hheader => hheader.not_mem_paren hname
  isAlpha := fun hheader => hheader.isAlpha

end PageGraft.Page
