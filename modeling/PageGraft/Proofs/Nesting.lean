import Mathlib.Computability.StateTransition
import PageGraft.Proofs.Context

/-!
# Rescanning from an inner bracket

The bracket reader keeps the closers of the open brackets, but not where these were opened. A `Trail` is a
scan together with the indices of the brackets that are open, so that a bracket that is pushed can be
followed to the place where it is popped. A scan that starts at such a bracket takes the same steps as
the scan around it (`Trail.Contains`): its stack is the inner end of the outer one, and it sees no
keyword in front of its own bracket. It stops where the outer scan pops the bracket.

That the spans of two brackets are nested or disjoint follows from the order of the stack, innermost
first (`Trail.IsSound`), and from the order in which the points of one scan are reached.
-/

namespace PageGraft.Script

open PageGraft.Page PageGraft.Text StateTransition

/-! ## Scans with the places of their open brackets -/

/-- A scan at an index of its text, with the indices of the brackets that are open, innermost first. -/
structure Trail where
  scan : Scan
  index : Nat
  opened : List Nat

/-- What a step of a scan is made of. -/
theorem Scan.next_eq_some {scan after : Scan} {lexeme : Lexeme} :
    scan.next = some (lexeme, after) ↔
      ∃ character rest, scan.rest = character :: rest ∧
        lexeme? scan.previous scan.before scan.rest = some lexeme ∧
        (if lexeme = .character then expectedAfter scan.expected character
          else some scan.expected) = some after.expected ∧
        after = scan.advance lexeme character after.expected := by
  unfold next
  split
  · rename_i hrest
    simp [hrest]
  · rename_i character rest hrest
    constructor
    · intro hnext
      obtain ⟨found, hlexeme, hmap⟩ := Option.bind_eq_some_iff.mp hnext
      obtain ⟨outer, houter, hafter⟩ := Option.map_eq_some_iff.mp hmap
      obtain ⟨rfl, rfl⟩ := Prod.mk.inj hafter
      exact ⟨character, rest, hrest, hlexeme, houter, rfl⟩
    · intro hstep
      obtain ⟨character', rest', hrest', hlexeme, houter, hafter⟩ := hstep
      rw [hrest, List.cons.injEq] at hrest'
      obtain ⟨rfl, rfl⟩ := hrest'
      rw [hlexeme, Option.bind_some, houter, Option.map_some, ← hafter]

section

variable {previous : Option Char} {before rest : List Char} {character : Char} {lexeme : Lexeme}

theorem lexeme_of_isOpener (hopener : isOpener character)
    (hlexeme : lexeme? previous before (character :: rest) = some lexeme) :
    lexeme = .character :=
  Option.some.inj (hlexeme.symm.trans (lexeme?_of_isOpener hopener))

theorem lexeme_of_isCloser (hcloser : isCloser character)
    (hlexeme : lexeme? previous before (character :: rest) = some lexeme) :
    lexeme = .character :=
  Option.some.inj (hlexeme.symm.trans (lexeme?_of_isCloser hcloser))

end

namespace Trail

/-- The brackets that are open after a lexeme. -/
def openedAfter (trail : Trail) (lexeme : Lexeme) : List Nat :=
  match lexeme, trail.scan.rest with
  | .character, character :: _ =>
    if isOpener character then trail.index :: trail.opened
    else if isCloser character then trail.opened.tail
    else trail.opened
  | _, _ => trail.opened

/-- One step of the scan. -/
def next (trail : Trail) : Option Trail :=
  trail.scan.next.map fun (lexeme, after) =>
    ⟨after, trail.index + lexeme.width, trail.openedAfter lexeme⟩

/-- Where the scan of the bracket at an index begins, with the whole text in front. -/
def start (text : List Char) (index : Nat) : Trail where
  scan := ⟨[], none, (text.take index).reverse, text.drop index⟩
  index
  opened := []

/-- The scan comes to an opening bracket. -/
def Pushes (trail : Trail) : Prop :=
  ∃ opener rest, isOpener opener ∧ trail.scan.rest = opener :: rest

/-- The scan comes to the closer of the bracket that was opened at an index. -/
def Pops (trail : Trail) (opened : Nat) : Prop :=
  ∃ closer rest outer earlier, isCloser closer ∧ trail.scan.rest = closer :: rest ∧
    trail.scan.expected = closer :: outer ∧ trail.opened = opened :: earlier

end Trail

/-- The scan of the bracket at an index pushes an opening bracket at another one. -/
def PushesAt (text : List Char) (start index : Nat) : Prop :=
  ∃ trail, Reaches Trail.next (.start text start) trail ∧ trail.index = index ∧ trail.Pushes

/-- The scan of the bracket at an index pops the bracket that it pushed at another one. -/
def PopsAt (text : List Char) (start opened index : Nat) : Prop :=
  ∃ trail, Reaches Trail.next (.start text start) trail ∧ trail.index = index ∧ trail.Pops opened

namespace Trail

variable {text : List Char} {trail middle after last : Trail}

/-- What a step does: it opens a bracket, closes the innermost one, or leaves them as they are. -/
theorem next_cases (hnext : trail.next = some after) :
    ∃ lexeme character rest, trail.scan.rest = character :: rest ∧
      trail.scan.next = some (lexeme, after.scan) ∧ after.index = trail.index + lexeme.width ∧
      ((∃ closer, lexeme = .character ∧ closerOf character = some closer ∧
          after.scan.expected = closer :: trail.scan.expected ∧
          after.opened = trail.index :: trail.opened) ∨
        (lexeme = .character ∧ isCloser character ∧
          trail.scan.expected = character :: after.scan.expected ∧ after.scan.expected ≠ [] ∧
          after.opened = trail.opened.tail) ∨
        (isOpener character = false ∧ isCloser character = false ∧
          after.scan.expected = trail.scan.expected ∧ after.opened = trail.opened)) := by
  obtain ⟨⟨lexeme, scan⟩, hscan, hafter⟩ := Option.map_eq_some_iff.mp hnext
  subst hafter
  obtain ⟨character, rest, hrest, hlexeme, houter, -⟩ := Scan.next_eq_some.mp hscan
  refine ⟨lexeme, character, rest, hrest, hscan, rfl, ?_⟩
  rw [hrest] at hlexeme
  by_cases hcharacter : lexeme = .character
  · rw [if_pos hcharacter] at houter
    have hopened : trail.openedAfter lexeme =
        if isOpener character then trail.index :: trail.opened
        else if isCloser character then trail.opened.tail else trail.opened := by
      simp only [hcharacter, openedAfter, hrest]
    rcases expectedAfter_cases houter with ⟨closer, hopener, hexpected⟩ |
      ⟨hcloser, hexpected, hopen⟩ | ⟨hopener, hcloser, hexpected⟩
    · rw [if_pos (isOpener_of_closerOf hopener)] at hopened
      exact .inl ⟨closer, hcharacter, hopener, hexpected, hopened⟩
    · have hopener : isOpener character = false := by
        simp [isOpener, closerOf_of_isCloser hcloser]
      rw [hopener, if_neg Bool.false_ne_true, if_pos hcloser] at hopened
      exact .inr (.inl ⟨hcharacter, hcloser, hexpected, hopen, hopened⟩)
    · rw [hopener, hcloser, if_neg Bool.false_ne_true, if_neg Bool.false_ne_true] at hopened
      exact .inr (.inr ⟨hopener, hcloser, hexpected, hopened⟩)
  · -- a literal or a comment begins with no bracket
    rw [if_neg hcharacter, Option.some.injEq] at houter
    have hbracket : ∀ {mark : Bool}, (mark = true → lexeme = .character) → mark = false := by
      intro mark hmark
      rw [← Bool.not_eq_true]
      exact fun htrue => hcharacter (hmark htrue)
    refine .inr (.inr ⟨?_, ?_, houter.symm, ?_⟩)
    · exact hbracket fun hopener => lexeme_of_isOpener hopener hlexeme
    · exact hbracket fun hcloser => lexeme_of_isCloser hcloser hlexeme
    · cases lexeme with
      | literal => rfl
      | comment => rfl
      | character => exact absurd rfl hcharacter

/-! ## What holds along a scan -/

/-- What holds along the scan of a text that ends at an index. -/
structure IsSound (text : List Char) (stop : Nat) (trail : Trail) : Prop where
  rest_eq : trail.scan.rest = text.drop trail.index
  stop_eq : trail.scan.distance.map (· + trail.index) = some stop
  opened_lt : ∀ opened ∈ trail.opened, opened < trail.index
  decreasing : trail.opened.Pairwise (· > ·)

variable {stop : Nat}

theorem IsSound.step (hsound : trail.IsSound text stop) (hnext : trail.next = some after) :
    after.IsSound text stop := by
  obtain ⟨lexeme, character, rest, hrest, hscan, hindex, hcases⟩ := next_cases hnext
  have hpositive := lexeme.width_pos
  refine ⟨?_, ?_, ?_, ?_⟩
  · rw [Scan.next_rest hscan, hsound.rest_eq, List.drop_drop, hindex]
  · have hstop := hsound.stop_eq
    rw [Scan.distance_of_next hscan, Option.map_map] at hstop
    rw [← hstop, hindex]
    congr 1
    funext distance
    simp only [Function.comp_apply]
    omega
  · intro opened hopened
    rcases hcases with ⟨closer, -, -, -, heq⟩ | ⟨-, -, -, -, heq⟩ | ⟨-, -, -, heq⟩
    · rw [heq, List.mem_cons] at hopened
      rcases hopened with rfl | hopened
      · omega
      · have hlt := hsound.opened_lt opened hopened
        omega
    · rw [heq] at hopened
      have hlt := hsound.opened_lt opened (List.mem_of_mem_tail hopened)
      omega
    · rw [heq] at hopened
      have hlt := hsound.opened_lt opened hopened
      omega
  · rcases hcases with ⟨closer, -, -, -, heq⟩ | ⟨-, -, -, -, heq⟩ | ⟨-, -, -, heq⟩
    · rw [heq, List.pairwise_cons]
      exact ⟨hsound.opened_lt, hsound.decreasing⟩
    · rw [heq]
      exact hsound.decreasing.tail
    · rw [heq]
      exact hsound.decreasing

theorem IsSound.run (hsound : trail.IsSound text stop) (hreaches : Reaches next trail after) :
    after.IsSound text stop := by
  induction hreaches with
  | refl => exact hsound
  | tail _ hstep ih => exact ih.step hstep

/-- A bracket that is open later was open before, if it was opened before. -/
theorem mem_opened_of_reaches (hreaches : Reaches next trail after) {opened : Nat}
    (hopened : opened ∈ after.opened) (hbefore : opened < trail.index) : opened ∈ trail.opened := by
  induction hreaches using Relation.ReflTransGen.head_induction_on with
  | refl => exact hopened
  | @head trail middle hstep _ ih =>
    obtain ⟨lexeme, character, rest, -, -, hindex, hcases⟩ := next_cases hstep
    have hmiddle := ih (by omega)
    rcases hcases with ⟨closer, -, -, -, heq⟩ | ⟨-, -, -, -, heq⟩ | ⟨-, -, -, heq⟩
    · rw [heq, List.mem_cons] at hmiddle
      exact hmiddle.resolve_left (Nat.ne_of_lt hbefore)
    · rw [heq] at hmiddle
      exact List.mem_of_mem_tail hmiddle
    · rwa [heq] at hmiddle

theorem index_le_of_reaches (hreaches : Reaches next trail after) :
    trail = after ∨ trail.index < after.index := by
  induction hreaches with
  | refl => exact .inl rfl
  | tail _ hstep ih =>
    obtain ⟨lexeme, _, _, -, -, hindex, -⟩ := next_cases hstep
    have hpositive := lexeme.width_pos
    right
    rcases ih with rfl | hlt
    · omega
    · omega

/-! ## A scan from an inner bracket -/

/-- A trail goes over what another scan goes over, inside a bracket that was opened at `start`: the
brackets that are open in both are the innermost ones of the trail. -/
structure Contains (inner : Scan) (start : Nat) (trail : Trail) : Prop where
  rest_eq : trail.scan.rest = inner.rest
  previous_eq : trail.scan.previous = inner.previous
  alike : LooksAlike inner.before trail.scan.before
  expected_eq : ∃ outer, trail.scan.expected = inner.expected ++ outer
  opened_eq : ∃ further earlier, trail.opened = further ++ start :: earlier ∧
    further.length + 1 = inner.expected.length

variable {inner : Scan} {start : Nat}

theorem Contains.not_closes (hcontains : trail.Contains inner start) (hopen : ¬ inner.Closes) :
    ¬ trail.scan.Closes := by
  intro hcloses
  obtain ⟨closer, rest, hcloser, hexpected, hrest⟩ := hcloses
  obtain ⟨outer, houter⟩ := hcontains.expected_eq
  obtain ⟨further, earlier, -, hlength⟩ := hcontains.opened_eq
  rw [hexpected] at houter
  have hinner : inner.expected = [closer] := by
    cases hinner : inner.expected with
    | nil => simp [hinner] at hlength
    | cons first more =>
      rw [hinner, List.cons_append, List.cons.injEq] at houter
      have hmore := (List.append_eq_nil_iff.mp houter.2.symm).1
      rw [hmore, houter.1]
  exact hopen ⟨closer, rest, hcloser, hinner, hcontains.rest_eq ▸ hrest⟩

theorem Contains.pops (hcontains : trail.Contains inner start) (hcloses : inner.Closes) :
    trail.Pops start := by
  obtain ⟨closer, rest, hcloser, hexpected, hrest⟩ := hcloses
  obtain ⟨outer, houter⟩ := hcontains.expected_eq
  obtain ⟨further, earlier, hopened, hlength⟩ := hcontains.opened_eq
  rw [hexpected, List.length_singleton] at hlength
  have hfurther : further = [] := List.length_eq_zero_iff.mp (by omega)
  rw [hexpected] at houter
  rw [hfurther] at hopened
  exact ⟨closer, rest, outer, earlier, hcloser, hcontains.rest_eq.trans hrest, houter, hopened⟩

/-- The same lexeme is read next. It is enough to say which brackets are open behind it. -/
theorem Contains.advance {lexeme : Lexeme} {character : Char} {rest : List Char}
    (hcontains : trail.Contains inner start) (expected : List Char) (hrest : trail.scan.rest = character :: rest)
    (hscan : trail.scan.next = some (lexeme, after.scan))
    (hexpected : (if lexeme = .character then expectedAfter inner.expected character
      else some inner.expected) = some expected)
    (houter : ∃ outer, after.scan.expected = expected ++ outer)
    (hopened : ∃ further earlier, after.opened = further ++ start :: earlier ∧
      further.length + 1 = expected.length) :
    ∃ scan, inner.next = some (lexeme, scan) ∧ after.Contains scan start := by
  obtain ⟨character', rest', hrest', hlexeme, -, hafter⟩ := Scan.next_eq_some.mp hscan
  rw [hrest, List.cons.injEq] at hrest'
  obtain ⟨rfl, rfl⟩ := hrest'
  rw [hcontains.previous_eq, ← hcontains.alike.lexeme?_eq, hcontains.rest_eq] at hlexeme
  have hnext : inner.next = some (lexeme, inner.advance lexeme character expected) := by
    apply Scan.next_eq_some.mpr
    exact ⟨character, rest, hcontains.rest_eq ▸ hrest, hlexeme, hexpected, rfl⟩
  refine ⟨_, hnext, ?_, ?_, ?_, houter, hopened⟩
  · rw [congrArg Scan.rest hafter, Scan.advance, Scan.advance, hcontains.rest_eq]
  · rw [congrArg Scan.previous hafter, Scan.advance, Scan.advance, hcontains.previous_eq]
  · rw [congrArg Scan.before hafter, Scan.advance, Scan.advance, hcontains.rest_eq]
    exact hcontains.alike.append _

/-- A step of the trail that does not close the bracket at `start` is a step of the inner scan. -/
theorem Contains.step (hcontains : trail.Contains inner start) (hopen : ¬ inner.Closes)
    (hnext : trail.next = some after) :
    ∃ lexeme scan, inner.next = some (lexeme, scan) ∧ after.index = trail.index + lexeme.width ∧
      after.Contains scan start := by
  obtain ⟨lexeme, character, rest, hrest, hscan, hindex, hcases⟩ := next_cases hnext
  obtain ⟨outer, houter⟩ := hcontains.expected_eq
  obtain ⟨further, earlier, hopened, hlength⟩ := hcontains.opened_eq
  suffices hstep : ∃ scan, inner.next = some (lexeme, scan) ∧ after.Contains scan start by
    obtain ⟨scan, hinner, hafter⟩ := hstep
    exact ⟨lexeme, scan, hinner, hindex, hafter⟩
  rcases hcases with ⟨closer, hcharacter, hopener, hexpected, hpushed⟩ |
    ⟨hcharacter, hcloser, hexpected, -, hpopped⟩ | ⟨hopener, hcloser, hexpected, hkept⟩
  · apply hcontains.advance (closer :: inner.expected) hrest hscan
    · rw [if_pos hcharacter]
      simp [expectedAfter, hopener]
    · exact ⟨outer, by rw [hexpected, houter, List.cons_append]⟩
    · refine ⟨trail.index :: further, earlier, ?_, ?_⟩
      · rw [hpushed, hopened, List.cons_append]
      · rw [List.length_cons, List.length_cons, hlength]
  · -- the closer of the bracket at `start` itself would end the inner scan
    cases hstack : inner.expected with
    | nil => simp [hstack] at hlength
    | cons closer more =>
      rw [hexpected, hstack, List.cons_append, List.cons.injEq] at houter
      obtain ⟨rfl, houter⟩ := houter
      have hmore : more ≠ [] := by
        intro hmore
        rw [hmore] at hstack
        exact hopen ⟨character, rest, hcloser, hstack, hcontains.rest_eq ▸ hrest⟩
      apply hcontains.advance more hrest hscan
      · rw [if_pos hcharacter, hstack]
        simp [expectedAfter, closerOf_of_isCloser hcloser, hcloser, hmore]
      · exact ⟨outer, houter⟩
      · rw [hstack, List.length_cons, Nat.add_right_cancel_iff] at hlength
        cases further with
        | nil => exact absurd (List.length_eq_zero_iff.mp hlength.symm) hmore
        | cons newest further =>
          refine ⟨further, earlier, ?_, ?_⟩
          · rw [hpopped, hopened, List.cons_append, List.tail_cons]
          · rw [← hlength, List.length_cons]
  · apply hcontains.advance inner.expected hrest hscan
    · have hnone : closerOf character = none := by simpa [isOpener] using hopener
      split
      · simp [expectedAfter, hnone, hcloser]
      · rfl
    · exact ⟨outer, by rw [hexpected, houter]⟩
    · exact ⟨further, earlier, by rw [hkept, hopened], hlength⟩

/-- A scan that goes on to its end goes over the bracket at `start` to its closer, and so does a scan from
there. -/
theorem Contains.run {distance : Nat} (hcontains : trail.Contains inner start)
    (hdistance : trail.scan.distance = some distance) :
    ∃ width last, inner.distance = some width ∧ Reaches Trail.next trail last ∧
      last.index = trail.index + width ∧ last.Pops start := by
  induction distance using Nat.strong_induction_on generalizing inner trail with
  | _ distance ih =>
    by_cases hcloses : inner.Closes
    · exact ⟨0, trail, Scan.distance_of_closes hcloses, .refl, rfl, hcontains.pops hcloses⟩
    · rcases Scan.closes_or_next hdistance with
        ⟨houter, -⟩ | ⟨lexeme, scan, further, hscan, hfurther, heq⟩
      · exact absurd houter (hcontains.not_closes hcloses)
      · have hnext : trail.next =
            some ⟨scan, trail.index + lexeme.width, trail.openedAfter lexeme⟩ := by
          rw [next, hscan]
          rfl
        have hpositive := lexeme.width_pos
        obtain ⟨lexeme', scan', hinner, hindex, hlater⟩ := hcontains.step hcloses hnext
        obtain ⟨width, last, hwidth, hreaches, hlast, hpops⟩ :=
          ih further (by omega) hlater hfurther
        refine ⟨width + lexeme'.width, last, ?_, hreaches.head hnext, ?_, hpops⟩
        · rw [Scan.distance_of_next hinner, hwidth, Option.map_some]
        · rw [hlast, hindex]
          omega

/-! ## Opening brackets of a scan -/

/-- An opening bracket is pushed. -/
theorem next_of_opener {opener closer : Char} {rest : List Char}
    (hopener : closerOf opener = some closer) (hrest : trail.scan.rest = opener :: rest) :
    trail.next = some ⟨⟨closer :: trail.scan.expected, some opener, opener :: trail.scan.before, rest⟩,
      trail.index + 1, trail.index :: trail.opened⟩ := by
  have hopens := isOpener_of_closerOf hopener
  obtain ⟨⟨expected, previous, before, text⟩, index, opened⟩ := trail
  obtain rfl : text = opener :: rest := hrest
  rw [next, Scan.next_of_opener hopener]
  simp [openedAfter, hopens, Lexeme.width]

/-- A scan that goes on to its end pops every bracket that it pushes, where a scan from there finds its
closer. -/
theorem IsSound.exists_pop (hsound : trail.IsSound text stop) (hpushes : trail.Pushes) :
    ∃ after last, trail.next = some after ∧ Reaches Trail.next after last ∧
      last.Pops trail.index ∧ findMatching text trail.index = some last.index := by
  obtain ⟨opener, rest, hopens, hrest⟩ := hpushes
  obtain ⟨closer, hopener⟩ := Option.isSome_iff_exists.mp hopens
  have hnext := next_of_opener hopener hrest
  have hafter := hsound.step hnext
  obtain ⟨distance, hdistance, -⟩ := Option.map_eq_some_iff.mp hafter.stop_eq
  have hcontains : Contains ⟨[closer], some opener, [opener], rest⟩ trail.index
      ⟨⟨closer :: trail.scan.expected, some opener, opener :: trail.scan.before, rest⟩,
        trail.index + 1, trail.index :: trail.opened⟩ :=
    ⟨rfl, rfl, looksAlike_opener hopens _ _, ⟨trail.scan.expected, rfl⟩,
      ⟨[], trail.opened, rfl, rfl⟩⟩
  obtain ⟨width, last, hwidth, hreaches, hlast, hpops⟩ := hcontains.run hdistance
  have hopening : Scan.Passes ⟨[], none, [], opener :: rest⟩ 1
      ⟨[closer], some opener, [opener], rest⟩ := Scan.passes_opener hopener
  have hgroup := hopening.distance_eq
  rw [hwidth, Scan.distance, Option.map_some] at hgroup
  have hindex : last.index = trail.index + 1 + width := hlast
  refine ⟨_, last, hnext, hreaches, hpops, ?_⟩
  rw [findMatching, ← hsound.rest_eq, hrest, groupLength]
  simp only [hopens, if_true]
  rw [hgroup, Option.map_some, hindex]
  exact congrArg some (by omega)

/-- The bracket matcher scans from the bracket. It may have the text in front of it in view. -/
theorem findMatching_eq_distance {start : Nat} {opener : Char} {rest : List Char}
    (hopener : isOpener opener) (hrest : text.drop start = opener :: rest) :
    findMatching text start = (Trail.start text start).scan.distance.map (· + start) := by
  rw [findMatching, Trail.start, Scan.distance, hrest, groupLength, if_pos hopener,
    closingDistance_opener hopener [] (text.take start).reverse]

/-- The scan of a bracket that is matched is sound from the beginning, and pushes that bracket. -/
theorem isSound_start {start : Nat} (hmatching : findMatching text start = some stop) :
    (Trail.start text start).IsSound text stop ∧ (Trail.start text start).Pushes := by
  cases hrest : text.drop start with
  | nil => simp [findMatching, groupLength, hrest] at hmatching
  | cons opener rest =>
    by_cases hopener : isOpener opener
    · rw [findMatching_eq_distance hopener hrest] at hmatching
      exact ⟨⟨rfl, hmatching, by simp [Trail.start], by simp [Trail.start]⟩, opener, rest, hopener, hrest⟩
    · simp [findMatching, groupLength, hrest, hopener] at hmatching

/-! ## The order of trails -/

variable {first second : Trail}

/-- Of two points of one scan, the one with the greater index comes later. -/
theorem reaches_of_index_le (hfirst : Reaches Trail.next trail first)
    (hsecond : Reaches Trail.next trail second) (hle : first.index ≤ second.index) :
    Reaches Trail.next first second := by
  rcases reaches_total hfirst hsecond with hreaches | hreaches
  · exact hreaches
  · rcases index_le_of_reaches hreaches with heq | hlt
    · rw [heq]
      exact .refl
    · omega

/-- Once popped, a bracket is not open any more. -/
theorem IsSound.not_mem_of_pops {opened : Nat} (hsound : trail.IsSound text stop)
    (hpops : trail.Pops opened) (hnext : trail.next = some after)
    (hreaches : Reaches Trail.next after last) : opened ∉ last.opened := by
  intro hmem
  obtain ⟨closer, rest, outer, earlier, hcloser, hrest, -, hopened⟩ := hpops
  obtain ⟨lexeme, character, rest', hrest', -, hindex, hcases⟩ := next_cases hnext
  rw [hrest, List.cons.injEq] at hrest'
  obtain ⟨rfl, rfl⟩ := hrest'
  have hbefore : opened < trail.index := hsound.opened_lt opened (by simp [hopened])
  have hafter := mem_opened_of_reaches hreaches hmem (by omega)
  have hdecreasing := hsound.decreasing
  rw [hopened, List.pairwise_cons] at hdecreasing
  rcases hcases with ⟨_, -, hopener, -⟩ | ⟨-, -, -, -, hpopped⟩ | ⟨-, hnot, -⟩
  · rw [closerOf_of_isCloser hcloser] at hopener
    exact absurd hopener (by simp)
  · rw [hpopped, hopened, List.tail_cons] at hafter
    exact absurd (hdecreasing.1 opened hafter) (Nat.lt_irrefl _)
  · rw [hcloser] at hnot
    exact absurd hnot (by simp)

/-- A bracket is popped once. -/
theorem IsSound.pops_unique {opened : Nat} (hsound : trail.IsSound text stop)
    (hfirst : Reaches Trail.next trail first) (hsecond : Reaches Trail.next trail second)
    (hpops : first.Pops opened) (hpops' : second.Pops opened) : first.index = second.index := by
  have hlate : ∀ {early late : Trail}, Reaches Trail.next trail early →
      Reaches Trail.next trail late → early.Pops opened → late.Pops opened →
      ¬ early.index < late.index := by
    intro early late hearly hlate hpops hpops' hlt
    have hreaches := reaches_of_index_le hearly hlate hlt.le
    rcases Relation.ReflTransGen.cases_head hreaches with heq | ⟨after, hnext, hlater⟩
    · rw [heq] at hlt
      exact Nat.lt_irrefl _ hlt
    · apply (hsound.run hearly).not_mem_of_pops hpops hnext hlater
      obtain ⟨_, _, _, _, -, -, -, hopened⟩ := hpops'
      simp [hopened]
  have hnot := hlate hfirst hsecond hpops hpops'
  have hnot' := hlate hsecond hfirst hpops' hpops
  omega

theorem Pops.mem_opened {opened : Nat} (hpops : trail.Pops opened) : opened ∈ trail.opened := by
  obtain ⟨_, _, _, earlier, -, -, -, hopened⟩ := hpops
  rw [hopened]
  exact List.mem_cons_self

/-- A bracket that is opened inside another one is closed inside it. -/
theorem IsSound.index_lt_of_pops {outer inner : Nat} (hsound : trail.IsSound text stop)
    (hfirst : Reaches Trail.next trail first) (hsecond : Reaches Trail.next trail second)
    (houter : first.Pops outer) (hinner : second.Pops inner) (hlt : outer < inner)
    (hopen : inner < first.index) : second.index < first.index := by
  by_contra hle
  have hreaches := reaches_of_index_le hfirst hsecond (Nat.le_of_not_lt hle)
  have hmem := mem_opened_of_reaches hreaches hinner.mem_opened hopen
  obtain ⟨_, _, _, earlier, -, -, -, hopened⟩ := houter
  have hdecreasing := (hsound.run hfirst).decreasing
  rw [hopened, List.pairwise_cons] at hdecreasing
  rw [hopened, List.mem_cons] at hmem
  rcases hmem with heq | hmem
  · omega
  · have hgreater := hdecreasing.1 inner hmem
    omega

end Trail

section

variable {text : List Char} {start stop : Nat}

/-- Where the scan of a matched bracket pops a bracket that it pushes. -/
theorem exists_trail_of_pushesAt (hmatching : findMatching text start = some stop) {index : Nat}
    (hpushes : PushesAt text start index) :
    ∃ last, Reaches Trail.next (.start text start) last ∧ last.Pops index ∧
      findMatching text index = some last.index ∧ index < last.index ∧ last.index ≤ stop := by
  obtain ⟨hsound, -⟩ := Trail.isSound_start hmatching
  obtain ⟨trail, hreaches, rfl, hpushes⟩ := hpushes
  obtain ⟨after, last, hnext, hlater, hpops, hfound⟩ := (hsound.run hreaches).exists_pop hpushes
  have hlast : Reaches Trail.next (.start text start) last := (hreaches.tail hnext).trans hlater
  have hsoundLast := hsound.run hlast
  obtain ⟨distance, -, hstop⟩ := Option.map_eq_some_iff.mp hsoundLast.stop_eq
  refine ⟨last, hlast, hpops, hfound, ?_, ?_⟩
  · exact hsoundLast.opened_lt _ hpops.mem_opened
  · omega

/-- No bracket is closed where another one is opened. -/
theorem ne_of_pushesAt (hmatching : findMatching text start = some stop) {first second firstStop : Nat}
    (hfirst : PushesAt text start first) (hsecond : PushesAt text start second)
    (hfirstStop : findMatching text first = some firstStop) : firstStop ≠ second := by
  intro heq
  obtain ⟨hsound, -⟩ := Trail.isSound_start hmatching
  obtain ⟨last, hlast, hpops, hfound, -⟩ := exists_trail_of_pushesAt hmatching hfirst
  obtain ⟨trail, hreaches, rfl, opener, rest, hopener, hrest⟩ := hsecond
  obtain ⟨closer, rest', outer, earlier, hcloser, hrest', -, -⟩ := hpops
  have hindex := Option.some.inj (hfirstStop.symm.trans hfound)
  rw [(hsound.run hreaches).rest_eq, ← heq, hindex, ← (hsound.run hlast).rest_eq, hrest',
    List.cons.injEq] at hrest
  rw [hrest.1] at hcloser
  rcases isOpener_iff.mp hopener with rfl | rfl | rfl
  all_goals exact absurd hcloser (by decide)

/-- The one place where a bracket that the scan pushes is popped is its closer. -/
theorem popsAt_iff (hmatching : findMatching text start = some stop) {index inner position : Nat}
    (hpushes : PushesAt text start index) (hinner : findMatching text index = some inner) :
    PopsAt text start index position ↔ position = inner := by
  obtain ⟨hsound, -⟩ := Trail.isSound_start hmatching
  obtain ⟨last, hlast, hpops, hfound, -⟩ := exists_trail_of_pushesAt hmatching hpushes
  obtain rfl := Option.some.inj (hinner.symm.trans hfound)
  constructor
  · intro hposition
    obtain ⟨other, hother, rfl, hpops'⟩ := hposition
    exact hsound.pops_unique hother hlast hpops' hpops
  · intro hposition
    exact ⟨last, hlast, hposition.symm, hpops⟩

/-- What is pushed inside a bracket is closed inside it. -/
theorem stop_lt_of_pushesAt (hmatching : findMatching text start = some stop)
    {first second firstStop secondStop : Nat} (hfirst : PushesAt text start first)
    (hsecond : PushesAt text start second) (hfirstStop : findMatching text first = some firstStop)
    (hsecondStop : findMatching text second = some secondStop) (hlt : first < second)
    (hopen : second < firstStop) : secondStop < firstStop := by
  obtain ⟨hsound, -⟩ := Trail.isSound_start hmatching
  obtain ⟨outer, houter, hpopsOuter, hfoundOuter, -⟩ := exists_trail_of_pushesAt hmatching hfirst
  obtain ⟨inner, hinner, hpopsInner, hfoundInner, -⟩ := exists_trail_of_pushesAt hmatching hsecond
  obtain rfl := Option.some.inj (hfirstStop.symm.trans hfoundOuter)
  obtain rfl := Option.some.inj (hsecondStop.symm.trans hfoundInner)
  exact hsound.index_lt_of_pops houter hinner hpopsOuter hpopsInner hlt hopen

/-- Rescanning from a bracket that a scan pushes agrees with the scan. Where the bracket at `start` is
matched, the scan pops it at its closer; every bracket that it pushes inside is matched inside, at the one
place where the scan pops that very bracket. The spans of two brackets that are pushed are nested or
disjoint. -/
theorem findMatching_of_pushed (hmatching : findMatching text start = some stop) :
    (∀ position, PopsAt text start start position ↔ position = stop) ∧
    (∀ index, start < index → PushesAt text start index →
      ∃ inner, findMatching text index = some inner ∧ index < inner ∧ inner < stop ∧
        ∀ position, PopsAt text start index position ↔ position = inner) ∧
    ∀ first second firstStop secondStop, PushesAt text start first → PushesAt text start second →
      findMatching text first = some firstStop → findMatching text second = some secondStop →
      first < second → firstStop < second ∨ secondStop < firstStop := by
  obtain ⟨-, hpushes⟩ := Trail.isSound_start hmatching
  have hstart : PushesAt text start start := ⟨_, .refl, rfl, hpushes⟩
  refine ⟨fun position => popsAt_iff hmatching hstart hmatching, ?_, ?_⟩
  · intro index hlt hindex
    obtain ⟨last, -, -, hfound, hafter, hle⟩ := exists_trail_of_pushesAt hmatching hindex
    refine ⟨last.index, hfound, hafter, ?_, fun position => popsAt_iff hmatching hindex hfound⟩
    exact stop_lt_of_pushesAt hmatching hstart hindex hmatching hfound hlt (by omega)
  · intro first second firstStop secondStop hfirst hsecond hfirstStop hsecondStop hlt
    by_cases hopen : second < firstStop
    · right
      exact stop_lt_of_pushesAt hmatching hfirst hsecond hfirstStop hsecondStop hlt hopen
    · left
      have hne := ne_of_pushesAt hmatching hfirst hsecond hfirstStop
      omega

set_option maxRecDepth 8000 in
/-- The second bracket, which is pushed on the way, holds a regular expression for the scan from the first
one and for the scan from itself. -/
theorem findMatching_of_pushed_regex :
    findMatching "([/]/])".toList 0 = some 6 ∧ PushesAt "([/]/])".toList 0 1 ∧
      ∃ inner, findMatching "([/]/])".toList 1 = some inner ∧ 1 < inner ∧ inner < 6 ∧
        ∀ position, PopsAt "([/]/])".toList 0 1 position ↔ position = inner := by
  have hmatching : findMatching "([/]/])".toList 0 = some 6 := by cbv
  have hnext : (Trail.start "([/]/])".toList 0).next =
      some ⟨⟨[')'], some '(', ['('], "[/]/])".toList⟩, 1, [0]⟩ := Trail.next_of_opener rfl rfl
  have hpushes : PushesAt "([/]/])".toList 0 1 :=
    ⟨_, .single hnext, rfl, '[', "/]/])".toList, rfl, rfl⟩
  obtain ⟨-, hinner, -⟩ := findMatching_of_pushed hmatching
  exact ⟨hmatching, hpushes, hinner 1 Nat.zero_lt_one hpushes⟩

end

end PageGraft.Script
