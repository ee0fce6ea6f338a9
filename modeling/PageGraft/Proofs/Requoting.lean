import PageGraft.Component.InitialValue
import PageGraft.Proofs.Scan
import PageGraft.Proofs.Utf8

/-!
# Requoted literals

The literal that initialises a state variable stays closed: in front of a semicolon of the page, the
statement that it is goes on to that semicolon, unless the literal is a string with a line continuation of
two characters (`initialValue_closed_and_faithful`). The reader of strings takes only the first of these for
escaped, and the second one, a newline, breaks the literal for it.

A string that is accepted denotes the same characters between double quotes. Both bodies are made of the
same parts (`stringParts`), where it does not matter whether a quote is escaped.
-/

namespace PageGraft.Component

open PageGraft.Script PageGraft.Syntax PageGraft.Text

/-! ## String literals as they are spelled -/

/-- A string literal of a script after its opening quote. A backslash takes the next character with it, or
a line break of two characters; the other characters are no line breaks. -/
inductive IsLiteralBody (quote : Char) : List Char → Prop
  | close : IsLiteralBody quote [quote]
  | escape {escaped : Char} {body : List Char} (hbody : IsLiteralBody quote body) :
      IsLiteralBody quote ('\\' :: escaped :: body)
  | continuation {body : List Char} (hbody : IsLiteralBody quote body) :
      IsLiteralBody quote ('\\' :: '\r' :: '\n' :: body)
  | plain {character : Char} {body : List Char} (hescape : character ≠ '\\')
      (hquote : character ≠ quote) (hbreak : character ≠ '\n' ∧ character ≠ '\r')
      (hbody : IsLiteralBody quote body) : IsLiteralBody quote (character :: body)

/-- The characters that the reader of strings goes over before a quote or a newline. -/
inductive IsStringRun (quote : Char) : List Char → Prop
  | nil : IsStringRun quote []
  | escape {escaped : Char} {run : List Char} (hrun : IsStringRun quote run) :
      IsStringRun quote ('\\' :: escaped :: run)
  | plain {character : Char} {run : List Char} (hescape : character ≠ '\\') (hquote : character ≠ quote)
      (hnewline : character ≠ '\n') (hrun : IsStringRun quote run) : IsStringRun quote (character :: run)

/-- What a literal node spans in a source. -/
structure IsLiteralNode (source : Source) (node : Node) : Prop where
  trueLiteral : node.kind = .trueLiteral → source.nodeText node = "true".toList
  falseLiteral : node.kind = .falseLiteral → source.nodeText node = "false".toList
  number : node.kind = .number →
    source.nodeText node ≠ [] ∧ (source.nodeText node).all isLiteralPart
  string : node.kind = .string → ∃ quote body, isQuote quote ∧
    source.nodeText node = quote :: body ∧ IsLiteralBody quote body

/-- What the inside of a string literal is made of. -/
inductive StringPart where
  | character (character : Char)
  | escape (escaped : Char)
deriving Repr, DecidableEq

/-- The parts of the inside of a string literal; an escaped quote is the quote. -/
def stringParts : List Char → List StringPart
  | [] => []
  | '\\' :: escaped :: rest =>
    (if isQuote escaped then .character escaped else .escape escaped) :: stringParts rest
  | character :: rest => .character character :: stringParts rest

section

variable {quote character : Char} {body rest run : List Char}

theorem IsStringRun.stringLength_append (hrun : IsStringRun quote run) (text : List Char) :
    stringLength quote (run ++ text) = (stringLength quote text).map (· + run.length) := by
  induction hrun with
  | nil => simp
  | escape hrun ih =>
    rw [List.cons_append, List.cons_append, stringLength, ih, Option.map_map]
    rfl
  | plain hescape hquote hnewline hrun ih =>
    rw [List.cons_append, stringLength_cons hescape, if_neg hquote, if_neg hnewline, ih,
      Option.map_map]
    rfl

/-- A string literal that the reader accepts is a run and the quote behind it. -/
theorem exists_run_of_stringLength (hlength : stringLength quote body = some body.length) :
    ∃ run, body = run ++ [quote] ∧ IsStringRun quote run := by
  obtain ⟨body, rest, rfl, heq, hbody⟩ := exists_of_stringLength hlength
  obtain rfl : rest = [] := by simpa using heq
  rw [List.append_nil]
  clear hlength heq
  induction hbody with
  | close => exact ⟨[], rfl, .nil⟩
  | escape _ ih =>
    obtain ⟨run, rfl, hrun⟩ := ih
    exact ⟨_, rfl, hrun.escape⟩
  | plain hescape hquote hnewline _ ih =>
    obtain ⟨run, rfl, hrun⟩ := ih
    exact ⟨_, rfl, hrun.plain hescape hquote hnewline⟩

/-! ## Requoting -/

theorem requote_escape : requote ('\\' :: character :: rest) =
    if character = '\'' then '\'' :: requote rest else '\\' :: character :: requote rest := rfl

theorem requote_cons (hescape : character ≠ '\\') : requote (character :: rest) =
    if character = '"' then '\\' :: '"' :: requote rest else character :: requote rest := by
  by_cases hquote : character = '"'
  · rw [hquote, if_pos rfl]
    rfl
  · rw [if_neg hquote, requote.eq_4]
    · intro _ _ hbackslash _
      exact hescape hbackslash
    · exact hquote

theorem requote_append (hrun : IsStringRun quote run) (text : List Char) :
    requote (run ++ text) = requote run ++ requote text := by
  induction hrun with
  | nil => rfl
  | escape hrun ih =>
    rw [List.cons_append, List.cons_append, requote_escape, requote_escape, ih]
    split <;> rfl
  | plain hescape hquote hnewline hrun ih =>
    rw [List.cons_append, requote_cons hescape, requote_cons hescape, ih]
    split <;> rfl

theorem IsStringRun.requote (hrun : IsStringRun '\'' run) : IsStringRun '"' (requote run) := by
  induction hrun with
  | nil => exact .nil
  | escape hrun ih =>
    rw [requote_escape]
    split
    · exact ih.plain (by decide) (by decide) (by decide)
    · exact ih.escape
  | plain hescape hquote hnewline hrun ih =>
    rw [requote_cons hescape]
    split
    · exact ih.escape
    · rename_i hdouble
      exact ih.plain hescape hdouble hnewline

theorem stringParts_cons (hescape : character ≠ '\\') :
    stringParts (character :: rest) = .character character :: stringParts rest := by
  rw [stringParts.eq_3]
  intro _ _ hbackslash _
  exact hescape hbackslash

/-- Requoting changes the spelling of quotes only. -/
theorem stringParts_requote (hrun : IsStringRun '\'' run) :
    stringParts (requote run) = stringParts run := by
  induction hrun with
  | nil => rfl
  | @escape escaped run hrun ih =>
    rw [requote_escape, stringParts]
    split
    · rename_i hsingle
      rw [hsingle, stringParts_cons (by decide), ih]
      rfl
    · rw [stringParts, ih]
  | @plain character run hescape hquote hnewline hrun ih =>
    rw [requote_cons hescape, stringParts_cons hescape]
    split
    · rename_i hdouble
      rw [hdouble, stringParts, ih]
      rfl
    · rw [stringParts_cons hescape, ih]

theorem doubleQuoted_double : doubleQuoted ('"' :: body) = '"' :: body := by
  simp [doubleQuoted]

theorem doubleQuoted_single (inner : List Char) :
    doubleQuoted ('\'' :: (inner ++ ['\''])) = '"' :: (requote inner ++ ['"']) := by
  simp [doubleQuoted]

theorem IsStringRun.stringLength_close (hquote : isQuote quote) (hrun : IsStringRun quote run) :
    stringLength quote (run ++ [quote]) = some (run ++ [quote]).length := by
  have hescape : quote ≠ '\\' := by
    rintro rfl
    exact absurd hquote (by decide)
  rw [hrun.stringLength_append, stringLength_cons hescape, if_pos rfl, List.length_append, Nat.add_comm]
  rfl

/-- A string literal that is accepted has the same parts between double quotes. -/
theorem exists_doubleQuoted (hquote : isQuote quote) (hrun : IsStringRun quote run) :
    ∃ requoted, doubleQuoted (quote :: (run ++ [quote])) = '"' :: (requoted ++ ['"']) ∧
      IsStringRun '"' requoted ∧ stringParts requoted = stringParts run := by
  rcases isQuote_iff.mp hquote with rfl | rfl
  · exact ⟨requote run, doubleQuoted_single run, hrun.requote, stringParts_requote hrun⟩
  · exact ⟨run, doubleQuoted_double, hrun, rfl⟩

/-- A string literal that is broken at a newline still is so between double quotes. -/
theorem exists_doubleQuoted_of_newline (hquote : isQuote quote) (hrun : IsStringRun quote run)
    (after : List Char) :
    ∃ requoted after', doubleQuoted (quote :: (run ++ '\n' :: (after ++ [quote]))) =
      '"' :: (requoted ++ '\n' :: after') ∧ IsStringRun '"' requoted := by
  rcases isQuote_iff.mp hquote with rfl | rfl
  · refine ⟨requote run, requote after ++ ['"'], ?_, hrun.requote⟩
    have hinner : run ++ '\n' :: (after ++ ['\'']) = (run ++ '\n' :: after) ++ ['\''] := by simp
    rw [hinner, doubleQuoted_single, requote_append hrun, requote_cons (by decide), if_neg (by decide),
      List.append_assoc, List.cons_append]
  · exact ⟨run, after ++ ['"'], doubleQuoted_double, hrun⟩

/-! ## Literals that are broken -/

theorem infix_cons_iff_of_head (hhead : character = '\r' → body.head? ≠ some '\n') :
    "\r\n".toList <:+: character :: body ↔ "\r\n".toList <:+: body := by
  rw [List.infix_cons_iff, or_iff_right]
  rintro ⟨rest, htext⟩
  obtain ⟨rfl, rfl⟩ := List.cons.inj htext
  exact hhead rfl rfl

theorem IsLiteralBody.exists_inner (hbody : IsLiteralBody quote body) :
    ∃ inner, body = inner ++ [quote] := by
  induction hbody with
  | close => exact ⟨[], rfl⟩
  | escape _ ih =>
    obtain ⟨inner, rfl⟩ := ih
    exact ⟨_ :: _ :: inner, rfl⟩
  | continuation _ ih =>
    obtain ⟨inner, rfl⟩ := ih
    exact ⟨_ :: _ :: _ :: inner, rfl⟩
  | plain _ _ _ _ ih =>
    obtain ⟨inner, rfl⟩ := ih
    exact ⟨_ :: inner, rfl⟩

theorem IsLiteralBody.head?_ne_newline (hquote : isQuote quote) (hbody : IsLiteralBody quote body) :
    body.head? ≠ some '\n' := by
  cases hbody with
  | close =>
    rintro ⟨⟩
    exact absurd hquote (by decide)
  | escape => simp
  | continuation => simp
  | plain _ _ hbreak => simpa using hbreak.1

/-- The reader of strings goes over a literal to its quote, or to the newline of the first line break that
is made of two characters. -/
theorem IsLiteralBody.exists_run (hquote : isQuote quote) (hbody : IsLiteralBody quote body) :
    (∃ run, body = run ++ [quote] ∧ IsStringRun quote run ∧ ¬ "\r\n".toList <:+: body) ∨
      ∃ run after, body = run ++ '\n' :: (after ++ [quote]) ∧ IsStringRun quote run ∧
        "\r\n".toList <:+: body := by
  induction hbody with
  | close =>
    refine .inl ⟨[], rfl, .nil, fun hbreak => ?_⟩
    exact absurd hbreak.length_le (by simp)
  | @escape escaped body hbody ih =>
    have hhead := hbody.head?_ne_newline hquote
    rw [infix_cons_iff_of_head (by simp), infix_cons_iff_of_head fun _ => hhead]
    rcases ih with ⟨run, rfl, hrun, hbreak⟩ | ⟨run, after, rfl, hrun, hbreak⟩
    · exact .inl ⟨_, rfl, hrun.escape, hbreak⟩
    · exact .inr ⟨_, after, rfl, hrun.escape, hbreak⟩
  | @continuation body hbody ih =>
    obtain ⟨inner, rfl⟩ := hbody.exists_inner
    exact .inr ⟨['\\', '\r'], inner, rfl, .escape .nil, ⟨['\\'], inner ++ [quote], rfl⟩⟩
  | @plain character body hescape hother hbreak hbody ih =>
    rw [infix_cons_iff_of_head fun hreturn => absurd hreturn hbreak.2]
    rcases ih with ⟨run, rfl, hrun, hbreaks⟩ | ⟨run, after, rfl, hrun, hbreaks⟩
    · exact .inl ⟨_, rfl, hrun.plain hescape hother hbreak.1, hbreaks⟩
    · exact .inr ⟨_, after, rfl, hrun.plain hescape hother hbreak.1, hbreaks⟩

/-! ## Statements that begin with a literal -/

theorem findStatementEnd_zero (text : List Char) : findStatementEnd text 0 = statementLength text := by
  simp [findStatementEnd]

/-- In front of a semicolon, the literal of an initial value is the whole statement. -/
theorem findStatementEnd_of_initialLiteral {value : List Char} (hvalue : InitialLiteral value)
    (after : List Char) : findStatementEnd (value ++ ';' :: after) 0 = value.length := by
  rw [findStatementEnd_zero, hvalue.statementLength_append,
    statementLength_of_endsStatement (by simp [endsStatement]), Nat.add_zero]

theorem lineLength_lt_of_mem {line : List Char} (hnewline : '\n' ∈ line) (after : List Char) :
    lineLength (line ++ after) < line.length := by
  induction line with
  | nil => simp at hnewline
  | cons first line ih =>
    by_cases hfirst : first = '\n'
    · simp [lineLength, hfirst]
    · have hmem : '\n' ∈ line := by
        rw [List.mem_cons] at hnewline
        exact hnewline.resolve_left (Ne.symm hfirst)
      simpa [lineLength, hfirst] using ih hmem

/-- A statement that begins with a broken string literal ends with its line, inside the literal. -/
theorem findStatementEnd_lt_of_broken {after : List Char} (hrun : IsStringRun '"' run) (text : List Char) :
    findStatementEnd ('"' :: (run ++ '\n' :: after) ++ text) 0 <
      ('"' :: (run ++ '\n' :: after)).length := by
  have hopening : opening ('"' :: (run ++ '\n' :: (after ++ text))) = .unterminated := by
    rw [opening, hrun.stringLength_append, stringLength_cons (by decide), if_neg (by decide), if_pos rfl]
    rfl
  have hlength : statementLength ('"' :: (run ++ '\n' :: after) ++ text) =
      lineLength ('"' :: (run ++ '\n' :: after) ++ text) := by
    rw [List.cons_append, List.append_assoc, List.cons_append, statementLength, hopening,
      if_neg (by simp [startsComment])]
  rw [findStatementEnd_zero, hlength]
  exact lineLength_lt_of_mem (by simp) text

end

/-! ## Initial values -/

section

variable {source : Source} {node : Node}

theorem initialValue_of_string (hkind : node.kind = .string) :
    initialValue source node = doubleQuoted (source.nodeText node) := by
  simp only [initialValue, hkind]

/-- What is no string becomes a literal that is closed. -/
theorem initialLiteral_initialValue (hnode : IsLiteralNode source node) (hkind : node.kind ≠ .string) :
    InitialLiteral (initialValue source node) := by
  cases hnodeKind : node.kind with
  | string => exact absurd hnodeKind hkind
  | trueLiteral =>
    simp only [initialValue, hnodeKind, hnode.trueLiteral hnodeKind]
    exact .word (by decide) (by decide)
  | falseLiteral =>
    simp only [initialValue, hnodeKind, hnode.falseLiteral hnodeKind]
    exact .word (by decide) (by decide)
  | number =>
    simp only [initialValue, hnodeKind]
    exact .word (hnode.number hnodeKind).1 (hnode.number hnodeKind).2
  | array =>
    simp only [initialValue, hnodeKind]
    exact .array
  | object =>
    simp only [initialValue, hnodeKind]
    exact .object
  | _ =>
    simp only [initialValue, hnodeKind]
    exact .word (by decide) (by decide)

/-- The literal of an initial value is closed, unless it is a string in which a line is continued over a
line break of two characters. A string that is accepted stays one with the same parts between double
quotes. -/
theorem initialValue_closed_and_faithful (source : Source) (node : Node) :
    (IsLiteralNode source node → ∀ after,
      findStatementEnd (initialValue source node ++ ';' :: after) 0 = (initialValue source node).length ↔
        ¬ (node.kind = .string ∧ "\r\n".toList <:+: source.nodeText node)) ∧
    ∀ quote body, node.kind = .string → isQuote quote → source.nodeText node = quote :: body →
      stringLength quote body = some body.length →
      ∃ requoted, initialValue source node = '"' :: requoted ∧
        stringLength '"' requoted = some requoted.length ∧
        stringParts requoted.dropLast = stringParts body.dropLast := by
  constructor
  · intro hnode after
    by_cases hkind : node.kind = .string
    · obtain ⟨quote, body, hquote, htext, hbody⟩ := hnode.string hkind
      have hhead : quote = '\r' → body.head? ≠ some '\n' := fun _ => hbody.head?_ne_newline hquote
      rw [initialValue_of_string hkind, htext, infix_cons_iff_of_head hhead]
      -- the reader of strings comes to the quote, or stops at a newline in front of it
      rcases hbody.exists_run hquote with ⟨run, rfl, hrun, hbreak⟩ | ⟨run, rest, rfl, hrun, hbreak⟩
      · obtain ⟨requoted, hvalue, hrequoted, -⟩ := exists_doubleQuoted hquote hrun
        have hliteral := InitialLiteral.string (hrequoted.stringLength_close (by decide))
        rw [hvalue, findStatementEnd_of_initialLiteral hliteral]
        exact iff_of_true rfl fun hbroken => hbreak hbroken.2
      · obtain ⟨requoted, rest', hvalue, hrequoted⟩ := exists_doubleQuoted_of_newline hquote hrun rest
        rw [hvalue]
        exact iff_of_false (findStatementEnd_lt_of_broken hrequoted _).ne fun hnot => hnot ⟨hkind, hbreak⟩
    · rw [findStatementEnd_of_initialLiteral (initialLiteral_initialValue hnode hkind)]
      simp [hkind]
  · intro quote body hkind hquote htext hlength
    obtain ⟨run, rfl, hrun⟩ := exists_run_of_stringLength hlength
    obtain ⟨requoted, hvalue, hrequoted, hparts⟩ := exists_doubleQuoted hquote hrun
    refine ⟨requoted ++ ['"'], ?_, hrequoted.stringLength_close (by decide), ?_⟩
    · rw [initialValue_of_string hkind, htext, hvalue]
    · rwa [List.dropLast_concat, List.dropLast_concat]

end

/-- A string literal that is the whole source. -/
def wholeString (text : List Char) : Node :=
  { type := "string", stop := { octet := (encode text).length } }

theorem nodeText_wholeString (text : List Char) :
    (Source.ofText text).nodeText (wholeString text) = text := by
  have hslice : (Source.ofText text).slice 0 (encode text).length = encode text := by
    rw [Source.slice, List.drop_zero]
    exact List.take_length
  have hdecode : (Source.ofText text).nodeText? (wholeString text) = .ok text :=
    decode_eq_ok.mpr hslice.symm
  rw [Source.nodeText, hdecode]
  rfl

theorem isLiteralNode_wholeString {quote : Char} {body : List Char} (hquote : isQuote quote)
    (hbody : IsLiteralBody quote body) :
    IsLiteralNode (.ofText (quote :: body)) (wholeString (quote :: body)) where
  trueLiteral hkind := Kind.noConfusion hkind
  falseLiteral hkind := Kind.noConfusion hkind
  number hkind := Kind.noConfusion hkind
  string _ := ⟨quote, body, hquote, nodeText_wholeString _, hbody⟩

/-- A string in single quotes, one of which is escaped, that holds a double quote. -/
theorem initialValue_closed_and_faithful_mixedQuotes :
    initialValue (.ofText "'a\\'\"'".toList) (wholeString "'a\\'\"'".toList) = "\"a'\\\"\"".toList ∧
      (∀ after, findStatementEnd ("\"a'\\\"\"".toList ++ ';' :: after) 0 = 6) ∧
      stringParts "a'\\\"".toList = stringParts "a\\'\"".toList := by
  have hvalue : initialValue (.ofText "'a\\'\"'".toList) (wholeString "'a\\'\"'".toList) =
      "\"a'\\\"\"".toList := by
    rw [initialValue_of_string rfl, nodeText_wholeString]
    rfl
  have hbody : IsLiteralBody '\'' "a\\'\"'".toList :=
    .plain (by decide) (by decide) (by decide)
      (.escape (.plain (by decide) (by decide) (by decide) .close))
  obtain ⟨hclosed, hfaithful⟩ := initialValue_closed_and_faithful (.ofText "'a\\'\"'".toList)
    (wholeString "'a\\'\"'".toList)
  rw [hvalue] at hclosed hfaithful
  refine ⟨hvalue, fun after => ?_, ?_⟩
  · refine (hclosed (isLiteralNode_wholeString rfl hbody) after).mpr ?_
    rw [nodeText_wholeString]
    decide
  · obtain ⟨requoted, htext, -, hparts⟩ := hfaithful '\'' "a\\'\"'".toList rfl rfl
      (nodeText_wholeString _) rfl
    obtain rfl := (List.cons.inj htext).2
    exact hparts

/-- The line goes on behind a line break of two characters. The statement ends in front of the second. -/
theorem initialValue_not_closed :
    IsLiteralNode (.ofText "'a\\\r\nb'".toList) (wholeString "'a\\\r\nb'".toList) ∧
      initialValue (.ofText "'a\\\r\nb'".toList) (wholeString "'a\\\r\nb'".toList) = "\"a\\\r\nb\"".toList ∧
      findStatementEnd ("\"a\\\r\nb\"".toList ++ ";".toList) 0 = 4 := by
  refine ⟨?_, ?_, ?_⟩
  · exact isLiteralNode_wholeString rfl (.plain (by decide) (by decide) (by decide)
      (.continuation (.plain (by decide) (by decide) (by decide) .close)))
  · rw [initialValue_of_string rfl, nodeText_wholeString]
    rfl
  · cbv

end PageGraft.Component
