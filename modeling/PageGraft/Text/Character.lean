import PageGraft.Text.AlphanumericTable

/-!
# Classes of characters

White space, letters and numbers, and the characters of identifiers, over all of Unicode. Each
class agrees with the core library's class of the same purpose on ASCII letters and digits.
-/

namespace PageGraft.Text

/-- White space: the separators of Unicode, the ASCII controls from TAB to CR and from FS to US,
and NEL. A zero width space or byte order mark is not white space. -/
def isSpace (character : Char) : Bool :=
  let code := character.toNat
  (9 ≤ code && code ≤ 13) || (28 ≤ code && code ≤ 32) || code == 0x85 || code == 0xA0 ||
    code == 0x1680 || (0x2000 ≤ code && code ≤ 0x200A) || code == 0x2028 || code == 0x2029 ||
    code == 0x202F || code == 0x205F || code == 0x3000

/-- A letter or a number of any script. -/
def isAlphanumeric (character : Char) : Bool :=
  character.isAlphanum ||
    (128 ≤ character.toNat &&
      alphanumericBounds.any fun (first, stop) =>
        first ≤ character.toNat && character.toNat < stop)

/-- A character of a word: a letter, a number or an underscore. -/
def isWordPart (character : Char) : Bool :=
  isAlphanumeric character || character == '_'

/-- A character of an identifier: a letter, a number, an underscore or a dollar sign. -/
def isNamePart (character : Char) : Bool :=
  isWordPart character || character == '$'

/-- A space or a tab. -/
def isBlank (character : Char) : Bool :=
  character == ' ' || character == '\t'

@[simp]
theorem isAlphanumeric_of_isAlphanum {character : Char} (hascii : character.isAlphanum) :
    isAlphanumeric character := by
  simp [isAlphanumeric, hascii]

@[simp]
theorem isNamePart_dollar : isNamePart '$' := by
  simp [isNamePart]

theorem isSpace_of_isBlank {character : Char} (hblank : isBlank character) :
    isSpace character := by
  simp only [isBlank, Bool.or_eq_true, beq_iff_eq] at hblank
  rcases hblank with rfl | rfl <;> decide

/-- White space is no ASCII letter. -/
theorem isAlpha_of_isSpace {character : Char} (hspace : isSpace character) :
    character.isAlpha = false := by
  rw [Bool.eq_false_iff]
  intro hletter
  simp only [isSpace, Bool.or_eq_true, Bool.and_eq_true, decide_eq_true_eq, beq_iff_eq] at hspace
  have hcode : (65 ≤ character.toNat ∧ character.toNat ≤ 90) ∨
      (97 ≤ character.toNat ∧ character.toNat ≤ 122) := by
    rcases Bool.or_eq_true_iff.mp hletter with hupper | hlower
    · have hbounds : 'A'.val ≤ character.val ∧ character.val ≤ 'Z'.val := of_decide_eq_true hupper
      exact .inl hbounds
    · obtain ⟨hleast, hgreatest⟩ := Bool.and_eq_true_iff.mp hlower
      have hbounds : 'a'.val ≤ character.val ∧ character.val ≤ 'z'.val :=
        ⟨of_decide_eq_true hleast, of_decide_eq_true hgreatest⟩
      exact .inr hbounds
  omega

end PageGraft.Text
