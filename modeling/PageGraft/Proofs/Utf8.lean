import Mathlib
import PageGraft.Text.Utf8

/-!
# Decoding and encoding

The octets of a text are read back as the text, and octets that can be read are the octets of what was
read: `decode_eq_ok` says both. The octets of one character are a first octet that `leadOctet` knows and
the ones that `continuation` reads after it (`exists_lead`), and no others are read (`encode_of_lead`).
In front of the first octets that cannot be read there are those of a text, which is what a reader gets
before the error (`ofOctets_cases`).
-/

namespace PageGraft.Text

/-! ## Octets of one character -/

/-- The first octets of characters, by the number of octets after them. The bounds of the second octet
leave out what a shorter sequence encodes, the surrogates, and what lies behind the last character. -/
theorem leadOctet_eq_some {octet further bits least greatest : Nat} :
    leadOctet octet = some (further, bits, least, greatest) ↔
      octet < 0x80 ∧ further = 0 ∧ bits = octet ∧ least = 0 ∧ greatest = 0 ∨
      0xC2 ≤ octet ∧ octet < 0xE0 ∧ further = 1 ∧ bits = octet - 0xC0 ∧ least = 0x80 ∧
        greatest = 0xBF ∨
      0xE0 ≤ octet ∧ octet < 0xF0 ∧ further = 2 ∧ bits = octet - 0xE0 ∧
        (octet = 0xE0 ∧ least = 0xA0 ∨ octet ≠ 0xE0 ∧ least = 0x80) ∧
        (octet = 0xED ∧ greatest = 0x9F ∨ octet ≠ 0xED ∧ greatest = 0xBF) ∨
      0xF0 ≤ octet ∧ octet ≤ 0xF4 ∧ further = 3 ∧ bits = octet - 0xF0 ∧
        (octet = 0xF0 ∧ least = 0x90 ∨ octet ≠ 0xF0 ∧ least = 0x80) ∧
        (octet = 0xF4 ∧ greatest = 0x8F ∨ octet ≠ 0xF4 ∧ greatest = 0xBF) := by
  constructor
  · fun_cases leadOctet octet <;>
      simp only [Option.some.injEq, Prod.mk.injEq, reduceCtorEq, false_imp_iff] <;>
      rintro ⟨rfl, rfl, rfl, rfl⟩
    · exact .inl ⟨by assumption, rfl, rfl, rfl, rfl⟩
    · exact .inr (.inl ⟨by omega, by assumption, rfl, rfl, rfl, rfl⟩)
    · rename_i hE0
      exact .inr (.inr (.inl ⟨by omega, by omega, rfl, by omega, .inl ⟨hE0, rfl⟩, .inr ⟨by omega, rfl⟩⟩))
    · rename_i hE0 hED
      exact .inr (.inr (.inl ⟨by omega, by omega, rfl, by omega, .inr ⟨hE0, rfl⟩, .inl ⟨hED, rfl⟩⟩))
    · rename_i hE0 hED hless
      exact .inr (.inr (.inl ⟨by omega, hless, rfl, rfl, .inr ⟨hE0, rfl⟩, .inr ⟨hED, rfl⟩⟩))
    · rename_i hF0
      exact .inr (.inr (.inr ⟨by omega, by omega, rfl, by omega, .inl ⟨hF0, rfl⟩, .inr ⟨by omega, rfl⟩⟩))
    · rename_i hF0 hless
      exact .inr (.inr (.inr ⟨by omega, by omega, rfl, rfl, .inr ⟨hF0, rfl⟩, .inr ⟨by omega, rfl⟩⟩))
    · rename_i hF0 _ hF4
      exact .inr (.inr (.inr ⟨by omega, by omega, rfl, by omega, .inr ⟨hF0, rfl⟩, .inl ⟨hF4, rfl⟩⟩))
  · intro hlead
    unfold leadOctet
    rcases hlead with hlead | hlead | hlead | hlead
    · obtain ⟨hone, rfl, rfl, rfl, rfl⟩ := hlead
      exact if_pos hone
    · obtain ⟨htwo, hless, rfl, hbits, rfl, rfl⟩ := hlead
      rw [hbits, if_neg (by omega), if_neg (by omega), if_pos hless]
    · obtain ⟨hthree, hless, rfl, hbits, hleast, hgreatest⟩ := hlead
      rw [hbits, if_neg (by omega), if_neg (by omega), if_neg (by omega)]
      rcases hleast with ⟨rfl, rfl⟩ | ⟨hE0, rfl⟩ <;> rcases hgreatest with ⟨hED, rfl⟩ | ⟨hED, rfl⟩
      · exact absurd hED (by decide)
      · rfl
      · rw [if_neg hE0, if_pos hED, hED]
      · rw [if_neg hE0, if_neg hED, if_pos hless]
    · obtain ⟨hfour, hless, rfl, hbits, hleast, hgreatest⟩ := hlead
      rw [hbits, if_neg (by omega), if_neg (by omega), if_neg (by omega), if_neg (by omega),
        if_neg (by omega), if_neg (by omega)]
      rcases hleast with ⟨rfl, rfl⟩ | ⟨hF0, rfl⟩ <;> rcases hgreatest with ⟨hF4, rfl⟩ | ⟨hF4, rfl⟩
      · exact absurd hF4 (by decide)
      · rfl
      · rw [if_neg hF0, if_neg (by omega), if_pos hF4, hF4]
      · rw [if_neg hF0, if_pos (by omega)]

section

variable {further bits least greatest code : Nat} {octet : UInt8} {rest : List UInt8}

@[simp]
theorem continuation_zero : continuation 0 bits least greatest rest = .ok bits := by
  cases rest <;> rfl

@[simp]
theorem continuation_nil : continuation (further + 1) bits least greatest [] ≠ .ok code := by
  nofun

@[simp]
theorem continuation_cons :
    continuation (further + 1) bits least greatest (octet :: rest) = .ok code ↔
      least ≤ octet.toNat ∧ octet.toNat ≤ greatest ∧
        continuation further (bits * 64 + (octet.toNat - 0x80)) 0x80 0xBF rest = .ok code := by
  rw [continuation, ← and_assoc]
  split
  · rename_i hbounds
    rw [and_iff_right hbounds]
    split <;> simp_all
  · rename_i hbounds
    simp [hbounds]

end

section

variable {character : Char}

theorem toNat_ofNat_of_valid (code : Nat) (hvalid : code.isValidChar) :
    (Char.ofNat code).val.toNat = code := by
  simp only [Char.ofNat, dif_pos hvalid]
  rfl

theorem encode_one (hmost : character.val.toNat ≤ 0x7F) :
    String.utf8EncodeChar character = [.ofNat character.val.toNat] :=
  if_pos hmost

theorem encode_two (hleast : 0x7F < character.val.toNat) (hmost : character.val.toNat ≤ 0x7FF) :
    String.utf8EncodeChar character =
      [.ofNat (character.val.toNat / 64 % 0x20 + 0xC0), .ofNat (character.val.toNat % 0x40 + 0x80)] :=
  (if_neg (by omega)).trans (if_pos hmost)

theorem encode_three (hleast : 0x7FF < character.val.toNat) (hmost : character.val.toNat ≤ 0xFFFF) :
    String.utf8EncodeChar character =
      [.ofNat (character.val.toNat / 4096 % 0x10 + 0xE0),
        .ofNat (character.val.toNat / 64 % 0x40 + 0x80), .ofNat (character.val.toNat % 0x40 + 0x80)] :=
  (if_neg (by omega)).trans ((if_neg (by omega)).trans (if_pos hmost))

theorem encode_four (hleast : 0xFFFF < character.val.toNat) :
    String.utf8EncodeChar character =
      [.ofNat (character.val.toNat / 262144 % 0x08 + 0xF0),
        .ofNat (character.val.toNat / 4096 % 0x40 + 0x80),
        .ofNat (character.val.toNat / 64 % 0x40 + 0x80), .ofNat (character.val.toNat % 0x40 + 0x80)] :=
  (if_neg (by omega)).trans ((if_neg (by omega)).trans (if_neg (by omega)))

/-- An octet below 0x80 stands for the character of its number, and no other character has it. -/
theorem ascii_mem_utf8EncodeChar {octet : UInt8} (hascii : octet.toNat < 0x80) :
    octet ∈ String.utf8EncodeChar character ↔ character.val.toNat = octet.toNat := by
  by_cases hone : character.val.toNat ≤ 0x7F
  · rw [encode_one hone, List.mem_singleton, ← UInt8.toNat_inj, UInt8.toNat_ofNat']
    omega
  by_cases htwo : character.val.toNat ≤ 0x7FF
  · rw [encode_two (by omega) htwo]
    simp only [List.mem_cons, List.not_mem_nil, or_false, ← UInt8.toNat_inj, UInt8.toNat_ofNat']
    omega
  have hvalid := character.valid
  simp only [UInt32.isValidChar, Nat.isValidChar] at hvalid
  by_cases hthree : character.val.toNat ≤ 0xFFFF
  · rw [encode_three (by omega) hthree]
    simp only [List.mem_cons, List.not_mem_nil, or_false, ← UInt8.toNat_inj, UInt8.toNat_ofNat']
    omega
  · rw [encode_four (by omega)]
    simp only [List.mem_cons, List.not_mem_nil, or_false, ← UInt8.toNat_inj, UInt8.toNat_ofNat']
    omega

/-- Of the octets of a character, one below 0x80 is that of the character itself. -/
theorem eq_ascii_of_mem {octet : UInt8} {other : Char} (hascii : other.val.toNat < 0x80)
    (hmem : octet ∈ String.utf8EncodeChar character) :
    octet = UInt8.ofNat other.val.toNat ↔ character = other := by
  have hoctet : (UInt8.ofNat other.val.toNat).toNat = other.val.toNat := by
    rw [UInt8.toNat_ofNat']
    omega
  constructor
  · rintro rfl
    rw [ascii_mem_utf8EncodeChar (by omega), hoctet, UInt32.toNat_inj, ← Char.ext_iff] at hmem
    exact hmem
  · rintro rfl
    rwa [encode_one (by omega), List.mem_singleton] at hmem

end

theorem ofNat_eq_of_toNat_eq (octet : UInt8) {value : Nat} (hvalue : value = octet.toNat) :
    UInt8.ofNat value = octet := by
  rw [hvalue, UInt8.ofNat_toNat]

/-- The octets that are read as one character are the octets of that character. -/
theorem encode_of_lead {first : UInt8} {rest : List UInt8} {further bits least greatest code : Nat}
    (hlead : leadOctet first.toNat = some (further, bits, least, greatest))
    (hread : continuation further bits least greatest rest = .ok code) :
    String.utf8EncodeChar (Char.ofNat code) ++ rest.drop further = first :: rest := by
  rcases leadOctet_eq_some.mp hlead with hlead | hlead | hlead | hlead
  · obtain ⟨hfirst, rfl, hbits, -, -⟩ := hlead
    rw [continuation_zero, Except.ok.injEq] at hread
    have hcode := toNat_ofNat_of_valid code (by unfold Nat.isValidChar; omega)
    rw [encode_one (by omega), hcode, ofNat_eq_of_toNat_eq first (by omega)]
    rfl
  · obtain ⟨hleast, hmost, rfl, hbits, hlow, hhigh⟩ := hlead
    rcases rest with _ | ⟨second, rest⟩
    · exact absurd hread continuation_nil
    · simp only [continuation_cons, continuation_zero, Except.ok.injEq] at hread
      obtain ⟨hsecond, hsecond', hread⟩ := hread
      have hcode := toNat_ofNat_of_valid code (by unfold Nat.isValidChar; omega)
      rw [encode_two (by omega) (by omega), hcode, ofNat_eq_of_toNat_eq first (by omega),
        ofNat_eq_of_toNat_eq second (by omega)]
      rfl
  · obtain ⟨hleast, hmost, rfl, hbits, hlow, hhigh⟩ := hlead
    rcases rest with _ | ⟨second, _ | ⟨third, rest⟩⟩
    · exact absurd hread continuation_nil
    · simp at hread
    · simp only [continuation_cons, continuation_zero, Except.ok.injEq] at hread
      obtain ⟨hsecond, hsecond', hthird, hthird', hread⟩ := hread
      have hcode := toNat_ofNat_of_valid code (by unfold Nat.isValidChar; omega)
      rw [encode_three (by omega) (by omega), hcode, ofNat_eq_of_toNat_eq first (by omega),
        ofNat_eq_of_toNat_eq second (by omega), ofNat_eq_of_toNat_eq third (by omega)]
      rfl
  · obtain ⟨hleast, hmost, rfl, hbits, hlow, hhigh⟩ := hlead
    rcases rest with _ | ⟨second, _ | ⟨third, _ | ⟨fourth, rest⟩⟩⟩
    · exact absurd hread continuation_nil
    · simp at hread
    · simp at hread
    · simp only [continuation_cons, continuation_zero, Except.ok.injEq] at hread
      obtain ⟨hsecond, hsecond', hthird, hthird', hfourth, hfourth', hread⟩ := hread
      have hcode := toNat_ofNat_of_valid code (by unfold Nat.isValidChar; omega)
      rw [encode_four (by omega), hcode, ofNat_eq_of_toNat_eq first (by omega),
        ofNat_eq_of_toNat_eq second (by omega), ofNat_eq_of_toNat_eq third (by omega),
        ofNat_eq_of_toNat_eq fourth (by omega)]
      rfl

/-- The octet of six bits is read, where its bounds let it pass. -/
theorem continuation_ofNat {further bits least greatest code value : Nat} {rest : List UInt8}
    (hleast : least ≤ value % 0x40 + 0x80) (hgreatest : value % 0x40 + 0x80 ≤ greatest)
    (hrest : continuation further (bits * 64 + value % 0x40) 0x80 0xBF rest = .ok code) :
    continuation (further + 1) bits least greatest (.ofNat (value % 0x40 + 0x80) :: rest) = .ok code := by
  have hoctet : (UInt8.ofNat (value % 0x40 + 0x80)).toNat = value % 0x40 + 0x80 := by
    rw [UInt8.toNat_ofNat']
    omega
  rw [continuation_cons, hoctet, Nat.add_sub_cancel]
  exact ⟨hleast, hgreatest, hrest⟩

/-- Behind the bounds of the second octet, six bits are always in bounds. -/
theorem continuation_six {further bits code value : Nat} {rest : List UInt8}
    (hrest : continuation further (bits * 64 + value % 0x40) 0x80 0xBF rest = .ok code) :
    continuation (further + 1) bits 0x80 0xBF (.ofNat (value % 0x40 + 0x80) :: rest) = .ok code :=
  continuation_ofNat (by omega) (by omega) hrest

/-- The octets of a character are read as that character. -/
theorem exists_lead (character : Char) (rest : List UInt8) :
    ∃ first tail further bits least greatest,
      String.utf8EncodeChar character = first :: tail ∧ tail.length = further ∧
        leadOctet first.toNat = some (further, bits, least, greatest) ∧
        continuation further bits least greatest (tail ++ rest) = .ok character.val.toNat := by
  have hvalid := character.valid
  simp only [UInt32.isValidChar, Nat.isValidChar] at hvalid
  by_cases hone : character.val.toNat ≤ 0x7F
  · refine ⟨_, _, 0, character.val.toNat, 0, 0, encode_one hone, rfl, ?_, continuation_zero⟩
    rw [leadOctet_eq_some, UInt8.toNat_ofNat']
    exact .inl (by omega)
  by_cases htwo : character.val.toNat ≤ 0x7FF
  · refine ⟨_, _, 1, character.val.toNat / 64, 0x80, 0xBF, encode_two (by omega) htwo, rfl, ?_,
      continuation_six ?_⟩
    · rw [leadOctet_eq_some, UInt8.toNat_ofNat']
      exact .inr (.inl (by omega))
    · rw [continuation_zero, Nat.div_add_mod']
  by_cases hthree : character.val.toNat ≤ 0xFFFF
  · have hcode : (character.val.toNat / 4096 * 64 + character.val.toNat / 64 % 64) * 64 +
        character.val.toNat % 64 = character.val.toNat := by omega
    have hfirst : (UInt8.ofNat (character.val.toNat / 4096 % 0x10 + 0xE0)).toNat =
        character.val.toNat / 4096 + 0xE0 := by
      rw [UInt8.toNat_ofNat']
      omega
    refine ⟨_, _, 2, character.val.toNat / 4096,
      if character.val.toNat / 4096 = 0 then 0xA0 else 0x80,
      if character.val.toNat / 4096 = 0xD then 0x9F else 0xBF,
      encode_three (by omega) hthree, rfl, ?_, continuation_ofNat ?_ ?_ (continuation_six ?_)⟩
    · rw [leadOctet_eq_some, hfirst]
      refine .inr (.inr (.inl ⟨by omega, by omega, rfl, by omega, ?_, ?_⟩)) <;> split_ifs <;> omega
    · split_ifs <;> omega
    · split_ifs <;> omega
    · rw [continuation_zero, hcode]
  · have hcode : ((character.val.toNat / 262144 * 64 + character.val.toNat / 4096 % 64) * 64 +
        character.val.toNat / 64 % 64) * 64 + character.val.toNat % 64 = character.val.toNat := by omega
    have hfirst : (UInt8.ofNat (character.val.toNat / 262144 % 0x08 + 0xF0)).toNat =
        character.val.toNat / 262144 + 0xF0 := by
      rw [UInt8.toNat_ofNat']
      omega
    refine ⟨_, _, 3, character.val.toNat / 262144,
      if character.val.toNat / 262144 = 0 then 0x90 else 0x80,
      if character.val.toNat / 262144 = 4 then 0x8F else 0xBF,
      encode_four (by omega), rfl, ?_,
      continuation_ofNat ?_ ?_ (continuation_six (continuation_six ?_))⟩
    · rw [leadOctet_eq_some, hfirst]
      refine .inr (.inr (.inr ⟨by omega, by omega, rfl, by omega, ?_, ?_⟩)) <;> split_ifs <;> omega
    · split_ifs <;> omega
    · split_ifs <;> omega
    · rw [continuation_zero, hcode]

/-! ## Whole texts -/

@[simp]
theorem encode_nil : encode [] = [] := rfl

@[simp]
theorem encode_cons {character : Char} {text : List Char} :
    encode (character :: text) = String.utf8EncodeChar character ++ encode text := rfl

@[simp]
theorem encode_append {text other : List Char} : encode (text ++ other) = encode text ++ encode other :=
  List.flatMap_append

/-- A character below 0x80 is in a text exactly if its octet is among those of the text. -/
theorem ascii_mem_encode {character : Char} {text : List Char} (hascii : character.val.toNat < 0x80) :
    UInt8.ofNat character.val.toNat ∈ encode text ↔ character ∈ text := by
  constructor
  · intro hmem
    obtain ⟨first, hfirst, hoctet⟩ := List.mem_flatMap.mp hmem
    rwa [(eq_ascii_of_mem hascii hoctet).mp rfl] at hfirst
  · intro hmem
    refine List.mem_flatMap.mpr ⟨character, hmem, ?_⟩
    rw [encode_one (by omega)]
    exact List.mem_singleton_self _

theorem decodeFrom_encode {position : Nat} {text : List Char} :
    decodeFrom position (encode text) = .ok text := by
  induction text generalizing position with
  | nil => rw [encode_nil, decodeFrom]
  | cons character text ih =>
    obtain ⟨first, tail, further, bits, least, greatest, hoctets, hlength, hlead, hread⟩ :=
      exists_lead character (encode text)
    rw [encode_cons, hoctets, List.cons_append, decodeFrom, hlead]
    dsimp only
    rw [hread]
    dsimp only
    rw [List.drop_left' hlength, ih, show character.val.toNat = character.toNat from rfl,
      Char.ofNat_toNat]
    rfl

theorem encode_of_decodeFrom {position : Nat} {octets : List UInt8} {text : List Char}
    (hdecode : decodeFrom position octets = .ok text) : encode text = octets := by
  fun_induction decodeFrom position octets generalizing text with
  | case1 =>
    obtain rfl := Except.ok.inj hdecode
    rfl
  | case2 => exact absurd hdecode (by nofun)
  | case3 => exact absurd hdecode (by nofun)
  | case4 position first rest further bits least greatest hlead code hread ih =>
    cases hothers : decodeFrom (position + further + 1) (rest.drop further) with
    | error fault =>
      rw [hothers] at hdecode
      exact absurd hdecode (by nofun)
    | ok others =>
      rw [hothers] at hdecode
      obtain rfl := Except.ok.inj hdecode
      rw [encode_cons, ih hothers, encode_of_lead hlead hread]

/-- Octets are read as a text exactly if they are the octets of that text. -/
theorem decode_eq_ok {octets : List UInt8} {text : List Char} :
    decode octets = .ok text ↔ encode text = octets := by
  refine ⟨encode_of_decodeFrom, ?_⟩
  rintro rfl
  exact decodeFrom_encode

/-! ## Texts that break off -/

theorem le_length_of_continuation {further bits least greatest code : Nat} {rest : List UInt8}
    (hread : continuation further bits least greatest rest = .ok code) : further ≤ rest.length := by
  induction further generalizing bits least greatest rest with
  | zero => exact Nat.zero_le _
  | succ further ih =>
    cases rest with
    | nil => exact absurd hread continuation_nil
    | cons octet rest => exact Nat.succ_le_succ (ih (continuation_cons.mp hread).2.2)

/-- The octets in front of a fault are those of a text. -/
theorem encode_front_of_decodeFrom {position : Nat} {octets : List UInt8} {error : DecodeError}
    (hdecode : decodeFrom position octets = .error error) :
    position ≤ error.position ∧ ∃ front, encode front = octets.take (error.position - position) := by
  fun_induction decodeFrom position octets with
  | case1 => exact absurd hdecode nofun
  | case2 =>
    obtain rfl := Except.error.inj hdecode
    exact ⟨Nat.le_refl _, [], by simp⟩
  | case3 =>
    obtain rfl := Except.error.inj hdecode
    exact ⟨Nat.le_refl _, [], by simp⟩
  | case4 position first rest further bits least greatest hlead code hread ih =>
    cases hothers : decodeFrom (position + further + 1) (rest.drop further) with
    | ok others =>
      rw [hothers] at hdecode
      exact absurd hdecode nofun
    | error other =>
      rw [hothers] at hdecode
      obtain rfl := Except.error.inj hdecode
      obtain ⟨hle, front, hfront⟩ := ih hothers
      have hoctets := encode_of_lead hlead hread
      have hlength : (String.utf8EncodeChar (Char.ofNat code)).length = further + 1 := by
        have hrest := le_length_of_continuation hread
        have htotal := congrArg List.length hoctets
        simp only [List.length_append, List.length_drop, List.length_cons] at htotal
        omega
      have hposition : other.position - position =
          (String.utf8EncodeChar (Char.ofNat code)).length +
            (other.position - (position + further + 1)) := by
        omega
      refine ⟨by omega, Char.ofNat code :: front, ?_⟩
      rw [encode_cons, hfront, ← hoctets, hposition, List.take_length_add_append]

/-- Octets give their text to a reader, or else the text in front of what is none. -/
theorem ofOctets_cases (octets : List UInt8) :
    (∃ text, encode text = octets ∧
      TextStream.ofOctets octets = { text := universalNewlines text }) ∨
    (∀ text, encode text ≠ octets) ∧ ∃ front error, encode front = octets.take error.position ∧
      TextStream.ofOctets octets = { text := universalNewlines front, error := some error } := by
  unfold TextStream.ofOctets
  cases hdecode : decode octets with
  | ok text => exact .inl ⟨text, decode_eq_ok.mp hdecode, rfl⟩
  | error error =>
    obtain ⟨-, front, hfront⟩ := encode_front_of_decodeFrom hdecode
    refine .inr ⟨fun text htext => ?_, front, error, hfront, ?_⟩
    · rw [decode_eq_ok.mpr htext] at hdecode
      exact absurd hdecode nofun
    · have hread : decode (octets.take error.position) = .ok front := decode_eq_ok.mpr hfront
      dsimp only
      rw [hread]
      rfl

/-- A text breaks off exactly if its octets are not those of a text. -/
theorem error_ofOctets {octets : List UInt8} :
    (TextStream.ofOctets octets).error = none ↔ ∃ text, encode text = octets := by
  rcases ofOctets_cases octets with ⟨text, htext, hstream⟩ | ⟨hnone, front, error, -, hstream⟩
  · rw [hstream]
    exact iff_of_true rfl ⟨text, htext⟩
  · rw [hstream]
    exact iff_of_false nofun fun ⟨text, htext⟩ => hnone text htext

end PageGraft.Text
