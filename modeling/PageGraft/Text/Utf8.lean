/-!
# UTF-8

Text as octets. Encoding is the core library's, character by character; decoding tells where the
first sequence that is no character begins, how long it is, and what is wrong with it. Who reads octets
as a `TextStream` meets this error only behind the text in front of it.
-/

namespace PageGraft.Text

/-- The octets of a text. -/
def encode (text : List Char) : List UInt8 :=
  text.flatMap String.utf8EncodeChar

inductive DecodeReason where
  | invalidStart
  | invalidContinuation
  | unexpectedEnd
deriving Repr, DecidableEq

def DecodeReason.message : DecodeReason → String
  | .invalidStart => "invalid start byte"
  | .invalidContinuation => "invalid continuation byte"
  | .unexpectedEnd => "unexpected end of data"

/-- The first sequence of octets that is no character. -/
structure DecodeError where
  position : Nat
  first : UInt8
  length : Nat
  reason : DecodeReason
deriving Repr, DecidableEq

def hexDigit (value : Nat) : Char :=
  (Nat.toDigits 16 value).headD '0'

def DecodeError.message (error : DecodeError) : String :=
  let place :=
    if error.length = 1 then
      let digits :=
        String.ofList [hexDigit (error.first.toNat / 16), hexDigit (error.first.toNat % 16)]
      s!"byte 0x{digits} in position {error.position}"
    else s!"bytes in position {error.position}-{error.position + error.length - 1}"
  s!"'utf-8' codec can't decode {place}: {error.reason.message}"

/-- For the first octet of a character: how many octets follow, the bits it gives to the code point,
and the bounds of the second octet. -/
def leadOctet (octet : Nat) : Option (Nat × Nat × Nat × Nat) :=
  if octet < 0x80 then some (0, octet, 0, 0)
  else if octet < 0xC2 then none
  else if octet < 0xE0 then some (1, octet - 0xC0, 0x80, 0xBF)
  else if octet = 0xE0 then some (2, 0, 0xA0, 0xBF)
  else if octet = 0xED then some (2, 0xD, 0x80, 0x9F)
  else if octet < 0xF0 then some (2, octet - 0xE0, 0x80, 0xBF)
  else if octet = 0xF0 then some (3, 0, 0x90, 0xBF)
  else if octet < 0xF4 then some (3, octet - 0xF0, 0x80, 0xBF)
  else if octet = 0xF4 then some (3, 4, 0x80, 0x8F)
  else none

/-- Reads the octets that follow the first one, given the bounds of the next of them; the others lie
between 0x80 and 0xBF. Answers the code point, or how many octets were read and why no more. -/
def continuation : Nat → Nat → Nat → Nat → List UInt8 → Except (Nat × DecodeReason) Nat
  | 0, code, _, _, _ => .ok code
  | _ + 1, _, _, _, [] => .error (0, .unexpectedEnd)
  | further + 1, code, least, greatest, octet :: rest =>
    if least ≤ octet.toNat ∧ octet.toNat ≤ greatest then
      match continuation further (code * 64 + (octet.toNat - 0x80)) 0x80 0xBF rest with
      | .ok code => .ok code
      | .error (read, reason) => .error (read + 1, reason)
    else .error (0, .invalidContinuation)

/-- Decodes octets from a position on. -/
def decodeFrom (position : Nat) : List UInt8 → Except DecodeError (List Char)
  | [] => .ok []
  | first :: rest =>
    match leadOctet first.toNat with
    | none => .error ⟨position, first, 1, .invalidStart⟩
    | some (further, bits, least, greatest) =>
      match continuation further bits least greatest rest with
      | .error (read, reason) => .error ⟨position, first, read + 1, reason⟩
      | .ok code => do
        let others ← decodeFrom (position + further + 1) (rest.drop further)
        pure (Char.ofNat code :: others)
termination_by octets => octets.length
decreasing_by simp only [List.length_drop, List.length_cons]; omega

/-- The text that octets encode. -/
def decode (octets : List UInt8) : Except DecodeError (List Char) :=
  decodeFrom 0 octets

/-- The ends of lines all written as one newline. -/
def universalNewlines : List Char → List Char
  | [] => []
  | '\r' :: '\n' :: rest => '\n' :: universalNewlines rest
  | '\r' :: rest => '\n' :: universalNewlines rest
  | character :: rest => character :: universalNewlines rest

/-- What octets give to who reads them from the front on: a text, with all ends of lines written as a
newline, and the error that breaks it off where they go on with what is no text. -/
structure TextStream where
  text : List Char
  error : Option DecodeError := none
deriving Repr, DecidableEq

def TextStream.ofOctets (octets : List UInt8) : TextStream :=
  match decode octets with
  | .ok text => { text := universalNewlines text }
  | .error error =>
    let front := (decode (octets.take error.position)).toOption.getD []
    { text := universalNewlines front, error := some error }

end PageGraft.Text
