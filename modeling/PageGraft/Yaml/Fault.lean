import PageGraft.Data.Value
import PageGraft.Text.Quoted
import PageGraft.Text.Utf8

/-!
# Faults of documents

Why a document has no value, and what a loader of documents answers. Those who load documents tell
faults apart by their kinds only.
-/

namespace PageGraft.Yaml

/-- The kinds of faults. -/
inductive Fault.Kind where
  /-- The text is no document. -/
  | format
  /-- The operating system has not given the whole text. -/
  | system
  | value
  | type
  | key
  | module
  | other
deriving Repr, DecidableEq

/-- Why a document has no value: it is malformed, or something in it is written like a value that does
not exist, or else there is a fault of some kind that is told in some words. -/
inductive Fault where
  | malformed
  /-- The octets of the text go on with what is no text. -/
  | undecodable (error : Text.DecodeError)
  /-- A text that is no whole number in a base. -/
  | noInteger (base : Nat) (text : List Char)
  /-- A whole number with more digits than are read. -/
  | tooManyDigits (count : Nat)
  /-- A text that is no number. -/
  | noNumber (text : List Char)
  /-- A number without any character. -/
  | noCharacter
  /-- A word for a truth value that is none. -/
  | noTruth (word : List Char)
  /-- A date or time that the calendar or the clock does not have. -/
  | noMoment (reason : String)
  /-- A text that is not written like a date or time. -/
  | notMoment
  /-- A number that is no code point. -/
  | noCodePoint
  /-- A code point that no machine word holds. -/
  | codePointTooLarge
  /-- A number in base sixty with a place that is too large for a number. -/
  | numberTooLarge
  | told (kind : Fault.Kind) (message : String)
deriving Repr, DecidableEq

def Fault.kind : Fault → Kind
  | .malformed => .format
  | .undecodable _ | .noInteger _ _ | .tooManyDigits _ | .noNumber _ | .noMoment _ | .noCodePoint => .value
  | .noTruth _ => .key
  | .noCharacter | .notMoment | .codePointTooLarge | .numberTooLarge => .other
  | .told kind _ => kind

/-- The text of a fault. For malformed documents it is not kept. -/
def Fault.message : Fault → String
  | .malformed => "malformed document"
  | .undecodable error => error.message
  | .noInteger base text =>
    let shown := (Text.quoted (String.ofList text)).toList.take 200
    s!"invalid literal for int() with base {base}: {String.ofList shown}"
  | .tooManyDigits count =>
    "Exceeds the limit (4300 digits) for integer string conversion: " ++
      s!"value has {count} digits; use sys.set_int_max_str_digits() to increase the limit"
  | .noNumber text =>
    s!"could not convert string to float: {Text.quoted (String.ofList text)}"
  | .noCharacter => "string index out of range"
  | .noTruth word => Text.quoted (String.ofList word)
  | .noMoment reason => reason
  | .notMoment => "'NoneType' object has no attribute 'groupdict'"
  | .noCodePoint => "chr() arg not in range(0x110000)"
  | .codePointTooLarge => "Python int too large to convert to C int"
  | .numberTooLarge => "int too large to convert to float"
  | .told _ message => message

/-- Gives the plain data of documents. How much of a text a loader reads is its own affair: of a
malformed document it need not reach the end. -/
abbrev Loader := Text.TextStream → Except Fault Data.Value

/-- A reading that fails finds the document malformed. -/
instance {m : Type → Type} [Monad m] : Alternative (ExceptT Fault m) where
  failure := throw .malformed
  orElse first second := tryCatch first fun _ => second ()

end PageGraft.Yaml
