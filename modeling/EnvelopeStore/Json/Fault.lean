import EnvelopeStore.Text.Fault

/-!
# Document faults

Why a text or bytes are no document, and where.
-/

namespace EnvelopeStore.Json

/-- What is wrong with a text that is no document. -/
inductive Cause
  | byteOrderMark
  | expectingValue
  | expectingName
  | expectingColon
  | expectingComma
  | unterminatedString
  | controlCharacter
  | invalidEscape
  | invalidUnicodeEscape
  | extraData
deriving DecidableEq

def Cause.message : Cause → Text
  | .byteOrderMark => "Unexpected UTF-8 BOM (decode using utf-8-sig)"
  | .expectingValue => "Expecting value"
  | .expectingName => "Expecting property name enclosed in double quotes"
  | .expectingColon => "Expecting ':' delimiter"
  | .expectingComma => "Expecting ',' delimiter"
  | .unterminatedString => "Unterminated string starting at"
  | .controlCharacter => "Invalid control character at"
  | .invalidEscape => "Invalid \\escape"
  | .invalidUnicodeEscape => "Invalid \\uXXXX escape"
  | .extraData => "Extra data"

/-- What a value is put into in a document. -/
inductive Container
  | array
  | object
deriving DecidableEq

def Container.name : Container → Text
  | .array => "array"
  | .object => "object"

/-- Why there is no document. -/
inductive Fault
  /-- The text breaks the grammar after `position` characters, at this line and column. -/
  | malformed (cause : Cause) (line column position : Nat)
  | tooManyDigits (count : Nat)
  | tooDeep (container : Container)
  | undecodable (fault : Text.DecodeFault)
deriving DecidableEq

def Fault.at (cause : Cause) (t : Text) (position : Nat) : Fault :=
  let before := t.take position
  let line := before.count (CodePoint.ofChar '\n') + 1
  let column := (before.reverse.takeWhile (· ≠ CodePoint.ofChar '\n')).length + 1
  .malformed cause line column position

def Fault.message : Fault → Text
  | .malformed cause line column position =>
    cause.message ++ ": line " ++ Text.ofNat line ++ " column " ++ Text.ofNat column ++
      " (char " ++ Text.ofNat position ++ ")"
  | .tooManyDigits count =>
    "Exceeds the limit (4300 digits) for integer string conversion: value has " ++
      Text.ofNat count ++
      " digits; use sys.set_int_max_str_digits() to increase the limit"
  | .tooDeep container =>
    "maximum recursion depth exceeded while decoding a JSON " ++ container.name ++
      " from a unicode string"
  | .undecodable fault => fault.message

end EnvelopeStore.Json
