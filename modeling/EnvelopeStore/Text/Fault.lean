import EnvelopeStore.Text.Basic

/-!
# Encoding faults

Why a text has no bytes in an encoding, and why bytes are no text in one, with the wording of each.
-/

namespace EnvelopeStore.Text

/-- A run of surrogates that an encoding of characters cannot write. -/
structure EncodeFault where
  first : CodePoint
  position : Nat
  count : Nat
deriving DecidableEq

namespace EncodeFault

def find? (t : Text) : Option EncodeFault :=
  match t.dropWhile (fun c => !c.isSurrogate) with
  | [] => none
  | c :: rest => some {
      first := c
      position := (t.takeWhile (fun c => !c.isSurrogate)).length
      count := ((c :: rest).takeWhile (fun c => c.isSurrogate)).length }

def message (f : EncodeFault) : Text :=
  if f.count = 1 then
    "'utf-8' codec can't encode character '\\u" ++ hex 4 f.first.val ++ "' in position " ++
      ofNat f.position ++ ": surrogates not allowed"
  else
    "'utf-8' codec can't encode characters in position " ++ ofNat f.position ++ "-" ++
      ofNat (f.position + f.count - 1) ++ ": surrogates not allowed"

end EncodeFault

/-- The encodings in which a document may arrive. -/
inductive Encoding
  | utf8
  | utf16le
  | utf16be
  | utf32le
  | utf32be
deriving DecidableEq

def Encoding.name : Encoding → Text
  | .utf8 => "utf-8"
  | .utf16le => "utf-16-le"
  | .utf16be => "utf-16-be"
  | .utf32le => "utf-32-le"
  | .utf32be => "utf-32-be"

/-- What is wrong with the bytes of a character. -/
inductive DecodeCause
  | invalidStart
  | invalidContinuation
  | unexpectedEnd
  | truncated
  | outOfRange
deriving DecidableEq

def DecodeCause.message : DecodeCause → Text
  | .invalidStart => "invalid start byte"
  | .invalidContinuation => "invalid continuation byte"
  | .unexpectedEnd => "unexpected end of data"
  | .truncated => "truncated data"
  | .outOfRange => "code point not in range(0x110000)"

/-- Bytes that are no text. -/
structure DecodeFault where
  encoding : Encoding
  position : Nat
  first : UInt8
  count : Nat
  cause : DecodeCause
deriving DecidableEq

def DecodeFault.message (f : DecodeFault) : Text :=
  if f.count = 1 then
    "'" ++ f.encoding.name ++ "' codec can't decode byte 0x" ++ hex 2 f.first.toNat ++
      " in position " ++ ofNat f.position ++ ": " ++ f.cause.message
  else
    "'" ++ f.encoding.name ++ "' codec can't decode bytes in position " ++ ofNat f.position ++
      "-" ++ ofNat (f.position + f.count - 1) ++ ": " ++ f.cause.message

end EnvelopeStore.Text
