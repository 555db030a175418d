import EnvelopeStore.Json.Reader
import EnvelopeStore.Text.Utf8
import EnvelopeStore.Text.Wide

/-!
# Documents in bytes

The encoding of a document is found from its first bytes: a byte order mark, or else the zero bytes
that the first two characters leave, since both are ASCII.
-/

namespace EnvelopeStore.Json

open Text.Wide (decode16 decode32)

/-- The byte order marks, a longer one before the one that it starts with, each with how what follows
it is read. -/
def marks : List (Bytes × (Bytes → Except Text.DecodeFault Text)) :=
  [([0x00, 0x00, 0xFE, 0xFF], decode32 .bigEndian 4),
    ([0xFF, 0xFE, 0x00, 0x00], decode32 .littleEndian 4),
    ([0xFE, 0xFF], decode16 .bigEndian 2),
    ([0xFF, 0xFE], decode16 .littleEndian 2),
    ([0xEF, 0xBB, 0xBF], Text.Utf8.decodeLenient)]

def decodeUnmarked (bytes : Bytes) : Except Text.DecodeFault Text :=
  match bytes with
  | a :: b :: c :: d :: _ =>
    if a = 0 then
      if b = 0 then decode32 .bigEndian 0 bytes else decode16 .bigEndian 0 bytes
    else if b = 0 then
      if c = 0 ∧ d = 0 then decode32 .littleEndian 0 bytes else decode16 .littleEndian 0 bytes
    else Text.Utf8.decodeLenient bytes
  | [a, b] =>
    if a = 0 then decode16 .bigEndian 0 bytes
    else if b = 0 then decode16 .littleEndian 0 bytes
    else Text.Utf8.decodeLenient bytes
  | _ => Text.Utf8.decodeLenient bytes

/-- The text of a document in bytes. -/
def decode (bytes : Bytes) : Except Text.DecodeFault Text :=
  match marks.find? fun mark => mark.1.isPrefixOf bytes with
  | some (mark, read) => read (bytes.drop mark.length)
  | none => decodeUnmarked bytes

/-- The value that a document in bytes denotes. -/
def readBytes (bytes : Bytes) : Except Fault Value :=
  match decode bytes with
  | .error fault => .error (.undecodable fault)
  | .ok t => readText t

end EnvelopeStore.Json
