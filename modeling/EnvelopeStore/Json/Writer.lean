import EnvelopeStore.Binary64.Shortest
import EnvelopeStore.Value.Basic

/-!
# Writing documents

The JSON text of a value: one blank after each comma and colon, fields in their order, and
printable ASCII only, so that every other character is escaped, by the numbers of its UTF-16 units
if it has no escape of its own.
-/

namespace EnvelopeStore.Json

/-- An escape by number. -/
def unicodeEscape (n : Nat) : Text := "\\u" ++ Text.hex 4 n

def escapeChar (c : CodePoint) : Text :=
  if c = '"' then "\\\""
  else if c = '\\' then "\\\\"
  else if c = '\n' then "\\n"
  else if c = '\r' then "\\r"
  else if c = '\t' then "\\t"
  else if c.val = 0x08 then "\\b"
  else if c.val = 0x0C then "\\f"
  else if 0x20 ≤ c.val ∧ c.val < 0x7F then [c]
  else if c.val < 0x10000 then unicodeEscape c.val
  else
    unicodeEscape (0xD800 + (c.val - 0x10000) / 0x400) ++
      unicodeEscape (0xDC00 + (c.val - 0x10000) % 0x400)

def writeText (t : Text) : Text := "\"" ++ t.flatMap escapeChar ++ "\""

mutual

/-- The document of a value. Bytes have none and leave nothing; `unwritable?` tells them apart. -/
def write : Value → Text
  | .null => "null"
  | .bool b => if b then "true" else "false"
  | .int n => Text.ofInt n
  | .float x => Binary64.Layout.document.text x
  | .text t => writeText t
  | .bytes _ => []
  | .buffer _ => []
  | .list items => "[" ++ Text.join ", " (writeItems items) ++ "]"
  | .object fields => "\x7b" ++ Text.join ", " (writeFields fields) ++ "\x7d"

def writeItems : List Value → List Text
  | [] => []
  | v :: rest => write v :: writeItems rest

def writeFields : List (Text × Value) → List Text
  | [] => []
  | (name, v) :: rest => (writeText name ++ ": " ++ write v) :: writeFields rest

end

mutual

/-- The kind of the first part of a value that no document can hold. -/
def unwritable? : Value → Option Text
  | .bytes b => some (Value.kind (.bytes b))
  | .buffer b => some (Value.kind (.buffer b))
  | .list items => unwritableItem? items
  | .object fields => unwritableField? fields
  | _ => none

def unwritableItem? : List Value → Option Text
  | [] => none
  | v :: rest => (unwritable? v).or (unwritableItem? rest)

def unwritableField? : List (Text × Value) → Option Text
  | [] => none
  | (_, v) :: rest => (unwritable? v).or (unwritableField? rest)

end

end EnvelopeStore.Json
