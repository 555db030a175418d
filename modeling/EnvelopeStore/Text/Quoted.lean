import EnvelopeStore.Text.Printable

/-!
# Quoted text

A text between quotes, with everything escaped that would not show: the form in which messages give
a text or bytes back to the reader.
-/

namespace EnvelopeStore.Text

/-- Single quotes, unless the content holds a single quote and no double one. -/
def quoteFor (t : Text) : CodePoint :=
  if t.contains ('\'' : CodePoint) && !t.contains ('"' : CodePoint) then '"' else '\''

def escapeChar (quote c : CodePoint) : Text :=
  if c = quote ∨ c = '\\' then ['\\', c]
  else if c = '\t' then "\\t"
  else if c = '\n' then "\\n"
  else if c = '\r' then "\\r"
  else if isPrintable c then [c]
  else if c.val < 0x100 then "\\x" ++ hex 2 c.val
  else if c.val < 0x10000 then "\\u" ++ hex 4 c.val
  else "\\U" ++ hex 8 c.val

def quoted (t : Text) : Text :=
  let quote := quoteFor t
  quote :: t.flatMap (escapeChar quote) ++ [quote]

/-- A byte inside quotes of the given kind; bytes outside printable ASCII are written by number. -/
def escapeByte (quote : CodePoint) (b : UInt8) : Text :=
  let c := CodePoint.ofNat b.toNat
  if c = quote ∨ c = '\\' then ['\\', c]
  else if c = '\t' then "\\t"
  else if c = '\n' then "\\n"
  else if c = '\r' then "\\r"
  else if 0x20 ≤ c.val ∧ c.val < 0x7F then [c]
  else "\\x" ++ hex 2 c.val

def quoteForBytes (bytes : Bytes) : CodePoint :=
  quoteFor (bytes.map fun b => CodePoint.ofNat b.toNat)

def quotedBytes (bytes : Bytes) : Text :=
  let quote := quoteForBytes bytes
  ('b' : CodePoint) :: quote :: bytes.flatMap (escapeByte quote) ++ [quote]

/-- Bytes that can be changed, in quotes. A single quote among them is escaped whatever the quotes
around them; double quotes around them hold no double quote. -/
def quotedBuffer (bytes : Bytes) : Text :=
  let quote := quoteForBytes bytes
  "bytearray(b" ++ (quote :: bytes.flatMap (escapeByte '\'') ++ [quote]) ++ ")"

end EnvelopeStore.Text
