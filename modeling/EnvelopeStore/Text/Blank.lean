import EnvelopeStore.Text.Basic

/-!
# Blank characters

The characters that are stripped from the ends of a text. The separators U+001C to U+001F are blank,
yet they are not passed over around a number.
-/

namespace EnvelopeStore.Text

/-- The characters with the Unicode property White_Space. -/
def isWhiteSpace (c : CodePoint) : Bool :=
  let n := c.val
  (9 ≤ n && n ≤ 13) || n == 0x20 || n == 0x85 || n == 0xA0 || n == 0x1680 ||
    (0x2000 ≤ n && n ≤ 0x200A) || n == 0x2028 || n == 0x2029 || n == 0x202F || n == 0x205F ||
    n == 0x3000

/-- White space and the four information separators. -/
def isBlank (c : CodePoint) : Bool := isWhiteSpace c || (0x1C ≤ c.val && c.val ≤ 0x1F)

def isAsciiSpace (c : CodePoint) : Bool := (9 ≤ c.val && c.val ≤ 13) || c.val == 0x20

end EnvelopeStore.Text
