import EnvelopeStore.Text.Fault

/-!
# UTF-16 and UTF-32

Reading of units of two and of four bytes in either byte order. Surrogates pass: a high one directly
followed by a low one is one character, any other stands for itself.
-/

namespace EnvelopeStore.Text.Wide

/-- The order of the bytes in a unit. -/
inductive ByteOrder
  | littleEndian
  | bigEndian
deriving DecidableEq

def units16 (order : ByteOrder) : Bytes → List Nat × Bytes
  | a :: b :: rest =>
    let unit := match order with
      | .littleEndian => a.toNat + b.toNat * 0x100
      | .bigEndian => a.toNat * 0x100 + b.toNat
    let (units, left) := units16 order rest
    (unit :: units, left)
  | left => ([], left)

def units32 (order : ByteOrder) : Bytes → List Nat × Bytes
  | a :: b :: c :: d :: rest =>
    let unit := match order with
      | .littleEndian => a.toNat + b.toNat * 0x100 + c.toNat * 0x10000 + d.toNat * 0x1000000
      | .bigEndian => a.toNat * 0x1000000 + b.toNat * 0x10000 + c.toNat * 0x100 + d.toNat
    let (units, left) := units32 order rest
    (unit :: units, left)
  | left => ([], left)

/-- Reads two-byte units; `start` bytes of the data come before the given ones. -/
def decode16 (order : ByteOrder) (start : Nat) (bytes : Bytes) : Except DecodeFault Text :=
  let encoding := match order with
    | .littleEndian => Encoding.utf16le
    | .bigEndian => Encoding.utf16be
  match units16 order bytes with
  | (units, []) => .ok (joinPairs (units.map CodePoint.ofNat))
  | (units, b :: rest) =>
    .error ⟨encoding, start + 2 * units.length, b, rest.length + 1, .truncated⟩

def firstOutOfRange? (units : List Nat) : Option Nat := units.findIdx? (0x110000 ≤ ·)

/-- Reads four-byte units; `start` bytes of the data come before the given ones. -/
def decode32 (order : ByteOrder) (start : Nat) (bytes : Bytes) : Except DecodeFault Text :=
  let encoding := match order with
    | .littleEndian => Encoding.utf32le
    | .bigEndian => Encoding.utf32be
  match units32 order bytes with
  | (units, left) =>
    match firstOutOfRange? units with
    | some i => .error ⟨encoding, start + 4 * i, bytes.getD (4 * i) 0, 4, .outOfRange⟩
    | none =>
      match left with
      | [] => .ok (units.map CodePoint.ofNat)
      | b :: rest => .error ⟨encoding, start + 4 * units.length, b, rest.length + 1, .truncated⟩

end EnvelopeStore.Text.Wide
