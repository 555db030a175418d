import EnvelopeStore.Text.Basic

/-!
# The hash of authenticated encryption

Polynomials of degree below 128 over two elements, and the polynomial hash of a sequence of blocks.
The first bit of a block is the constant coefficient.
-/

namespace EnvelopeStore.Cipher.Ghash

/-- An element of the field, by its first and its second 64 coefficients. -/
structure Element where
  hi : UInt64
  lo : UInt64
deriving DecidableEq

namespace Element

def zero : Element := ⟨0, 0⟩

def add (a b : Element) : Element := ⟨a.hi ^^^ b.hi, a.lo ^^^ b.lo⟩

def shift (a : Element) : Element :=
  let hi := a.hi >>> 1
  let lo := (a.lo >>> 1) ||| (a.hi <<< 63)
  if a.lo &&& 1 = 0 then ⟨hi, lo⟩ else ⟨hi ^^^ 0xE100000000000000, lo⟩

/-- Adds the multiples of `a` for the `bits` highest coefficients in `word` to `sum`, and gives the
multiple of `a` for the coefficient after them. -/
def mulWord : (bits : Nat) → (word : UInt64) → (sum a : Element) → Element × Element
  | 0, _, sum, a => (sum, a)
  | bits + 1, word, sum, a =>
    mulWord bits (word <<< 1) (if word &&& 0x8000000000000000 = 0 then sum else sum.add a) a.shift

/-- The product. -/
def mul (a b : Element) : Element :=
  let (sum, a) := mulWord 64 b.hi zero a
  (mulWord 64 b.lo sum a).1

def word (b : Bytes) : UInt64 := b.foldl (fun n x => (n <<< 8) ||| x.toUInt64) 0

def ofBytes (b : Bytes) : Element :=
  let b := b ++ List.replicate (16 - b.length) 0
  ⟨word (b.take 8), word (b.drop 8)⟩

def wordBytes (n : UInt64) : Bytes :=
  [(n >>> 56).toUInt8, (n >>> 48).toUInt8, (n >>> 40).toUInt8, (n >>> 32).toUInt8,
    (n >>> 24).toUInt8, (n >>> 16).toUInt8, (n >>> 8).toUInt8, n.toUInt8]

def toBytes (a : Element) : Bytes := wordBytes a.hi ++ wordBytes a.lo

theorem length_toBytes (a : Element) : a.toBytes.length = 16 := rfl

end Element

/-- Takes one block of at most 16 bytes into a hash under the key `h`. -/
def absorb (h sum : Element) (block : Bytes) : Element := ((sum.add (.ofBytes block)).mul h)

/-- The blocks of 16 bytes of a sequence of bytes; the last may be shorter. -/
def blocks (b : Bytes) : List Bytes :=
  match b with
  | [] => []
  | a :: rest => (a :: rest.take 15) :: blocks (rest.drop 15)
termination_by b.length
decreasing_by
  simp only [List.length_cons, List.length_drop]
  omega

/-- The block that closes a hash: the lengths in bits, here of no associated data. -/
def lengthBlock (count : Nat) : Bytes :=
  Element.toBytes ⟨0, UInt64.ofNat (8 * count)⟩

/-- The hash of bytes, each block filled up with zeros, and of their number. -/
def hash (h : Element) (b : Bytes) : Element :=
  absorb h ((blocks b).foldl (absorb h) .zero) (lengthBlock b.length)

end EnvelopeStore.Cipher.Ghash
