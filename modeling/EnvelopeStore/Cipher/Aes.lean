import EnvelopeStore.Text.Basic

/-!
# The block cipher

AES with keys of 32 bytes, as a function from blocks of 16 bytes to blocks of 16 bytes. The
substitution is computed from its definition: the inverse in the field of 256 elements, followed by
an affine map.
-/

namespace EnvelopeStore.Cipher.Aes

def double (b : UInt8) : UInt8 := (b <<< 1) ^^^ (if b &&& 0x80 = 0 then 0 else 0x1B)

/-- The product in the field, the second factor taken bit by bit from the `bits` lowest ones. -/
def mulBits : (bits : Nat) → UInt8 → UInt8 → UInt8
  | 0, _, _ => 0
  | bits + 1, a, b => (if b &&& 1 = 0 then 0 else a) ^^^ mulBits bits (double a) (b >>> 1)

def mul (a b : UInt8) : UInt8 := mulBits 8 a b

def pow (a : UInt8) : Nat → UInt8
  | 0 => 1
  | n + 1 => mul a (pow a n)

/-- A byte with its bits moved up by `n` places, the highest coming in below. -/
def rotate (b : UInt8) (n : UInt8) : UInt8 := (b <<< n) ||| (b >>> (8 - n))

/-- The image of a byte: its inverse, where zero counts as its own, under an affine map. -/
def substitute (b : UInt8) : UInt8 :=
  let i := pow b 254
  i ^^^ rotate i 1 ^^^ rotate i 2 ^^^ rotate i 3 ^^^ rotate i 4 ^^^ 0x63

/-- The images of all bytes. -/
def substitutions : Vector UInt8 256 := Vector.ofFn fun i => substitute (UInt8.ofNat i)

def subByte (b : UInt8) : UInt8 := substitutions.get ⟨b.toNat, b.toNat_lt⟩

def word (a b c d : UInt8) : UInt32 :=
  (a.toUInt32 <<< 24) ||| (b.toUInt32 <<< 16) ||| (c.toUInt32 <<< 8) ||| d.toUInt32

def byteAt (w : UInt32) (place : UInt32) : UInt8 := (w >>> (24 - 8 * place)).toUInt8

/-- A block as its four columns. -/
structure Block where
  c0 : UInt32
  c1 : UInt32
  c2 : UInt32
  c3 : UInt32
deriving DecidableEq

namespace Block

def add (a b : Block) : Block :=
  ⟨a.c0 ^^^ b.c0, a.c1 ^^^ b.c1, a.c2 ^^^ b.c2, a.c3 ^^^ b.c3⟩

def ofBytes (b : Bytes) : Block :=
  let column (i : Nat) : UInt32 :=
    word (b.getD i 0) (b.getD (i + 1) 0) (b.getD (i + 2) 0) (b.getD (i + 3) 0)
  ⟨column 0, column 4, column 8, column 12⟩

def columnBytes (w : UInt32) : Bytes := [byteAt w 0, byteAt w 1, byteAt w 2, byteAt w 3]

def toBytes (b : Block) : Bytes :=
  columnBytes b.c0 ++ columnBytes b.c1 ++ columnBytes b.c2 ++ columnBytes b.c3

theorem length_toBytes (b : Block) : b.toBytes.length = 16 := rfl

end Block

def mixed (b : UInt8) : UInt32 :=
  let s := substitute b
  word (double s) s s (double s ^^^ s)

def mixtures : Vector UInt32 256 := Vector.ofFn fun i => mixed (UInt8.ofNat i)

def mixByte (b : UInt8) : UInt32 := mixtures.get ⟨b.toNat, b.toNat_lt⟩

def turn (w : UInt32) (bits : UInt32) : UInt32 := (w >>> bits) ||| (w <<< (32 - bits))

/-- A column of the next state: the bytes of one shifted row each, substituted and mixed. -/
def mixColumn (a b c d : UInt32) : UInt32 :=
  mixByte (byteAt a 0) ^^^ turn (mixByte (byteAt b 1)) 8 ^^^ turn (mixByte (byteAt c 2)) 16 ^^^
    turn (mixByte (byteAt d 3)) 24

def lastColumn (a b c d : UInt32) : UInt32 :=
  word (subByte (byteAt a 0)) (subByte (byteAt b 1)) (subByte (byteAt c 2)) (subByte (byteAt d 3))

/-- One round. -/
def round (key s : Block) : Block :=
  Block.add key ⟨mixColumn s.c0 s.c1 s.c2 s.c3, mixColumn s.c1 s.c2 s.c3 s.c0,
    mixColumn s.c2 s.c3 s.c0 s.c1, mixColumn s.c3 s.c0 s.c1 s.c2⟩

def lastRound (key s : Block) : Block :=
  Block.add key ⟨lastColumn s.c0 s.c1 s.c2 s.c3, lastColumn s.c1 s.c2 s.c3 s.c0,
    lastColumn s.c2 s.c3 s.c0 s.c1, lastColumn s.c3 s.c0 s.c1 s.c2⟩

def subWord (w : UInt32) : UInt32 := lastColumn w w w w

def rotWord (w : UInt32) : UInt32 := turn w 24

/-- The four columns that follow eight, of which `carry` comes from the last. -/
def nextColumns (b : Block) (carry : UInt32) : Block :=
  let c0 := b.c0 ^^^ carry
  let c1 := b.c1 ^^^ c0
  let c2 := b.c2 ^^^ c1
  ⟨c0, c1, c2, b.c3 ^^^ c2⟩

def laterKeys (a b : Block) : List UInt8 → List Block
  | [] => []
  | constant :: rest =>
    let a' := nextColumns a (subWord (rotWord b.c3) ^^^ word constant 0 0 0)
    let b' := nextColumns b (subWord a'.c3)
    a' :: b' :: laterKeys a' b' rest

/-- The keys of the rounds, made from a key of 32 bytes. -/
structure Schedule where
  first : Block
  middle : List Block
  last : Block

/-- The schedule of a key: fifteen round keys. -/
def Schedule.ofKey (key : Bytes) : Schedule :=
  let a := Block.ofBytes key
  let b := Block.ofBytes (key.drop 16)
  let later := laterKeys a b [0x01, 0x02, 0x04, 0x08, 0x10, 0x20, 0x40]
  ⟨a, b :: later.take 12, later.getD 12 a⟩

def Schedule.encrypt (s : Schedule) (b : Block) : Block :=
  lastRound s.last (s.middle.foldl (fun state key => round key state) (Block.add s.first b))

end EnvelopeStore.Cipher.Aes
