import EnvelopeStore.Cipher.Aes
import EnvelopeStore.Cipher.Ghash

/-!
# Authenticated encryption

AES-256-GCM without associated data, in one piece: the text is added to a keystream that key and
nonce fix, and a tag of 16 bytes is computed from key, nonce and ciphertext.
-/

namespace EnvelopeStore.Cipher.Gcm

def tagSize : Nat := 16

def counterBytes (n : Nat) : Bytes := Aes.Block.columnBytes (UInt32.ofNat n)

def keyBlock (keys : Aes.Schedule) (nonce : Bytes) (n : Nat) : Bytes :=
  (keys.encrypt (.ofBytes (nonce ++ counterBytes n))).toBytes

/-- So many blocks of the keystream, the first with the given number. -/
def keystream (keys : Aes.Schedule) (nonce : Bytes) (first count : Nat) : Bytes :=
  (List.range count).flatMap fun i => keyBlock keys nonce (first + i)

/-- The sum of two sequences of bytes, bit by bit, as far as both go. -/
def add (a b : Bytes) : Bytes := List.zipWith (· ^^^ ·) a b

def blocksFor (size : Nat) : Nat := (size + 15) / 16

/-- Encrypts, and decrypts as well. The keystream begins with block 2, as block 1 masks the tag. -/
def crypt (keys : Aes.Schedule) (nonce data : Bytes) : Bytes :=
  add data (keystream keys nonce 2 (blocksFor data.length))

def hashKey (keys : Aes.Schedule) : Ghash.Element :=
  .ofBytes (keys.encrypt (.ofBytes [])).toBytes

def mask (keys : Aes.Schedule) (nonce : Bytes) (hash : Ghash.Element) : Bytes :=
  add hash.toBytes (keyBlock keys nonce 1)

/-- The tag of a ciphertext. -/
def tag (keys : Aes.Schedule) (nonce ciphertext : Bytes) : Bytes :=
  mask keys nonce (Ghash.hash (hashKey keys) ciphertext)

def encrypt (key nonce plain : Bytes) : Bytes :=
  let keys := Aes.Schedule.ofKey key
  let body := crypt keys nonce plain
  body ++ tag keys nonce body

/-- The text of a ciphertext with its tag behind it, if the tag is right. -/
def decrypt? (key nonce sealed : Bytes) : Option Bytes :=
  let keys := Aes.Schedule.ofKey key
  let size := sealed.length - tagSize
  let body := sealed.take size
  if tag keys nonce body = sealed.drop size then some (crypt keys nonce body) else none

end EnvelopeStore.Cipher.Gcm
