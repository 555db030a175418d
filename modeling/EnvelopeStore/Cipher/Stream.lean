import EnvelopeStore.Cipher.Gcm

/-!
# Authenticated encryption in pieces

The same cipher for a text that arrives piece by piece. The state keeps what of the keystream is
left over from the last block, the hash of the blocks that are complete, and the bytes of the
ciphertext that do not yet fill one.
-/

namespace EnvelopeStore.Cipher

/-- A text on its way through the cipher. -/
structure Stream where
  keys : Aes.Schedule
  nonce : Bytes
  next : Nat
  spare : Bytes
  hashKey : Ghash.Element
  sum : Ghash.Element
  pending : Bytes
  size : Nat

namespace Stream

def start (key nonce : Bytes) : Stream :=
  let keys := Aes.Schedule.ofKey key
  ⟨keys, nonce, 2, [], Gcm.hashKey keys, .zero, [], 0⟩

/-- Takes a piece of the text, or of the ciphertext, to the other side. -/
def add (s : Stream) (piece : Bytes) : Bytes × Stream :=
  let count := Gcm.blocksFor (piece.length - s.spare.length)
  let stream := s.spare ++ Gcm.keystream s.keys s.nonce s.next count
  (Gcm.add piece stream, { s with next := s.next + count, spare := stream.drop piece.length })

def absorb (s : Stream) (piece : Bytes) : Stream :=
  let bytes := s.pending ++ piece
  let whole := bytes.length / 16 * 16
  { s with
    sum := (Ghash.blocks (bytes.take whole)).foldl (Ghash.absorb s.hashKey) s.sum
    pending := bytes.drop whole
    size := s.size + piece.length }

def encrypt (s : Stream) (piece : Bytes) : Bytes × Stream :=
  let (out, s) := s.add piece
  (out, s.absorb out)

def decrypt (s : Stream) (piece : Bytes) : Bytes × Stream :=
  let (out, s) := s.add piece
  (out, s.absorb piece)

def tag (s : Stream) : Bytes :=
  let sum := (Ghash.blocks s.pending).foldl (Ghash.absorb s.hashKey) s.sum
  Gcm.mask s.keys s.nonce (Ghash.absorb s.hashKey sum (Ghash.lengthBlock s.size))

end Stream

end EnvelopeStore.Cipher
