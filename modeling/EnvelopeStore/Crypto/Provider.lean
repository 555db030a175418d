import EnvelopeStore.Cipher.Stream
import EnvelopeStore.Crypto.Key
import EnvelopeStore.Crypto.Payload
import EnvelopeStore.Text.Utf8

/-!
# Crypto providers

A provider makes keys and encrypts texts with them. The two providers here use the same cipher, one
in a single piece and one as a stream, and read each other's payloads.
-/

namespace EnvelopeStore

/-- The operations on keys and payloads. What is imported, encrypted or decrypted has to be a text;
nobody has checked yet that it is one. -/
structure Provider (σ : Type) where
  generateKey : Action σ Key
  exportKey : Key → Action σ Text
  importKey : Value → Action σ Key
  /-- Encrypts a text. A key must not encrypt more than one. -/
  encrypt : Value → Key → Action σ Text
  decrypt : Value → Key → Action σ Text

namespace Provider

def on {ω σ : Type} (part : Part ω σ) (p : Provider σ) : Provider ω where
  generateKey := p.generateKey.on part
  exportKey key := (p.exportKey key).on part
  importKey v := (p.importKey v).on part
  encrypt v key := (p.encrypt v key).on part
  decrypt v key := (p.decrypt v key).on part

def plainBytes : Value → Except Failure Bytes
  | .text t =>
    match Text.Utf8.encode t with
    | .ok bytes => .ok bytes
    | .error fault => .error (.crypto (.unencodable fault))
  | v => .error (.shape (.noPart v.kind "encode"))

def plainText (bytes : Bytes) : Except Failure Text :=
  match Text.Utf8.decode bytes with
  | .ok t => .ok t
  | .error fault => .error (.crypto (.undecodable fault))

/-- The payload of a text. One that cannot be read counts as tampered with, whatever is wrong with
it; only what is neither text nor bytes is a fault of the caller. -/
def payload (v : Value) : Except Failure Payload :=
  match Payload.ofValue v with
  | .ok p => .ok p
  | .error (.crypto _) => .error .decryption
  | .error failure => .error failure

/-- The cipher in one piece. -/
def oneShot : Provider Entropy where
  generateKey := Key.generate
  exportKey key := Action.ofExcept key.exported
  importKey v := Action.ofExcept (Key.imported v)
  encrypt v key := do
    Action.ofExcept key.check
    let nonce ← Entropy.draw nonceSize
    let plain ← Action.ofExcept (plainBytes v)
    return Payload.toText ⟨nonce, Cipher.Gcm.encrypt key.bytes nonce plain⟩
  decrypt v key := Action.ofExcept do
    key.check
    let p ← payload v
    match Cipher.Gcm.decrypt? key.bytes p.nonce p.ciphertext with
    | none => throw .decryption
    | some plain => plainText plain

/-- The cipher as a stream: the tag is made apart from the ciphertext, and split off again. -/
def streaming : Provider Entropy where
  generateKey := Key.generate
  exportKey key := Action.ofExcept key.exported
  importKey v := Action.ofExcept (Key.imported v)
  encrypt v key := do
    Action.ofExcept key.check
    let nonce ← Entropy.draw nonceSize
    let plain ← Action.ofExcept (plainBytes v)
    let (body, stream) := (Cipher.Stream.start key.bytes nonce).encrypt plain
    return Payload.toText ⟨nonce, body ++ stream.tag⟩
  decrypt v key := Action.ofExcept do
    key.check
    let p ← payload v
    let (plain, stream) := (Cipher.Stream.start key.bytes p.nonce).decrypt p.body
    if stream.tag = p.tag then plainText plain else throw .decryption

/-- The provider that is used when none is chosen. -/
def standard : Provider Entropy := oneShot

end Provider

end EnvelopeStore
