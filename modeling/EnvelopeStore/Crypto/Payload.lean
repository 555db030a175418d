import EnvelopeStore.Cipher.Gcm
import EnvelopeStore.Failure

/-!
# Payloads

An encrypted payload is a nonce, a ciphertext and a tag, one after the other. Its text is the base64
text of those bytes, and only that one: other texts for the same bytes are refused.
-/

namespace EnvelopeStore

def nonceSize : Nat := 12

/-- An encrypted payload. The tag is the end of the ciphertext. -/
structure Payload where
  nonce : Bytes
  ciphertext : Bytes
deriving DecidableEq

namespace Payload

open Cipher.Gcm (tagSize)

def body (p : Payload) : Bytes := p.ciphertext.take (p.ciphertext.length - tagSize)

/-- The tag, or all there is when that is shorter. -/
def tag (p : Payload) : Bytes := p.ciphertext.drop (p.ciphertext.length - tagSize)

def toBlob (p : Payload) : Bytes := p.nonce ++ p.ciphertext

def ofBlob (blob : Bytes) : Except Failure Payload :=
  if blob.length < nonceSize + tagSize then .error (.crypto (.blobTooSmall blob.length))
  else .ok ⟨blob.take nonceSize, blob.drop nonceSize⟩

/-- The payload in what should be bytes, whatever it is. Other sequences can be cut in two, but have
no bytes. -/
def ofBlobValue : Value → Except Failure Payload
  | .bytes b | .buffer b => ofBlob b
  | v =>
    match v.length? with
    | none => .error (.shape (.noLength v.kind))
    | some size =>
      if size < nonceSize + tagSize then .error (.crypto (.blobTooSmall size))
      else
        match v with
        | .object _ => .error (.shape .sliceOfObject)
        | v => .error (.shape (.noPart v.kind "hex"))

/-- The bytes that a value is shown as; there are none for a number with a point, which is shown all
the same. -/
def shownBytes : Value → Except Failure (Option Bytes)
  | .bytes b | .buffer b => .ok (some b)
  | .float _ => .ok none
  | v => .error (.shape (.noPart v.kind "hex"))

def ofParts (nonce ciphertext : Value) : Except Failure Payload := do
  match ← shownBytes nonce, ← shownBytes ciphertext with
  | _, none => .error (.shape (.notSequence ciphertext.kind))
  | none, _ => .error (.shape (.notJoined nonce.kind ciphertext.kind))
  | some nonceBytes, some cipherBytes => .ok ⟨nonceBytes, cipherBytes⟩

def toText (p : Payload) : Text := Base64.encode p.toBlob

/-- The payload of a text. -/
def ofText (t : Text) : Except Failure Payload :=
  match Base64.decode t with
  | .error fault => .error (.crypto (.notBase64 fault))
  | .ok blob =>
    if Base64.encode blob = t then ofBlob blob else .error (.crypto .notCanonical)

/-- The payload of what should be its text, whatever it is. Bytes may spell a payload, but they are
never its text. -/
def ofValue : Value → Except Failure Payload
  | .text t => ofText t
  | .bytes b | .buffer b =>
    match Base64.decodeBytes b with
    | .error fault => .error (.crypto (.notBase64 fault))
    | .ok _ => .error (.crypto .notCanonical)
  | v => .error (.shape (.notPayload v.kind))

end Payload

end EnvelopeStore
