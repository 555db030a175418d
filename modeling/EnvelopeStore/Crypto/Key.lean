import EnvelopeStore.Entropy

/-!
# Keys

The key of a value, and its exported form: the base64 text of its 32 bytes.
-/

namespace EnvelopeStore

def keySize : Nat := 32

/-- A handle on key material. Handles of any size exist; only those of 32 bytes can be used. -/
structure Key where
  bytes : Bytes
deriving DecidableEq

namespace Key

def ofValue : Value → Except Failure Key
  | .bytes b => .ok ⟨b⟩
  | .buffer b => .ok ⟨b⟩
  | _ => .error (.crypto .keyNotBytes)

/-- The text that stands for a key in messages: nothing of it is shown. -/
def display (_ : Key) : Text := "SecureKey([REDACTED])"

/-- A fresh key. -/
def generate : Action Entropy Key := fun e =>
  match Entropy.draw keySize e with
  | .ok bytes e' => .ok ⟨bytes⟩ e'
  | .error _ e' => .error (.crypto .entropyUnavailable) e'

def check (key : Key) : Except Failure Unit :=
  if key.bytes.length = keySize then .ok () else .error (.crypto (.keySize key.bytes.length))

/-- The exported form of a key, which is as secret as the key. -/
def exported (key : Key) : Except Failure Text :=
  match key.check with
  | .error failure => .error failure
  | .ok () => .ok (Base64.encode key.bytes)

def ofDecoded : Except Base64.Fault Bytes → Except Failure Key
  | .error fault => .error (.invalidKey (.notBase64 fault))
  | .ok bytes =>
    if bytes.length = keySize then .ok ⟨bytes⟩
    else .error (.invalidKey (.wrongSize bytes.length))

/-- The key of what should be an exported form, whatever it is. -/
def imported : Value → Except Failure Key
  | .text t => ofDecoded (Base64.decode t)
  | .bytes b | .buffer b => ofDecoded (Base64.decodeBytes b)
  | v => .error (.shape (.notPayload v.kind))

end Key

end EnvelopeStore
