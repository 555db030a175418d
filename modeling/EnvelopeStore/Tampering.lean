import EnvelopeStore.Storage.Basic

/-!
# Tampering

What a hostile store can do to an entry: change bits, cut parts off, put something else in its
place, or swap in a field of another entry.
-/

namespace EnvelopeStore.Tampering

/-- What is changed of an entry. -/
inductive Field
  | wrappedKey
  | ciphertext
  | keyId
  | algorithm
  | version
  | other (name : Text)
deriving DecidableEq

def Field.name : Field → Text
  | .wrappedKey => "wrapped_key"
  | .ciphertext => "ciphertext"
  | .keyId => "key_id"
  | .algorithm => "algorithm"
  | .version => "version"
  | .other name => name

def Field.ofName (name : Text) : Field :=
  ([.wrappedKey, .ciphertext, .keyId, .algorithm, .version].find? fun f => f.name = name).getD
    (.other name)

def Field.get : Field → Entry → Except Failure Value
  | .wrappedKey, e => .ok e.wrappedKey
  | .ciphertext, e => .ok e.ciphertext
  | .keyId, e => .ok e.keyId
  | .algorithm, e => .ok e.algorithm
  | .version, e => .ok e.version
  | .other name, _ => .error (.shape (.noPart "EncryptedEntry" name))

/-- An entry with a field replaced; what is no field of an entry is not kept. -/
def Field.put (v : Value) : Field → Entry → Entry
  | .wrappedKey, e => { e with wrappedKey := v }
  | .ciphertext, e => { e with ciphertext := v }
  | .keyId, e => { e with keyId := v }
  | .algorithm, e => { e with algorithm := v }
  | .version, e => { e with version := v }
  | .other _, e => e

/-- A change to a field. -/
inductive Change
  | flip (index bits : Int)
  | cut (start : Int) (stop : Option Int)
  | replace (v : Value)
  | copyFrom (key : Value)

/-- Where a place is, counted from the start; it may lie outside. -/
def place (length : Nat) (index : Int) : Int := if index < 0 then length + index else index

def flipAt (index bits : Int) (bytes : Bytes) : Except Failure Bytes :=
  let i := place bytes.length index
  if i < 0 ∨ bytes.length ≤ i then .error (.shape .noByte)
  else if bits < 0 ∨ 256 ≤ bits then .error (.shape .notByte)
  else .ok (bytes.modify i.toNat fun b => b ^^^ UInt8.ofNat bits.toNat)

def bytesBehind (v : Value) : Except Failure Bytes :=
  let decoded : Except Failure (Except Base64.Fault Bytes) := match v with
    | .text t => .ok (Base64.decode t)
    | .bytes b | .buffer b => .ok (Base64.decodeBytes b)
    | v => .error (.shape (.notPayload v.kind))
  match decoded with
  | .error failure => .error failure
  | .ok (.error fault) => .error (.notBase64 fault)
  | .ok (.ok bytes) => .ok bytes

def flip (index bits : Int) (v : Value) : Except Failure Value := do
  let changed ← flipAt index bits (← bytesBehind v)
  return .text (Base64.encode changed)

def slice {α : Type} (start : Int) (stop : Option Int) (xs : List α) : List α :=
  let first := (place xs.length start).toNat
  let last := ((stop.map (place xs.length)).getD xs.length).toNat
  (xs.take last).drop first

def cut (start : Int) (stop : Option Int) : Value → Except Failure Value
  | .text t => .ok (.text (slice start stop t))
  | .bytes b => .ok (.bytes (slice start stop b))
  | .buffer b => .ok (.buffer (slice start stop b))
  | .list items => .ok (.list (slice start stop items))
  | .object _ => .error (.shape .sliceOfObject)
  | v => .error (.shape (.notSequence v.kind))

section

variable {σ : Type} (storage : Storage σ)

def present (field : Field) : Option Entry → Except Failure Entry
  | some e => .ok e
  | none => .error (.shape (.noPart Value.null.kind field.name))

def apply (field : Field) (change : Change) (found : Option Entry) : Action σ Entry := do
  match change with
  | .flip index bits =>
    let e ← Action.ofExcept (present field found)
    let v ← Action.ofExcept (field.get e >>= flip index bits)
    return field.put v e
  | .cut start stop =>
    let e ← Action.ofExcept (present field found)
    let v ← Action.ofExcept (field.get e >>= cut start stop)
    return field.put v e
  | .replace v => return field.put v (← Action.ofExcept (present field found))
  | .copyFrom key =>
    let other ← Action.ofExcept (present field (← storage.get key))
    let v ← Action.ofExcept (field.get other)
    return field.put v (← Action.ofExcept (present field found))

def applyAll (changes : List (Field × Change)) (found : Option Entry) : Action σ (Option Entry) :=
  changes.foldlM (fun found (field, change) => some <$> apply storage field change found) found

/-- Changes what the store has under a key, and gives what it has then. Without any change there may
be no entry to be stored again; `nothing` is what the store does about that. -/
def tamper (nothing : Action σ Receipt) (key : Value) (changes : List (Field × Change)) :
    Action σ (Option Entry) := do
  match ← applyAll storage changes (← storage.get key) with
  | none => let _ ← nothing
  | some changed => let _ ← storage.set key changed
  storage.get key

end

end EnvelopeStore.Tampering
