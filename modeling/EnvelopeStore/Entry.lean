import EnvelopeStore.Failure
import EnvelopeStore.Json.Source
import EnvelopeStore.Json.Writer

/-!
# Entries

The record that a store keeps for a key: the wrapped key, the ciphertext, the id of the wrapping
key, and the format that they are in. Nothing in it is secret without the trust anchor. A record as
a caller or a store hands it over is unchecked; reading one from its document checks every field.
-/

namespace EnvelopeStore

def algorithmName : Text := "AES-256-GCM"

def formatVersion : Int := 1

/-- A record, its fields unchecked. -/
structure Entry where
  wrappedKey : Value
  ciphertext : Value
  keyId : Value
  algorithm : Value
  version : Value

namespace Entry

/-- A record in the current format. -/
def current (wrappedKey ciphertext keyId : Text) : Entry :=
  ⟨.text wrappedKey, .text ciphertext, .text keyId, .text algorithmName, .int formatVersion⟩

def requiredParts : List Text := ["wrapped_key", "ciphertext", "key_id"]

/-- A record from its parts by name, of which the algorithm and the version may be left out. -/
def ofParts (v : Value) : Except Failure Entry := do
  let parts ← Form.entry.partsOf v
  match parts.get? "wrapped_key", parts.get? "ciphertext", parts.get? "key_id" with
  | some wrappedKey, some ciphertext, some keyId =>
    return ⟨wrappedKey, ciphertext, keyId, parts.getD "algorithm" (.text algorithmName),
      parts.getD "version" (.int formatVersion)⟩
  | _, _, _ => throw (.shape (.missingParts (requiredParts.filter fun name => !parts.has name)))

def fieldNames : List Text := ["wrapped_key", "ciphertext", "key_id", "algorithm", "v"]

def toValue (e : Entry) : Value :=
  .object [("wrapped_key", e.wrappedKey), ("ciphertext", e.ciphertext), ("key_id", e.keyId),
    ("algorithm", e.algorithm), ("v", e.version)]

/-- The document of a record. -/
def toJson (e : Entry) : Except Failure Text :=
  match Json.unwritable? e.toValue with
  | some kind => .error (.shape (.unwritable kind))
  | none => .ok (Json.write e.toValue)

def checkText (name : Text) (v : Value) : Except EntryFault Unit :=
  match v with
  | .text _ => .ok ()
  | _ => .error (.fieldNotText name)

/-- Reads a record from the fields of an object: all fields have to be there, then algorithm and
version have to be the current ones, then the rest has to be text. -/
def ofFields (fields : Fields) : Except EntryFault Entry :=
  match fields.get? "wrapped_key", fields.get? "ciphertext", fields.get? "key_id",
      fields.get? "algorithm", fields.get? "v" with
  | some wrappedKey, some ciphertext, some keyId, some algorithm, some version =>
    if !algorithm.equalsText algorithmName then
      .error (.unsupportedAlgorithm algorithm.display)
    else if !version.equalsInt formatVersion then .error (.unsupportedVersion version.display)
    else do
      checkText "wrapped_key" wrappedKey
      checkText "ciphertext" ciphertext
      checkText "key_id" keyId
      .ok ⟨wrappedKey, ciphertext, keyId, algorithm, version⟩
  | _, _, _, _, _ => .error (.missing (fieldNames.filter fun name => !fields.has name))

def ofValue : Value → Except EntryFault Entry
  | .object fields => ofFields fields
  | v => .error (.notObject v.kind)

/-- Reads a record from the outcome of reading its document. One that is too deep is passed on as
it is, and counts as no fault of the record. -/
def ofDocument : Except Json.Fault Value → Except Failure Entry
  | .error (.tooDeep container) => .error (.document (.tooDeep container))
  | .error fault => .error (.serialization (.unreadable fault))
  | .ok v =>
    match ofValue v with
    | .error fault => .error (.serialization fault)
    | .ok e => .ok e

/-- Reads a record from its document, in text or in bytes. -/
def ofJson : Value → Except Failure Entry
  | .text t => ofDocument (Json.read t)
  | .bytes b => ofDocument (Json.readBytes b)
  | .buffer b => ofDocument (Json.readBytes b)
  | v => .error (.shape (.notDocument v.kind))

end Entry

end EnvelopeStore
