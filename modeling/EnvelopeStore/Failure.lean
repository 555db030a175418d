import EnvelopeStore.Base64
import EnvelopeStore.Form
import EnvelopeStore.Json.Fault
import EnvelopeStore.Value.Display

/-!
# Failures

Everything that can go wrong, by cause, with the wording of each cause. Most failures belong to a
family; the families form a tree, so that a caller can handle them at the level that it knows. The
failures without a family come from outside and are passed on as they are.
-/

namespace EnvelopeStore

/-- The families of failures. -/
inductive Family
  | store
  | crypto
  | invalidKey
  | decryption
  | trustAnchor
  | groupAuthorization
  | storage
  | serialization
  | malformedValue
  | config
deriving DecidableEq

namespace Family

def parent? : Family → Option Family
  | .store => none
  | .crypto => some .store
  | .invalidKey => some .crypto
  | .decryption => some .crypto
  | .trustAnchor => some .store
  | .groupAuthorization => some .trustAnchor
  | .storage => some .store
  | .serialization => some .store
  | .malformedValue => some .serialization
  | .config => some .store

def depth : Family → Nat
  | .store => 0
  | .crypto | .trustAnchor | .storage | .serialization | .config => 1
  | .invalidKey | .decryption | .groupAuthorization | .malformedValue => 2

theorem depth_parent {f p : Family} (h : f.parent? = some p) : p.depth < f.depth := by
  cases f <;> simp [parent?] at h <;> subst h <;> decide

def ancestors (f : Family) : List Family :=
  f :: match _h : f.parent? with
    | none => []
    | some p => p.ancestors
termination_by f.depth
decreasing_by exact depth_parent _h

/-- Whether every failure of the family `f` is one of the family `g`. -/
def isPartOf (f g : Family) : Bool := f.ancestors.contains g

end Family

/-- Why a cryptographic operation failed. -/
inductive CryptoFault
  | keyNotBytes
  | entropyUnavailable
  | blobTooSmall (size : Nat)
  | notBase64 (fault : Base64.Fault)
  | notCanonical
  | keySize (size : Nat)
  | unencodable (fault : Text.EncodeFault)
  | undecodable (fault : Text.DecodeFault)
deriving DecidableEq

/-- Why a text is no key. -/
inductive KeyFault
  | notBase64 (fault : Base64.Fault)
  | wrongSize (size : Nat)
deriving DecidableEq

/-- Why a trust anchor gave no answer that can be used. -/
inductive AnchorFault
  | notRecognized
  | invalidJson (fault : Json.Fault)
  | unexpectedKind (kind : Text)
  | actionFailed (action message : Text)
  | missingField (name : Text)

/-- Why a group has no access. -/
inductive GroupFault
  | notMember (group : Value)
  | otherGroup (group : Value)
  | refused (group : Value) (message : Text)

/-- The statements that a table is used with. -/
inductive Statement
  | createSchema
  | storeEntry
  | getEntry
  | deleteEntry
  | listEntries
  | truncateEntries
deriving DecidableEq

/-- The requests that a service is used with. -/
inductive ServiceCall
  | set
  | get
  | delete
  | query
deriving DecidableEq

/-- Why a store failed. -/
inductive StorageFault
  | refused (call : ServiceCall) (status : Int) (body : Text)
  | failed (statement : Statement) (detail : Text)
  | invalidTable (name : Text)
  | unavailable (message : Text)

/-- Why there is no entry. -/
inductive EntryFault
  | unreadable (fault : Json.Fault)
  | notObject (kind : Text)
  | missing (names : List Text)
  | unsupportedAlgorithm (algorithm : Text)
  | unsupportedVersion (version : Text)
  | fieldNotText (name : Text)

/-- Why there is no inline value. -/
inductive InlineFault
  | invalidKeyId (keyId : Value)
  | invalidCiphertext
  | noMark
  | segmentCount (count : Nat)

/-- Why a configuration is refused. -/
inductive ConfigFault
  | emptyField (name : Text)
  | tooFewAttempts (attempts : Value)
  | accountMissing
  | notInteger (name : Text) (raw : Value)
  | notPositive (name : Text) (value : Int)
  | signerMissing
  | unknownNetwork (name : Value)

/-- A value of one kind where another was needed. -/
inductive ShapeFault
  | noPart (kind name : Text)
  | notIterable (kind : Text)
  | notContainer (kind : Text)
  | noLength (kind : Text)
  | fieldOfText
  | fieldOfSequence (word : Text)
  | notDocument (kind : Text)
  | unwritable (kind : Text)
  | notKey (kind : Text)
  | notPayload (kind : Text)
  | notSequence (kind : Text)
  | sliceOfObject
  | notJoined (kind other : Text)
  | noByte
  | notByte
  | textForBytes
  | notStart (wanted kind : Text)
  | notOrdered (kind : Text)
  | notCount (kind : Text)
  | notNumber (kind : Text)
  | infinite
  | notText (position : Nat) (kind : Text)
  | missingKey (key : Value)
  | missingParts (names : List Text)
  | misfit (form : Form) (part : Text)
  | notNamed (form : Form) (kind : Text)

/-- A failure. -/
inductive Failure
  | crypto (fault : CryptoFault)
  | invalidKey (fault : KeyFault)
  | decryption
  | trustAnchor (fault : AnchorFault)
  | groupAuthorization (fault : GroupFault)
  | storage (fault : StorageFault)
  | serialization (fault : EntryFault)
  | malformedValue (fault : InlineFault)
  | config (fault : ConfigFault)
  | entropyExhausted
  | unencodable (fault : Text.EncodeFault)
  | notBase64 (fault : Base64.Fault)
  | document (fault : Json.Fault)
  | shape (fault : ShapeFault)
  | transport (name message : Text)

def CryptoFault.message : CryptoFault → Text
  | .keyNotBytes => "Key must be bytes or bytearray"
  | .entropyUnavailable => "Entropy source unavailable: entropy exhausted"
  | .blobTooSmall size =>
    "AEAD blob too small: expected at least 28 bytes, got " ++ Text.ofNat size
  | .notBase64 fault => "Base64 decode error: " ++ fault.message
  | .notCanonical => "Base64 decode error: non-canonical encoding"
  | .keySize size => "Invalid key size: expected 32, got " ++ Text.ofNat size
  | .unencodable fault => "Plaintext is not encodable as UTF-8: " ++ fault.message
  | .undecodable fault => "Decrypted payload is not valid UTF-8: " ++ fault.message

def KeyFault.message : KeyFault → Text
  | .notBase64 fault => "Key is not valid base64: " ++ fault.message
  | .wrongSize size => "Invalid key size: expected 32, got " ++ Text.ofNat size

def AnchorFault.message : AnchorFault → Text
  | .notRecognized => "Wrapped key not recognized"
  | .invalidJson fault => "Key manager returned invalid JSON: " ++ fault.message
  | .unexpectedKind kind => "Key manager returned unexpected response type: " ++ kind
  | .actionFailed action message => "Key manager " ++ action ++ " failed: " ++ message
  | .missingField name => "Key manager response is missing " ++ name

def GroupFault.message : GroupFault → Text
  | .notMember group => "Not a group member: " ++ group.display
  | .otherGroup group => "Wrapped key does not belong to group " ++ group.display
  | .refused group message => "Not authorized for group " ++ group.display ++ ": " ++ message

def Statement.purpose : Statement → Text
  | .createSchema => "create schema"
  | .storeEntry => "store entry"
  | .getEntry => "get entry"
  | .deleteEntry => "delete entry"
  | .listEntries => "list entries"
  | .truncateEntries => "truncate entries"

def ServiceCall.name : ServiceCall → Text
  | .set => "set"
  | .get => "get"
  | .delete => "delete"
  | .query => "query"

def StorageFault.message : StorageFault → Text
  | .refused call status body =>
    "FastKV " ++ call.name ++ " failed (" ++ Text.ofInt status ++ "): " ++ body
  | .failed statement detail => "Failed to " ++ statement.purpose ++ ": " ++ detail
  | .invalidTable name => "Invalid table name: " ++ name
  | .unavailable message => message

def EntryFault.message : EntryFault → Text
  | .unreadable fault => "Failed to deserialize entry: " ++ fault.message
  | .notObject kind => "Encrypted entry must be an object, got " ++ kind
  | .missing names => "Encrypted entry is missing fields: " ++ Text.join ", " names
  | .unsupportedAlgorithm algorithm => "Unsupported algorithm: " ++ algorithm
  | .unsupportedVersion version => "Unsupported entry version: " ++ version
  | .fieldNotText name => "Field " ++ name ++ " must be a string"

def InlineFault.message : InlineFault → Text
  | .invalidKeyId keyId => "Invalid key id for inline value: " ++ keyId.quoted
  | .invalidCiphertext => "Invalid ciphertext for inline value"
  | .noMark => "Value does not start with 'enc:AES256:'"
  | .segmentCount count => "Expected 4 colon-delimited segments, got " ++ Text.ofNat count

def ConfigFault.message : ConfigFault → Text
  | .emptyField name => name ++ " must not be empty"
  | .tooFewAttempts attempts => "attempts must be at least 1, got " ++ attempts.display
  | .accountMissing => "PRIVATEKV_ACCOUNT_ID must be set in environment or .env file"
  | .notInteger name raw => name ++ " must be an integer, got " ++ raw.quoted
  | .notPositive name value => name ++ " must be positive, got " ++ Text.ofInt value
  | .signerMissing => "sign_transaction must be callable"
  | .unknownNetwork name => "Unknown OutLayer network: " ++ name.display

def ShapeFault.message : ShapeFault → Text
  | .noPart kind name => "'" ++ kind ++ "' object has no attribute '" ++ name ++ "'"
  | .notIterable kind => "'" ++ kind ++ "' object is not iterable"
  | .notContainer kind => "argument of type '" ++ kind ++ "' is not iterable"
  | .noLength kind => "object of type '" ++ kind ++ "' has no len()"
  | .fieldOfText => "string indices must be integers, not 'str'"
  | .fieldOfSequence word => word ++ " indices must be integers or slices, not str"
  | .notDocument kind => "the JSON object must be str, bytes or bytearray, not " ++ kind
  | .unwritable kind => "Object of type " ++ kind ++ " is not JSON serializable"
  | .notKey kind => "unhashable type: '" ++ kind ++ "'"
  | .notPayload kind =>
    "argument should be a bytes-like object or ASCII string, not '" ++ kind ++ "'"
  | .notSequence kind => "'" ++ kind ++ "' object is not subscriptable"
  | .sliceOfObject => "unhashable type: 'slice'"
  | .notJoined kind other =>
    "unsupported operand type(s) for +: '" ++ kind ++ "' and '" ++ other ++ "'"
  | .noByte => "bytearray index out of range"
  | .notByte => "byte must be in range(0, 256)"
  | .textForBytes => "a bytes-like object is required, not 'str'"
  | .notStart wanted kind =>
    "startswith first arg must be " ++ wanted ++ " or a tuple of " ++ wanted ++ ", not " ++ kind
  | .notOrdered kind => "'<' not supported between instances of '" ++ kind ++ "' and 'int'"
  | .notCount kind => "'" ++ kind ++ "' object cannot be interpreted as an integer"
  | .notNumber kind =>
    "int() argument must be a string, a bytes-like object or a real number, not '" ++ kind ++ "'"
  | .infinite => "cannot convert float infinity to integer"
  | .notText position kind =>
    "sequence item " ++ Text.ofNat position ++ ": expected str instance, " ++ kind ++ " found"
  | .missingKey key => key.quoted
  | .missingParts names =>
    let noun : Text := if names.length = 1 then "argument" else "arguments"
    Form.entry.name ++ "() missing " ++ Text.ofNat names.length ++ " required positional " ++
      noun ++ ": " ++ Text.enumeration (names.map Text.quoted)
  | .misfit form part =>
    let fault : Text :=
      if form.supplied.contains part then "multiple values for argument '"
      else "an unexpected keyword argument '"
    form.name ++ "() got " ++ fault ++ part ++ "'"
  | .notNamed form kind =>
    form.longName ++ "() argument after ** must be a mapping, not " ++ kind

/-- The items of a value: those of a list, the characters of a text, the numbers of bytes, the names
in an object. -/
def Value.items : Value → Except ShapeFault (List Value)
  | .list items => .ok items
  | .text t => .ok (t.map fun c => .text [c])
  | .bytes b | .buffer b => .ok (b.map fun x => .int x.toNat)
  | .object fields => .ok (fields.map fun field => .text field.1)
  | v => .error (.notIterable v.kind)

/-- The parts that a value gives to a form, all of which the form has to take. -/
def Form.partsOf (form : Form) : Value → Except Failure Fields
  | .object given =>
    match form.misfit? given with
    | some part => .error (.shape (.misfit form part))
    | none => .ok given
  | v => .error (.shape (.notNamed form v.kind))

namespace Failure

/-- The family of a failure; what comes from outside has none. -/
def family? : Failure → Option Family
  | .crypto _ => some .crypto
  | .invalidKey _ => some .invalidKey
  | .decryption => some .decryption
  | .trustAnchor _ => some .trustAnchor
  | .groupAuthorization _ => some .groupAuthorization
  | .storage _ => some .storage
  | .serialization _ => some .serialization
  | .malformedValue _ => some .malformedValue
  | .config _ => some .config
  | .entropyExhausted | .unencodable _ | .notBase64 _ | .document _ | .shape _
  | .transport _ _ => none

def message : Failure → Text
  | .crypto fault => fault.message
  | .invalidKey fault => fault.message
  | .decryption => "Decryption failed"
  | .trustAnchor fault => fault.message
  | .groupAuthorization fault => fault.message
  | .storage fault => fault.message
  | .serialization fault => fault.message
  | .malformedValue fault => fault.message
  | .config fault => fault.message
  | .entropyExhausted => "entropy exhausted"
  | .unencodable fault => fault.message
  | .notBase64 fault => fault.message
  | .document fault => fault.message
  | .shape fault => fault.message
  | .transport _ message => message

end Failure

end EnvelopeStore
