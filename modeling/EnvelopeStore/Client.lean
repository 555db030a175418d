import EnvelopeStore.Crypto.Provider
import EnvelopeStore.Storage.Basic
import EnvelopeStore.TrustAnchor.Basic

/-!
# Clients

A client keeps texts under keys of its own. To write, it makes a fresh key, encrypts the text with
it, has the trust anchor wrap the key for its group, and stores the result; to read, it goes the
same way back. The write to the store comes last, so that a failure before it leaves the store as
it was. Nothing is tried twice.
-/

namespace EnvelopeStore

/-- What a client works with. -/
structure Adapters (σ : Type) where
  crypto : Provider σ
  storage : Storage σ
  anchor : TrustAnchor σ

/-- A client, by the account that the texts belong to, the namespace of its keys, and the name of
its group within the account. -/
structure Client where
  account : Text
  area : Text
  groupSuffix : Text
  account_nonempty : account ≠ []
  area_nonempty : area ≠ []
  groupSuffix_nonempty : groupSuffix ≠ []

namespace Client

def defaultArea : Text := "privatekv"

def defaultGroupSuffix : Text := "private"

/-- The name that a value stands for. What does not count as given stands for no name. -/
def nameOf (v : Value) : Text := if v.isGiven then v.display else []

/-- A client, refused if one of its names is empty. -/
def make (account area groupSuffix : Text) : Except ConfigFault Client :=
  if ha : account = [] then .error (.emptyField "account_id")
  else if hn : area = [] then .error (.emptyField "namespace")
  else if hg : groupSuffix = [] then .error (.emptyField "group_suffix")
  else .ok ⟨account, area, groupSuffix, ha, hn, hg⟩

def ofValues (account area groupSuffix : Value) : Except ConfigFault Client :=
  make (nameOf account) (nameOf area) (nameOf groupSuffix)

def groupId (c : Client) : Text := c.account ++ "/" ++ c.groupSuffix

def keyBase (c : Client) : Text := c.area ++ "/" ++ c.account ++ "/"

def fullKey (c : Client) (key : Text) : Text := c.keyBase ++ key

/-- The surroundings of a client, and the id of its group's key once that is known. -/
structure State (σ : Type) where
  world : σ
  keyId : Option Text

def worldPart {σ : Type} : Part (State σ) σ := ⟨State.world, fun w s => { s with world := w }⟩

def outside {σ α : Type} (action : Action σ α) : Action (State σ) α := action.on worldPart

def learn {σ : Type} (keyId : Text) : Action (State σ) Unit :=
  modify fun s => { s with keyId := s.keyId.or (some keyId) }

/-- The part of a reported key that is the client's own; keys outside its part of the store have
none. -/
def ownKey? (c : Client) : Value → Except Failure (Option Text)
  | .text t =>
    .ok (if t.startsWith c.keyBase then some (t.drop c.keyBase.length) else none)
  | .bytes _ | .buffer _ =>
    .error (.shape (.notStart (Value.bytes []).kind (Value.text []).kind))
  | v => .error (.shape (.noPart v.kind "startswith"))

section

variable {σ : Type} (a : Adapters σ) (c : Client)

/-- Encrypts and stores a text, in place of any earlier one. -/
def set (key : Text) (text : Value) : Action (State σ) Receipt := do
  let valueKey ← outside a.crypto.generateKey
  let ciphertext ← outside (a.crypto.encrypt text valueKey)
  let exported ← outside (a.crypto.exportKey valueKey)
  let wrapped ← outside (a.anchor.wrap c.groupId exported)
  learn wrapped.keyId
  let entry := Entry.current wrapped.wrappedKey ciphertext wrapped.keyId
  outside (a.storage.set (c.fullKey key) entry)

/-- Loads and decrypts a text, absent if the store has no entry. -/
def get (key : Text) : Action (State σ) (Option Text) := do
  match ← outside (a.storage.get (c.fullKey key)) with
  | none => return none
  | some entry =>
    let unwrapped ← outside (a.anchor.unwrap c.groupId entry.wrappedKey)
    learn unwrapped.keyId
    let valueKey ← outside (a.crypto.importKey unwrapped.plainKey)
    some <$> outside (a.crypto.decrypt entry.ciphertext valueKey)

def delete (key : Text) : Action (State σ) Receipt :=
  outside (a.storage.delete (c.fullKey key))

/-- The client's keys that start with a text. -/
def list (start : Text) : Action (State σ) (List Text) := do
  let keys ← outside (a.storage.list (c.fullKey start))
  let own ← Action.ofExcept (keys.mapM c.ownKey?)
  return own.filterMap id

/-- The id of the key of the client's group: the known one, else the anchor's answer to a look-up,
or to wrapping a key that is then thrown away. -/
def getKeyId : Action (State σ) Text := do
  match (← MonadState.get).keyId with
  | some keyId => return keyId
  | none =>
    let keyId ← match a.anchor.lookup? with
      | some lookup => outside (lookup c.groupId)
      | none => do
        let throwaway ← outside a.crypto.generateKey
        let exported ← outside (a.crypto.exportKey throwaway)
        let wrapped ← outside (a.anchor.wrap c.groupId exported)
        pure wrapped.keyId
    learn keyId
    return keyId

end

end Client

end EnvelopeStore
