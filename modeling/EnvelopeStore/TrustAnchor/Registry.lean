import EnvelopeStore.Bindings
import EnvelopeStore.Text.Utf8
import EnvelopeStore.TrustAnchor.Basic

/-!
# A trust anchor in process

A registry of wrapped keys that stands in for a remote anchor. It is not secure: a wrapped key is
an encoding of the key. Groups get their key ids in the order of first use, and a key is unwrapped
only for the group that it was wrapped for.
-/

namespace EnvelopeStore

/-- How often each operation was asked for. -/
structure CallCount where
  wrap : Nat := 0
  unwrap : Nat := 0
  lookup : Nat := 0
deriving DecidableEq

/-- The state of a registry. -/
structure Registry where
  /-- For each wrapped key, the key and the group that it was wrapped for, the last one first. -/
  wrapped : List (Text × (Value × Value))
  keyIds : Bindings Text
  denied : List Value
  calls : CallCount

namespace Registry

def start (denied : List Value) : Registry := ⟨[], [], denied, {}⟩

def isDenied (r : Registry) (group : Value) : Bool := r.denied.any (·.isSame group)

def deny (group : Value) : Action Registry Unit := do
  Action.ofExcept group.checkKey
  modify fun r => { r with denied := group :: r.denied }

def allow (group : Value) : Action Registry Unit := do
  Action.ofExcept group.checkKey
  modify fun r => { r with denied := r.denied.filter (!·.isSame group) }

/-- A registry that refuses the groups that a value lists, and none if nothing is given. -/
def ofDenied (groups : Value) : Except Failure Registry := do
  if !groups.isGiven then return start []
  match groups.items with
  | .error fault => throw (.shape fault)
  | .ok items =>
    items.forM Value.checkKey
    return start items

def authorize (group : Value) : Action Registry Unit := do
  Action.ofExcept group.checkKey
  if (← get).isDenied group then throw (.groupAuthorization (.notMember group))

def nextKeyId (r : Registry) : Text := "mock-key-" ++ Text.ofNat (r.keyIds.length + 1)

/-- The id of a group's key; the first use registers it. -/
def keyIdFor (group : Value) : Action Registry Text := do
  let r ← get
  match r.keyIds.get? group with
  | some keyId => return keyId
  | none =>
    let keyId := r.nextKeyId
    set { r with keyIds := r.keyIds.insert group keyId }
    return keyId

/-- What is encoded as the wrapped key. -/
def marker (key group : Value) (keyId : Text) : Text :=
  "wrapped:" ++ key.display ++ ":" ++ group.display ++ ":" ++ keyId

def wrap (group key : Value) : Action Registry WrappedKey := do
  modify fun r => { r with calls := { r.calls with wrap := r.calls.wrap + 1 } }
  authorize group
  let keyId ← keyIdFor group
  match Text.Utf8.encode (marker key group keyId) with
  | .error fault => throw (.unencodable fault)
  | .ok bytes =>
    let wrapped := Base64.encode bytes
    modify fun r => { r with wrapped := (wrapped, (key, group)) :: r.wrapped }
    return ⟨wrapped, keyId⟩

/-- What a wrapped key stands for. Every wrapped key is a text. -/
def find (r : Registry) (wrapped : Value) : Except Failure (Value × Value) := do
  wrapped.checkKey
  match wrapped.text?.bind fun t => r.wrapped.lookup t with
  | some found => return found
  | none => throw (.trustAnchor .notRecognized)

def unwrap (group wrapped : Value) : Action Registry UnwrappedKey := do
  modify fun r => { r with calls := { r.calls with unwrap := r.calls.unwrap + 1 } }
  authorize group
  let (key, owner) ← Action.ofExcept ((← get).find wrapped)
  if !owner.isSame group then throw (.groupAuthorization (.otherGroup group))
  let keyId ← Action.ofExcept ((← get).keyIds.find group)
  return ⟨key, keyId⟩

def lookup (group : Value) : Action Registry Text := do
  modify fun r => { r with calls := { r.calls with lookup := r.calls.lookup + 1 } }
  authorize group
  keyIdFor group

def anchor : TrustAnchor Registry := ⟨wrap, unwrap, some lookup⟩

end Registry

end EnvelopeStore
