import EnvelopeStore.Action

/-!
# Trust anchors

A trust anchor wraps the keys of values under a group, and unwraps them for that group again. It
sees exported keys and wrapped keys only, never a text or a ciphertext.
-/

namespace EnvelopeStore

/-- A key wrapped for a group, with the id of the group's key. -/
structure WrappedKey where
  wrappedKey : Text
  keyId : Text
deriving DecidableEq

/-- A key unwrapped again. An anchor gives back what it was given to wrap, whatever that was. -/
structure UnwrappedKey where
  plainKey : Value
  keyId : Text

/-- An unwrapped key in messages, without the key: only the key id is shown. -/
def UnwrappedKey.displayOf (keyId : Value) : Text :=
  "UnwrappedKey(key_id=" ++ keyId.quoted ++ ")"

def UnwrappedKey.display (u : UnwrappedKey) : Text := displayOf (.text u.keyId)

/-- The operations of a trust anchor. Groups and keys are texts; nobody has checked yet that they
are. -/
structure TrustAnchor (σ : Type) where
  wrap : Value → Value → Action σ WrappedKey
  unwrap : Value → Value → Action σ UnwrappedKey
  /-- Looks up the id of a group's key, where the anchor can do that without wrapping. -/
  lookup? : Option (Value → Action σ Text)

def TrustAnchor.on {ω σ : Type} (part : Part ω σ) (a : TrustAnchor σ) : TrustAnchor ω where
  wrap group key := (a.wrap group key).on part
  unwrap group wrapped := (a.unwrap group wrapped).on part
  lookup? := a.lookup?.map fun lookup group => (lookup group).on part

def TrustAnchor.wrapOnly {σ : Type} (a : TrustAnchor σ) : TrustAnchor σ :=
  { a with lookup? := none }

end EnvelopeStore
