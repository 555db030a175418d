import EnvelopeStore.Action
import EnvelopeStore.Entry

/-!
# Storage

What a client asks of a store. A store sees entries only, never a text or a key.
-/

namespace EnvelopeStore

/-- The acknowledgement of a write, with the hash of the transaction when the store gives one. -/
structure Receipt where
  txHash : Value := .null

/-- The operations of a store. Keys are texts; nobody has checked yet that they are. -/
structure Storage (σ : Type) where
  set : Value → Entry → Action σ Receipt
  get : Value → Action σ (Option Entry)
  delete : Value → Action σ Receipt
  list : Value → Action σ (List Value)

def Storage.on {ω σ : Type} (part : Part ω σ) (s : Storage σ) : Storage ω where
  set key e := (s.set key e).on part
  get key := (s.get key).on part
  delete key := (s.delete key).on part
  list start := (s.list start).on part

end EnvelopeStore
