import EnvelopeStore.Storage.Basic
import EnvelopeStore.Storage.Listing

/-!
# Storage in memory

A finite map from keys to entries, listed in the order of the keys. Clients use texts as keys; other
callers may use whatever something can be kept under.
-/

namespace EnvelopeStore

/-- The entries of a map, each key once. -/
structure Memory where
  bindings : Bindings Entry

namespace Memory

def empty : Memory := ⟨[]⟩

def get? (m : Memory) (key : Value) : Option Entry := m.bindings.get? key

def erase (m : Memory) (key : Value) : Memory := ⟨m.bindings.erase key⟩

/-- With an entry for a key, in place of any earlier one. -/
def insert (m : Memory) (key : Value) (e : Entry) : Memory := ⟨m.bindings.insert key e⟩

def size (m : Memory) : Nat := m.bindings.length

def keysFrom (m : Memory) (start : Value) : Except Failure (List Value) :=
  Listing.keysFrom start m.bindings.keys

/-- A map as a store, which fails only if it is asked for what cannot be a key. When there is
nothing to delete, nobody looks at the key. -/
def storage : Storage Memory where
  set key e := do
    Action.ofExcept key.checkKey
    modify (·.insert key e)
    return {}
  get key := do Action.ofExcept ((← get).bindings.lookup key)
  delete key := do
    if (← get).size ≠ 0 then
      Action.ofExcept key.checkKey
      modify (·.erase key)
    return {}
  list start := do Action.ofExcept ((← get).keysFrom start)

end Memory

end EnvelopeStore
