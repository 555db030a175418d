import EnvelopeStore.Storage.Memory

/-!
# Unreliable storage

Storage in memory with the weaknesses of a remote one: operations that fail, entries that are not
yet visible, and listings that are not what was asked for.
-/

namespace EnvelopeStore

/-- The operations of a store, by name. -/
inductive StorageOperation
  | set
  | get
  | delete
  | list
deriving DecidableEq

/-- Storage in memory with its weaknesses. -/
structure Unreliable where
  memory : Memory
  failing : List StorageOperation
  message : Text
  lag : Nat
  listing : Option (List Value)
  /-- How many reads there were; those that failed do not count. -/
  reads : Nat

namespace Unreliable

def reliable : Unreliable := ⟨.empty, [], "backend unavailable", 0, none, 0⟩

def memoryPart : Part Unreliable Memory := ⟨memory, fun m u => { u with memory := m }⟩

def attempt (operation : StorageOperation) : Action Unreliable Unit := do
  let u ← get
  if u.failing.contains operation then throw (.storage (.unavailable u.message))

def storage : Storage Unreliable where
  set key e := do
    attempt .set
    (Memory.storage.set key e).on memoryPart
  get key := do
    attempt .get
    modify fun u => { u with reads := u.reads + 1 }
    if (← get).reads ≤ (← get).lag then return none
    (Memory.storage.get key).on memoryPart
  delete key := do
    attempt .delete
    (Memory.storage.delete key).on memoryPart
  list start := do
    attempt .list
    match (← get).listing with
    | some keys => return keys
    | none => (Memory.storage.list start).on memoryPart

end Unreliable

end EnvelopeStore
