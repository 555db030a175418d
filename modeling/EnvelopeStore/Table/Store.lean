import EnvelopeStore.Storage.Basic
import EnvelopeStore.Table.Like
import EnvelopeStore.Table.Pool

/-!
# Storage in a table

One row for each key, with the text of its entry's document. An entry that is stored again replaces
the row, and a deleted one has none.
-/

namespace EnvelopeStore.Table

def column (name : Text) (row : Value) : Except Failure Value :=
  match row with
  | .object fields =>
    match Fields.get? fields name with
    | some v => .ok v
    | none => .error (.shape (.missingKey name))
  | .text _ => .error (.shape .fieldOfText)
  | .list _ => .error (.shape (.fieldOfSequence "list"))
  | .bytes _ => .error (.shape (.fieldOfSequence "byte"))
  | .buffer _ => .error (.shape (.fieldOfSequence "bytearray"))
  | v => .error (.shape (.notSequence v.kind))

/-- The pattern for the keys that start with what should be a text. -/
def pattern (start : Value) : Except Failure Text :=
  match replaceable start with
  | .ok t => .ok (Like.startingWith t)
  | .error fault => .error (.shape fault)

section

variable {σ : Type} (pool : Pool σ) (table : Name)

/-- Makes a statement. What the database refuses is a storage failure. -/
def perform (statement : Statement) (args : List Value) : Action σ Answer := fun s =>
  match pool (statement.query table args) s with
  | .ok answer s' => .ok answer s'
  | .error (.database detail) s' => .error (.storage (.failed statement detail)) s'
  | .error (.lost name message) s' => .error (.transport name message) s'

def ensureSchema : Action σ Unit := do
  let _ ← perform pool table .createSchema []

def truncate : Action σ Unit := do
  let _ ← perform pool table .truncateEntries []

def storage : Storage σ where
  set key e := do
    let document ← Action.ofExcept e.toJson
    let _ ← perform pool table .storeEntry [key, .text document]
    return {}
  get key := do
    match (← perform pool table .getEntry [key]).row with
    | none => return none
    | some row => some <$> Action.ofExcept (column "entry" row >>= Entry.ofJson)
  delete key := do
    let _ ← perform pool table .deleteEntry [key]
    return {}
  list start := do
    let pattern ← Action.ofExcept (pattern start)
    let answer ← perform pool table .listEntries [.text pattern]
    Action.ofExcept (answer.rows.mapM (column "key"))

end

end EnvelopeStore.Table
