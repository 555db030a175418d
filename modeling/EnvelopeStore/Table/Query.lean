import EnvelopeStore.Failure
import EnvelopeStore.Text.Alphanumeric

/-!
# Queries

The statements that a store in a table makes, each with its place in the table's life: what it is
called in the database's language, and what is wanted of it.
-/

namespace EnvelopeStore

def Table.replaceable : Value → Except ShapeFault Text
  | .text t => .ok t
  | .bytes _ | .buffer _ => .error .textForBytes
  | v => .error (.noPart v.kind "replace")

/-- The name of a table. Without its underscores it has letters and numbers only, and at least one. -/
structure Table.Name where
  text : Text
  plain : Text.isAlphanumeric (text.filter (· ≠ ('_' : CodePoint))) = true
deriving DecidableEq

namespace Table.Name

def standard : Name := ⟨"privatekv_entries", by decide⟩

def ofText (t : Text) : Except StorageFault Name :=
  if h : Text.isAlphanumeric (t.filter (· ≠ ('_' : CodePoint))) then .ok ⟨t, h⟩
  else .error (.invalidTable t)

def ofValue (v : Value) : Except Failure Name :=
  match replaceable v with
  | .error fault => .error (.shape fault)
  | .ok t =>
    match ofText t with
    | .error fault => .error (.storage fault)
    | .ok name => .ok name

end Table.Name

/-- What is wanted of a connection: that it carries out a statement, or the rows that one finds. -/
inductive Table.Want
  | execute
  | fetchRow
  | fetch
deriving DecidableEq

def Statement.want : Statement → Table.Want
  | .getEntry => .fetchRow
  | .listEntries => .fetch
  | .createSchema | .storeEntry | .deleteEntry | .truncateEntries => .execute

/-- The text of a statement on a table. Arguments stand in it by number. -/
def Statement.sql (table : Table.Name) : Statement → Text
  | .createSchema =>
    "\n            CREATE TABLE IF NOT EXISTS " ++ table.text ++ " (\n" ++
      "                key        TEXT PRIMARY KEY,\n" ++
      "                entry      TEXT NOT NULL,\n" ++
      "                updated_at TIMESTAMPTZ NOT NULL DEFAULT now()\n" ++
      "            )\n        "
  | .storeEntry =>
    "\n            INSERT INTO " ++ table.text ++ " (key, entry, updated_at)\n" ++
      "            VALUES ($1, $2, now())\n" ++
      "            ON CONFLICT (key) DO UPDATE\n" ++
      "            SET entry = EXCLUDED.entry, updated_at = EXCLUDED.updated_at\n        "
  | .getEntry => "SELECT entry FROM " ++ table.text ++ " WHERE key = $1"
  | .deleteEntry => "DELETE FROM " ++ table.text ++ " WHERE key = $1"
  | .listEntries =>
    "SELECT key FROM " ++ table.text ++ " WHERE key LIKE $1 ESCAPE '\\' ORDER BY key"
  | .truncateEntries => "TRUNCATE TABLE " ++ table.text

/-- What a connection is handed: the text of a statement and the arguments in it. -/
structure Table.Query where
  want : Want
  sql : Text
  args : List Value

def Statement.query (table : Table.Name) (statement : Statement) (args : List Value) : Table.Query :=
  ⟨statement.want, statement.sql table, args⟩

end EnvelopeStore
