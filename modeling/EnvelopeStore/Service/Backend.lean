import EnvelopeStore.Json.Writer
import EnvelopeStore.Service.Http
import EnvelopeStore.Storage.Listing

/-!
# Backends

The other side of a connection: one that answers from a script, and one that keeps rows as the
service does. Both remember the requests that they were sent.
-/

namespace EnvelopeStore.Service

/-- What a script holds for one request. -/
inductive Answer
  | reply (reply : Reply)
  | lost (name message : Text)

/-- What a request asks for: its method and the end of its address tell. -/
def Request.call? (r : Request) : Option ServiceCall :=
  [ServiceCall.set, .get, .delete, .query].find? fun call =>
    r.method = Service.method call && (path call).isSuffixOf r.url

/-- What the service keeps for a key. -/
structure Row where
  value : Value
  isDeleted : Bool

/-- The rows of the service. -/
structure Rows where
  rows : Bindings Row
  writes : Nat
  down : Bool

namespace Rows

def empty : Rows := ⟨[], 0, false⟩

def answer (v : Value) : Reply := ⟨200, Json.write v⟩

def field (name : Text) (data : Fields) : Value := Value.ofOption (data.get? name)

def acknowledge (r : Rows) : Reply :=
  answer (.object [("txHash", .text ("tx-" ++ Text.ofNat r.writes))])

def Row.toValue (row : Row) : Value :=
  .object [("value", row.value), ("isDeleted", .bool row.isDeleted)]

def isLive (r : Rows) (key : Value) : Bool :=
  match r.rows.get? key with
  | some row => !row.isDeleted
  | none => false

def liveKeys (r : Rows) (start : Value) : Except Failure (List Value) :=
  (Listing.keysFrom start r.rows.keys).map (·.filter r.isLive)

/-- Carries out a request. -/
def serve (r : Rows) (request : Request) : Except Failure (Reply × Rows) := do
  if r.down then return (⟨503, "backend down"⟩, r)
  let key := field "key" request.data
  match request.call? with
  | none => return (⟨404, "not found"⟩, r)
  | some .set =>
    key.checkKey
    let row : Row := ⟨field "value" request.data, false⟩
    let r := { r with rows := r.rows.insert key row, writes := r.writes + 1 }
    return (r.acknowledge, r)
  | some .delete =>
    let rows := match ← r.rows.lookup key with
      | some _ => r.rows.insert key ⟨.text [], true⟩
      | none => r.rows
    let r := { r with rows := rows, writes := r.writes + 1 }
    return (r.acknowledge, r)
  | some .get =>
    let row ← r.rows.lookup key
    return (answer (.object [("data", .ofOption (row.map Row.toValue))]), r)
  | some .query =>
    let keys ← r.liveKeys (field "key_prefix" request.data)
    return (answer (.object [("data", .list (keys.map fun key => .object [("key", key)]))]), r)

end Rows

/-- How a backend finds its answers. -/
inductive Behaviour
  | scripted (answers : List Answer)
  | rows (rows : Rows)

/-- A backend. -/
structure Backend where
  behaviour : Behaviour
  requests : List Request

namespace Backend

def start (behaviour : Behaviour) : Backend := ⟨behaviour, []⟩

/-- Answers a request. A script that has ended answers with an error. -/
def transport : Transport Backend := fun request => do
  let b ← get
  let requests := b.requests ++ [request]
  match b.behaviour with
  | .rows rows =>
    set { b with requests := requests }
    let (reply, rows) ← Action.ofExcept (rows.serve request)
    set ({ behaviour := .rows rows, requests := requests } : Backend)
    return reply
  | .scripted [] =>
    set { b with requests := requests }
    return ⟨500, "no scripted response"⟩
  | .scripted (.reply reply :: rest) =>
    set { b with behaviour := .scripted rest, requests := requests }
    return reply
  | .scripted (.lost name message :: rest) =>
    set { b with behaviour := .scripted rest, requests := requests }
    throw (.transport name message)

def setDown (down : Bool) (b : Backend) : Backend :=
  match b.behaviour with
  | .rows rows => { b with behaviour := .rows { rows with down := down } }
  | .scripted _ => b

end Backend

end EnvelopeStore.Service
