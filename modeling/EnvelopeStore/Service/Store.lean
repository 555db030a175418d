import EnvelopeStore.Service.Http
import EnvelopeStore.Storage.Basic

/-!
# Storage behind a web service

Each entry is kept as the text of its document, under an account and a contract. A session is
opened when it is first needed, unless the caller brought one, and only a session of its own is
closed. The shape of an answer is not checked beforehand: each part of it is asked for, and an
answer that has no such part fails there.
-/

namespace EnvelopeStore.Service

/-- The service and the owner of the keys. -/
structure Account where
  apiUrl : Text
  accountId : Value
  contractId : Value
  timeout : Value

def defaultContract : Text := "contextual.near"

def defaultTimeout : Value := .float (Binary64.nearest false 30 1)

/-- The account with an owner at an address, with contract and time limit among the options. Only
the address has to be a text; the rest is for the service to judge, and is passed on as it is. -/
def Account.make (apiUrl accountId options : Value) : Except Failure Account := do
  let options ← if options.isGiven then Form.service.partsOf options else pure []
  match apiUrl with
  | .text url =>
    return ⟨url, accountId, options.getD "contract_id" (.text defaultContract),
      options.getD "timeout" defaultTimeout⟩
  | .bytes _ | .buffer _ => throw (.shape .textForBytes)
  | v => throw (.shape (.noPart v.kind "rstrip"))

/-- The address of the service without slashes at its end. -/
def Account.base (account : Account) : Text :=
  account.apiUrl.dropWhileEnd (· = ('/' : CodePoint))

/-- A session with the service. -/
structure Session where
  timeout : Option Value
  closed : Nat

/-- A connection: the other side, the sessions so far, and which of them is in use. -/
structure Connection (σ : Type) where
  peer : σ
  sessions : List Session
  current : Option Nat
  owned : Bool

namespace Connection

/-- Before the first request; sessions are opened when needed. -/
def idle {σ : Type} (peer : σ) : Connection σ := ⟨peer, [], none, true⟩

/-- With a session that the caller brought. -/
def given {σ : Type} (peer : σ) : Connection σ := ⟨peer, [⟨none, 0⟩], some 0, false⟩

def peerPart {σ : Type} : Part (Connection σ) σ := ⟨peer, fun p c => { c with peer := p }⟩

def ready {σ : Type} (timeout : Value) : Action (Connection σ) Unit :=
  modify fun c =>
    match c.current with
    | some _ => c
    | none =>
      { c with sessions := c.sessions ++ [⟨some timeout, 0⟩], current := some c.sessions.length }

def close {σ : Type} : Action (Connection σ) Unit :=
  modify fun c =>
    match c.owned, c.current with
    | true, some i =>
      { c with
        sessions := c.sessions.modify i fun s => { s with closed := s.closed + 1 }
        current := none }
    | _, _ => c

end Connection

/-! ### Parts of an answer -/

/-- A value, or the empty object if it does not count as given. -/
def orEmpty (v : Value) : Value := if v.isGiven then v else .object []

/-- The field of a value, `null` if an object has none of that name. -/
def fieldOf (name : Text) (v : Value) : Except ShapeFault Value :=
  match v with
  | .object fields => .ok (.ofOption (Fields.get? fields name))
  | v => .error (.noPart v.kind "get")

/-- The key in a row of a listing. A row without a key is left out. -/
def keyOf? : Value → Except ShapeFault (Option Value)
  | .object fields => .ok (Fields.get? fields "key")
  | .text t => if Text.hasPart "key" t then .error .fieldOfText else .ok none
  | .list items =>
    if items.any (·.equalsText "key") then .error (.fieldOfSequence "list") else .ok none
  | v => .error (.notContainer v.kind)

def keysOf : List Value → Except ShapeFault (List Value)
  | [] => .ok []
  | row :: rest =>
    match keyOf? row, keysOf rest with
    | .error fault, _ => .error fault
    | _, .error fault => .error fault
    | .ok none, .ok keys => .ok keys
    | .ok (some key), .ok keys => .ok (key :: keys)

/-- The hash in the answer to a write. -/
def receiptOf (answer : Value) : Except ShapeFault Receipt :=
  (fieldOf "txHash" (orEmpty answer)).map fun hash => ⟨hash⟩

/-- The document in the answer to a read, absent if there is none or it is marked as deleted. -/
def documentOf (answer : Value) : Except ShapeFault (Option Value) := do
  let record ← fieldOf "data" (orEmpty answer)
  if !record.isGiven then return none
  if (← fieldOf "isDeleted" record).isGiven then return none
  let document ← fieldOf "value" record
  return if document.isGiven then some document else none

/-- The keys in the answer to a listing. -/
def listingOf (answer : Value) : Except ShapeFault (List Value) := do
  let rows ← fieldOf "data" (orEmpty answer)
  if rows.isGiven then keysOf (← rows.items) else return []

def shaped {α : Type} : Except ShapeFault α → Except Failure α
  | .ok a => .ok a
  | .error fault => .error (.shape fault)

/-! ### The store -/

section

variable {σ : Type} (transport : Transport σ) (account : Account)

/-- What every request carries, and more. -/
def parameters (more : Fields) : Fields :=
  ("accountId", account.accountId) :: ("contractId", account.contractId) :: more

def send (call : ServiceCall) (data : Fields) : Action (Connection σ) Reply := do
  Connection.ready account.timeout
  (transport ⟨method call, account.base ++ path call, data, account.timeout⟩).on Connection.peerPart

/-- The value in a reply that has to be one of success. -/
def accept (call : ServiceCall) (reply : Reply) : Except Failure Value :=
  if reply.isOk then
    match reply.value with
    | .ok v => .ok v
    | .error fault => .error (.document fault)
  else .error (.storage (.refused call reply.status reply.body))

/-- The store. A key that the service does not know has no entry. -/
def storage : Storage (Connection σ) where
  set key e := do
    let document ← Action.ofExcept e.toJson
    let data := parameters account [("key", key), ("value", .text document)]
    let reply ← send transport account .set data
    let answer ← Action.ofExcept (accept .set reply)
    Action.ofExcept (shaped (receiptOf answer))
  get key := do
    let data := parameters account [("key", key), ("fields", .text "value,isDeleted")]
    let reply ← send transport account .get data
    if reply.status = 404 then return none
    let answer ← Action.ofExcept (accept .get reply)
    match ← Action.ofExcept (shaped (documentOf answer)) with
    | none => return none
    | some document => some <$> Action.ofExcept (Entry.ofJson document)
  delete key := do
    let reply ← send transport account .delete (parameters account [("key", key)])
    let answer ← Action.ofExcept (accept .delete reply)
    Action.ofExcept (shaped (receiptOf answer))
  list start := do
    let data := parameters account [("key_prefix", start), ("exclude_deleted", .text "true"),
      ("fields", .text "key")]
    let reply ← send transport account .query data
    let answer ← Action.ofExcept (accept .query reply)
    Action.ofExcept (shaped (listingOf answer))

end

end EnvelopeStore.Service
