import EnvelopeStore.Bindings
import EnvelopeStore.Json.Source
import EnvelopeStore.Json.Writer
import EnvelopeStore.TrustAnchor.Basic

/-!
# A trust anchor in a remote key manager

Each operation is a transaction that runs the key manager in a trusted environment. What to do and
with which key is in its input, a document; the rest of the transaction is the same for all
operations. The caller's signer submits it and returns the answer, as an object or as a document of
one.
-/

namespace EnvelopeStore.KeyManager

/-- What an execution may use up. -/
structure ResourceLimits where
  maxInstructions : Int := 10000000000
  maxMemoryMb : Int := 128
  maxExecutionSeconds : Int := 60
deriving DecidableEq

def ResourceLimits.toValue (l : ResourceLimits) : Value :=
  .object [("max_instructions", .int l.maxInstructions), ("max_memory_mb", .int l.maxMemoryMb),
    ("max_execution_seconds", .int l.maxExecutionSeconds)]

def networks : List (Text × Text) :=
  [("mainnet", "outlayer.near"), ("testnet", "outlayer.testnet")]

def ResourceLimits.ofParts (v : Value) : Except Failure Value := do
  let given ← if v.isGiven then Form.limits.partsOf v else pure []
  return .object ((ResourceLimits.toValue {}).fields.map fun (part, default) =>
    (part, given.getD part default))

/-- How to reach the key manager. All but the network is for others to judge, and is passed on as it
is. -/
structure Options where
  network : Value := .text "mainnet"
  contractId : Value := .null
  repository : Value := .text "github.com/Kampouse/key-manager"
  version : Value := .text "v0.3.0"
  buildTarget : Value := .text "wasm32-wasip1"
  resourceLimits : Value := ResourceLimits.toValue {}
  gas : Value := .null
  deposit : Value := .text "0.05 NEAR"

def Options.ofParts (v : Value) : Except Failure Options := do
  let limits ← ResourceLimits.ofParts (v.fields.getD "resource_limits" .null)
  let given ← if v.isGiven then Form.keyManager.partsOf v else pure []
  let d : Options := {}
  return {
    network := given.getD "network" d.network
    contractId := given.getD "contract_id" d.contractId
    repository := given.getD "key_manager_repo" d.repository
    version := given.getD "key_manager_version" d.version
    buildTarget := given.getD "build_target" d.buildTarget
    resourceLimits := limits
    gas := given.getD "gas" d.gas
    deposit := given.getD "deposit" d.deposit }

/-- What all transactions share. -/
structure Config where
  contractId : Value
  repository : Value
  version : Value
  buildTarget : Value
  resourceLimits : Value
  gas : Value
  deposit : Value

def contractOf (network : Value) : Except Failure Value := do
  network.checkKey
  match network.text?.bind fun name => networks.lookup name with
  | some contractId => return .text contractId
  | none => throw (.config (.unknownNetwork network))

def Config.ofOptions (o : Options) : Except Failure Config := do
  let contractId ← match o.contractId with
    | .null => contractOf o.network
    | contractId => pure contractId
  return ⟨contractId, o.repository, o.version, o.buildTarget, o.resourceLimits, o.gas, o.deposit⟩

/-- A transaction. -/
structure Transaction where
  config : Config
  input : Text

def Transaction.toValue (t : Transaction) : Value :=
  let source := Value.object [("repo", t.config.repository), ("commit", t.config.version),
    ("build_target", t.config.buildTarget)]
  let args := Value.object [("source", .object [("GitHub", source)]), ("input_data", .text t.input),
    ("resource_limits", t.config.resourceLimits), ("response_format", .text "Json")]
  let gas : Fields := match t.config.gas with
    | .null => []
    | gas => [("gas", gas)]
  let fields : Fields := [("receiver_id", t.config.contractId),
    ("method_name", .text "request_execution"), ("args", args), ("deposit", t.config.deposit)]
  .object (fields ++ gas)

def inputOf (action : Value) (params : Fields) : Value := .object (("action", action) :: params)

/-- The transaction for an action. -/
def transaction (config : Config) (action : Value) (params : Fields) :
    Except Failure Transaction := do
  let input := inputOf action (← Form.transaction.partsOf (.object params))
  match Json.unwritable? input with
  | some kind => throw (.shape (.unwritable kind))
  | none => return ⟨config, Json.write input⟩

/-- The caller's way to submit a transaction. -/
abbrev Signer (σ : Type) := Transaction → Action σ Value

/-- A key manager as a trust anchor: how to reach it, and who signs. -/
structure Handle (σ : Type) where
  config : Config
  signer : Signer σ

def Handle.make {σ : Type} (signer : Option (Signer σ)) (o : Options) :
    Except Failure (Handle σ) :=
  match signer with
  | none => .error (.config .signerMissing)
  | some signer => (Config.ofOptions o).map fun config => ⟨config, signer⟩

/-- The state of the signer, and the key ids that are known by group. -/
structure State (σ : Type) where
  signer : σ
  known : Bindings Text

def signerPart {σ : Type} : Part (State σ) σ := ⟨State.signer, fun s t => { t with signer := s }⟩

/-! ### Answers -/

/-- The fields of an answer, which is an object or a document of one. A document that is too deep is
passed on as it is. -/
def fieldsOf (answer : Value) : Except Failure Fields :=
  let read : Except Json.Fault Value := match answer with
    | .text t => Json.read t
    | .bytes b => Json.readBytes b
    | .buffer b => Json.readBytes b
    | v => .ok v
  match read with
  | .error (.tooDeep container) => .error (.document (.tooDeep container))
  | .error fault => .error (.trustAnchor (.invalidJson fault))
  | .ok (.object fields) => .ok fields
  | .ok v => .error (.trustAnchor (.unexpectedKind v.kind))

def forbidden : Int := 403

def checkError (action : Text) (group : Value) (fields : Fields) : Except Failure Unit :=
  match fields.get? "error" with
  | none => .ok ()
  | some error =>
    let code := Value.ofOption (fields.get? "code")
    if code.equalsInt forbidden then
      .error (.groupAuthorization (.refused group error.display))
    else .error (.trustAnchor (.actionFailed action error.display))

def required (name : Text) (fields : Fields) : Except Failure Text :=
  match fields.get? name with
  | some (.text (c :: t)) => .ok (c :: t)
  | _ => .error (.trustAnchor (.missingField name))

/-! ### Operations -/

section

variable {σ : Type} (handle : Handle σ)

/-- Submits an action for a group and gives the fields of its answer. -/
def call (action : Text) (group : Value) (params : Fields) : Action (State σ) Fields := do
  let params : Fields := ("group_id", group) :: params
  let t ← Action.ofExcept (transaction handle.config (.text action) params)
  let answer ← (handle.signer t).on signerPart
  let fields ← Action.ofExcept (fieldsOf answer)
  Action.ofExcept (checkError action group fields)
  return fields

/-- Remembers the key id of a group if none is known. -/
def learn (group : Value) (keyId : Text) : Action (State σ) Unit := do
  match ← Action.ofExcept ((← get).known.lookup group) with
  | some _ => return
  | none => modify fun s => { s with known := s.known.insert group keyId }

def wrap (group key : Value) : Action (State σ) WrappedKey := do
  let fields ← call handle "wrap_key" group [("plaintext_key_b64", key)]
  let wrappedKey ← Action.ofExcept (required "wrapped_key_b64" fields)
  let keyId ← Action.ofExcept (required "key_id" fields)
  learn group keyId
  return ⟨wrappedKey, keyId⟩

def unwrap (group wrapped : Value) : Action (State σ) UnwrappedKey := do
  let fields ← call handle "unwrap_key" group [("wrapped_key_b64", wrapped)]
  let plainKey ← Action.ofExcept (required "plaintext_key_b64" fields)
  let keyId ← Action.ofExcept (required "key_id" fields)
  return ⟨.text plainKey, keyId⟩

/-- Looks up the id of a group's key, which is asked for once. -/
def lookup (group : Value) : Action (State σ) Text := do
  match ← Action.ofExcept ((← get).known.lookup group) with
  | some keyId => return keyId
  | none =>
    let fields ← call handle "get_group_key_id" group []
    let keyId ← Action.ofExcept (required "key_id" fields)
    learn group keyId
    return keyId

def anchor : TrustAnchor (State σ) := ⟨wrap handle, unwrap handle, some (lookup handle)⟩

end

/-! ### A signer for trials -/

/-- What a script holds for one transaction. -/
inductive Answer
  | value (v : Value)
  | lost (message : Text)

/-- A signer that answers from a script and remembers the transactions. -/
structure Script where
  answers : List Answer
  transactions : List Transaction

def Script.start (answers : List Answer) : Script := ⟨answers, []⟩

def Script.sign : Signer Script := fun t => do
  let s ← get
  let transactions := s.transactions ++ [t]
  match s.answers with
  | [] =>
    set ({ answers := [], transactions := transactions } : Script)
    throw (.transport "ConnectionError" "no scripted response")
  | .value v :: rest =>
    set ({ answers := rest, transactions := transactions } : Script)
    return v
  | .lost message :: rest =>
    set ({ answers := rest, transactions := transactions } : Script)
    throw (.transport "ConnectionError" message)

end EnvelopeStore.KeyManager
