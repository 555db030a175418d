import EnvelopeStore.Client
import EnvelopeStore.Service.Store
import EnvelopeStore.TrustAnchor.KeyManager

/-!
# Settings

The configuration of a client and of what it works with, from the variables of an environment. A
variable that is empty counts as not set.
-/

namespace EnvelopeStore

/-- The variables of an environment. They are texts; nobody has checked yet that they are. -/
abbrev Environment := Fields

namespace Environment

/-- The value of a variable that is set to something, or what stands in for it. -/
def given (env : Environment) (name : Text) (default : Value) : Value :=
  let v := Fields.getD env name .null
  if v.isGiven then v else default

end Environment

/-- The settings. Only the limits are read; the rest is passed on as it is. -/
structure Settings where
  accountId : Value
  area : Value
  groupSuffix : Value
  serviceUrl : Value
  serviceContract : Value
  network : Value
  networkContract : Value
  resourceLimits : KeyManager.ResourceLimits
  databaseUrl : Value

namespace Settings

/-- The whole number that a value is or spells. Bytes spell it in ASCII. What is behind the point of
a number is left out. -/
def integer (name : Text) (v : Value) : Except Failure Int :=
  let spelled : Option Int → Except Failure Int
    | some n => .ok n
    | none => .error (.config (.notInteger name v))
  match v with
  | .int n => .ok n
  | .bool b => .ok (if b then 1 else 0)
  | .text t => spelled (Text.integer? t)
  | .bytes b | .buffer b =>
    let t : Text := b.map fun x => CodePoint.ofNat x.toNat
    spelled (if t.all (·.isAscii) then Text.integer? t else none)
  | .float x =>
    if x.isNaN then spelled none
    else if x.isInfinite then .error (.shape .infinite)
    else .ok x.truncate
  | v => .error (.shape (.notNumber v.kind))

/-- A variable that has to hold a positive number, if it is set. -/
def positive (env : Environment) (name : Text) (default : Int) : Except Failure Int := do
  let n ← integer name (env.given name (.int default))
  if n ≤ 0 then throw (.config (.notPositive name n))
  return n

def strippedBytes (b : Bytes) : Bytes :=
  let isSpace (x : UInt8) : Bool := Text.isAsciiSpace (CodePoint.ofNat x.toNat)
  ((b.dropWhile isSpace).reverse.dropWhile isSpace).reverse

def stripped : Value → Except Failure Value
  | .text t => .ok (.text (t.strip Text.isBlank))
  | .bytes b => .ok (.bytes (strippedBytes b))
  | .buffer b => .ok (.buffer (strippedBytes b))
  | v => .error (.shape (.noPart v.kind "strip"))

/-- The settings in an environment. The account is stripped of blanks and has to be there. -/
def ofEnvironment (env : Environment) : Except Failure Settings := do
  let accountId ← stripped (Fields.getD env "PRIVATEKV_ACCOUNT_ID" (.text []))
  if !accountId.isGiven then throw (.config .accountMissing)
  let limits : KeyManager.ResourceLimits := {}
  let maxInstructions ← positive env "OUTLAYER_MAX_INSTRUCTIONS" limits.maxInstructions
  let maxMemoryMb ← positive env "OUTLAYER_MAX_MEMORY_MB" limits.maxMemoryMb
  let maxExecutionSeconds ← positive env "OUTLAYER_MAX_EXECUTION_SECONDS" limits.maxExecutionSeconds
  return {
    accountId := accountId
    area := env.given "PRIVATEKV_NAMESPACE" (.text Client.defaultArea)
    groupSuffix := env.given "PRIVATEKV_GROUP_SUFFIX" (.text Client.defaultGroupSuffix)
    serviceUrl := env.given "FASTKV_API_URL" .null
    serviceContract := env.given "FASTKV_CONTRACT_ID" (.text Service.defaultContract)
    network := env.given "OUTLAYER_NETWORK" (.text "mainnet")
    networkContract := env.given "OUTLAYER_CONTRACT_ID" .null
    resourceLimits := ⟨maxInstructions, maxMemoryMb, maxExecutionSeconds⟩
    databaseUrl := env.given "DATABASE_URL" .null }

/-- The client for the settings. -/
def client (s : Settings) : Except ConfigFault Client :=
  Client.ofValues s.accountId s.area s.groupSuffix

end Settings

end EnvelopeStore
