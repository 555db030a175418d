import EnvelopeStore.Value.Basic

/-!
# Forms

What is made from parts that are given by name. Each form has parts of its own, which every maker
supplies, and names the other parts that it takes; any further name is a misfit.
-/

namespace EnvelopeStore

/-- What is made from parts by name. -/
inductive Form
  | entry
  | limits
  | keyManager
  | transaction
  | service
deriving DecidableEq

namespace Form

def name : Form → Text
  | .entry => "EncryptedEntry.__init__"
  | .limits => "ResourceLimits.__init__"
  | .keyManager => "OutLayerTrustAnchor.__init__"
  | .transaction => "OutLayerTrustAnchor.build_transaction"
  | .service => "FastKVStorage.__init__"

def longName : Form → Text
  | .entry => "privatekv.entry.EncryptedEntry"
  | .limits => "privatekv.outlayer.ResourceLimits"
  | .keyManager => "privatekv.outlayer.OutLayerTrustAnchor"
  | .transaction => "privatekv.outlayer.OutLayerTrustAnchor.build_transaction"
  | .service => "privatekv.fastkv.FastKVStorage"

def supplied : Form → List Text
  | .entry | .limits => ["self"]
  | .keyManager => ["self", "sign_transaction"]
  | .transaction => ["self", "action"]
  | .service => ["self", "api_url", "account_id"]

def parts : Form → List Text
  | .entry => ["wrapped_key", "ciphertext", "key_id", "algorithm", "version"]
  | .limits => ["max_instructions", "max_memory_mb", "max_execution_seconds"]
  | .keyManager =>
    ["network", "contract_id", "key_manager_repo", "key_manager_version", "build_target",
      "resource_limits", "gas", "deposit"]
  | .transaction => []
  | .service => ["contract_id", "timeout"]

def takes (form : Form) (part : Text) : Bool :=
  if form = .transaction then !form.supplied.contains part else form.parts.contains part

def misfit? (form : Form) (given : Fields) : Option Text :=
  (given.map (·.1)).find? fun part => !form.takes part

end Form

end EnvelopeStore
