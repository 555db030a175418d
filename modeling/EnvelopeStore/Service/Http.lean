import EnvelopeStore.Action
import EnvelopeStore.Text.Blank
import EnvelopeStore.Json.Reader

/-!
# Requests to a service

The four requests that a store behind a web service makes, and what comes back.
-/

namespace EnvelopeStore.Service

/-- How a request is sent. -/
inductive Method
  | get
  | post
deriving DecidableEq

/-- A request as it is sent. -/
structure Request where
  method : Method
  url : Text
  /-- The body of a post, or the parameters of a get. -/
  data : Fields
  timeout : Value

def path : ServiceCall → Text
  | .set => "/v1/kv/set"
  | .get => "/v1/kv/get"
  | .delete => "/v1/kv/delete"
  | .query => "/v1/kv/query"

def method : ServiceCall → Method
  | .set | .delete => .post
  | .get | .query => .get

/-- What comes back. -/
structure Reply where
  status : Int
  body : Text

def Reply.isOk (r : Reply) : Bool := r.status < 400

def Reply.value (r : Reply) : Except Json.Fault Value :=
  match r.body.strip Text.isAsciiSpace with
  | [] => .ok .null
  | t => Json.read t

/-- The other side of a connection. -/
abbrev Transport (σ : Type) := Request → Action σ Reply

end EnvelopeStore.Service
