import EnvelopeStore.Binary64.Basic

/-!
# Values

What a document denotes, what a remote party answers and what a caller hands in unchecked: values of
every kind, the fields of an object in the order in which they were first given.
-/

namespace EnvelopeStore

/-- A value of any kind. -/
inductive Value where
  | null
  | bool (b : Bool)
  | int (n : Int)
  | float (x : Binary64)
  | text (t : Text)
  | bytes (b : Bytes)
  | buffer (b : Bytes)
  | list (items : List Value)
  | object (fields : List (Text × Value))
deriving Inhabited

namespace Value

instance : Coe Text Value := ⟨.text⟩

/-- The word for the kind of a value in messages. -/
def kind : Value → Text
  | .null => "NoneType"
  | .bool _ => "bool"
  | .int _ => "int"
  | .float _ => "float"
  | .text _ => "str"
  | .bytes _ => "bytes"
  | .buffer _ => "bytearray"
  | .list _ => "list"
  | .object _ => "dict"

/-- Whether a value counts as given: absence, no, zero and whatever is empty do not. -/
def isGiven : Value → Bool
  | .null => false
  | .bool b => b
  | .int n => n != 0
  | .float x => !x.isZero
  | .text t => !t.isEmpty
  | .bytes b => !b.isEmpty
  | .buffer b => !b.isEmpty
  | .list items => !items.isEmpty
  | .object fields => !fields.isEmpty

/-- Whether a value is the given whole number; yes and no are the numbers one and zero. -/
def equalsInt : Value → Int → Bool
  | .bool b, n => (if b then 1 else 0) == n
  | .int m, n => m == n
  | .float x, n => x.equalsInt n
  | _, _ => false

def equalsText : Value → Text → Bool
  | .text t, u => t == u
  | _, _ => false

def text? : Value → Option Text
  | .text t => some t
  | _ => none

/-- How many parts a value has, if it is one that has parts. -/
def length? : Value → Option Nat
  | .text t => some t.length
  | .bytes b | .buffer b => some b.length
  | .list items => some items.length
  | .object fields => some fields.length
  | _ => none

def ofOption : Option Value → Value := (·.getD .null)

end Value

abbrev Fields := List (Text × Value)

namespace Fields

def get? (fields : Fields) (name : Text) : Option Value := fields.lookup name

def getD (fields : Fields) (name : Text) (default : Value) : Value :=
  (fields.get? name).getD default

def has (fields : Fields) (name : Text) : Bool := fields.any (·.1 == name)

/-- Gives a field a value: in its place when there is one of that name, else at the end. -/
def put (fields : Fields) (name : Text) (value : Value) : Fields :=
  match fields with
  | [] => [(name, value)]
  | (n, v) :: rest => if n = name then (n, value) :: rest else (n, v) :: put rest name value

def ofList (pairs : List (Text × Value)) : Fields :=
  pairs.foldl (fun fields (name, value) => fields.put name value) []

end Fields

def Value.fields : Value → Fields
  | .object fields => fields
  | _ => []

end EnvelopeStore
