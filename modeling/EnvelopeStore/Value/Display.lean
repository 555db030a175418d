import EnvelopeStore.Binary64.Shortest
import EnvelopeStore.Text.Quoted
import EnvelopeStore.Value.Basic

/-!
# Values in messages

The text that stands for a value in a message. A text stands for itself, but is quoted inside a
list or an object, as is every text whose exact content matters.
-/

namespace EnvelopeStore.Value

mutual

def quoted : Value → Text
  | .null => "None"
  | .bool b => if b then "True" else "False"
  | .int n => Text.ofInt n
  | .float x => Binary64.Layout.display.text x
  | .text t => Text.quoted t
  | .bytes b => Text.quotedBytes b
  | .buffer b => Text.quotedBuffer b
  | .list items => "[" ++ Text.join ", " (quotedItems items) ++ "]"
  | .object fields => "\x7b" ++ Text.join ", " (quotedFields fields) ++ "\x7d"

def quotedItems : List Value → List Text
  | [] => []
  | v :: rest => quoted v :: quotedItems rest

def quotedFields : List (Text × Value) → List Text
  | [] => []
  | (name, v) :: rest => (Text.quoted name ++ ": " ++ quoted v) :: quotedFields rest

end

/-- A value as it stands in a message. -/
def display : Value → Text
  | .text t => t
  | v => v.quoted

end EnvelopeStore.Value
