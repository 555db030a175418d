import EnvelopeStore.Bindings

/-!
# Listings

Which of the keys of a store start with something, in order. Texts start with texts and bytes with
bytes; to ask for anything else is a fault, that of the first key for which it is one. Under texts,
a listing is the sorted list of those that start with a text.
-/

namespace EnvelopeStore

def Value.startsWith : Value → Value → Except ShapeFault Bool
  | .text t, .text start => .ok (t.startsWith start)
  | .text _, start => .error (.notStart (Value.text []).kind start.kind)
  | .bytes b, .bytes start | .bytes b, .buffer start => .ok (start.isPrefixOf b)
  | .bytes _, start => .error (.notStart (Value.bytes []).kind start.kind)
  | v, _ => .error (.noPart v.kind "startswith")

namespace Listing

def rank : Value → Text
  | .text t => t
  | .bytes b => b.map fun x => CodePoint.ofNat x.toNat
  | _ => []

def sort (keys : List Value) : List Value :=
  keys.mergeSort fun a b => Text.le (rank a) (rank b)

/-- Those of the keys that start with a value. -/
def select (start : Value) : List Value → Except ShapeFault (List Value)
  | [] => .ok []
  | key :: rest =>
    match key.startsWith start with
    | .error fault => .error fault
    | .ok true => (select start rest).map (key :: ·)
    | .ok false => select start rest

def keysFrom (start : Value) (keys : List Value) : Except Failure (List Value) :=
  match select start keys with
  | .ok found => .ok (sort found)
  | .error fault => .error (.shape fault)

theorem select_text (start : Text) (ts : List Text) :
    select (.text start) (ts.map .text) = .ok ((ts.filter (·.startsWith start)).map .text) := by
  induction ts with
  | nil => rfl
  | cons t rest ih =>
    cases h : t.startsWith start <;> simp [select, Value.startsWith, h, ih, Except.map]

theorem sort_text (ts : List Text) : sort (ts.map .text) = (Text.sort ts).map .text := by
  have h : (ts.mergeSort Text.le).map Value.text = (ts.map Value.text).mergeSort _ :=
    List.map_mergeSort (s := fun a b => Text.le (rank a) (rank b)) fun _ _ _ _ => rfl
  exact h.symm

theorem keysFrom_text (start : Text) (ts : List Text) :
    keysFrom (.text start) (ts.map .text) =
      .ok ((Text.sort (ts.filter (·.startsWith start))).map .text) := by
  rw [keysFrom, select_text]
  simp [sort_text]

end Listing

end EnvelopeStore
