import EnvelopeStore.Failure

/-!
# Bindings

What is kept under keys, each key once and in the order in which the keys came first. Keys are
values of any kind that cannot change; a number is the same key whatever kind of number it is.
Under texts, bindings are a finite map.
-/

namespace EnvelopeStore

namespace Value

/-- Whether something can be kept under a value: not under what may change. -/
def isKey : Value → Bool
  | .buffer _ | .list _ | .object _ => false
  | _ => true

/-- Whether two values are the same key. Numbers count by what they are worth, so that yes is one;
what is not a number is not even the same as itself. -/
def isSame : Value → Value → Bool
  | .null, .null => true
  | .text t, .text u => t == u
  | .bytes b, .bytes c => b == c
  | .float x, .float y => x.equals y
  | .bool b, v => v.equalsInt (if b then 1 else 0)
  | .int n, v => v.equalsInt n
  | .float x, .bool b => x.equalsInt (if b then 1 else 0)
  | .float x, .int n => x.equalsInt n
  | _, _ => false

@[simp] theorem isSame_text (v : Value) (t : Text) : v.isSame (.text t) = true ↔ v = .text t := by
  cases v <;> simp [isSame, equalsInt]

def checkKey (v : Value) : Except Failure Unit :=
  if v.isKey then .ok () else .error (.shape (.notKey v.kind))

@[simp] theorem checkKey_text (t : Text) : checkKey (.text t) = .ok () := rfl

end Value

/-- What is kept under keys. -/
abbrev Bindings (α : Type) := List (Value × α)

namespace Bindings

variable {α : Type}

def keys (m : Bindings α) : List Value := m.map (·.1)

/-- What is kept under a key. -/
def get? : Bindings α → Value → Option α
  | [], _ => none
  | (k, a) :: rest, key => if k.isSame key then some a else get? rest key

/-- Keeps something under a key: in the place of what is there, else at the end. -/
def insert : Bindings α → Value → α → Bindings α
  | [], key, a => [(key, a)]
  | (k, b) :: rest, key, a =>
    if k.isSame key then (k, a) :: rest else (k, b) :: insert rest key a

def erase : Bindings α → Value → Bindings α
  | [], _ => []
  | (k, a) :: rest, key => if k.isSame key then erase rest key else (k, a) :: erase rest key

def lookup (m : Bindings α) (key : Value) : Except Failure (Option α) :=
  match key.checkKey with
  | .ok () => .ok (m.get? key)
  | .error failure => .error failure

def find (m : Bindings α) (key : Value) : Except Failure α :=
  match m.lookup key with
  | .ok (some a) => .ok a
  | .ok none => .error (.shape (.missingKey key))
  | .error failure => .error failure

@[simp] theorem lookup_text (m : Bindings α) (t : Text) :
    m.lookup (.text t) = .ok (m.get? (.text t)) := rfl

theorem get?_insert_text (m : Bindings α) (s t : Text) (a : α) :
    (m.insert (.text s) a).get? (.text t) = if s = t then some a else m.get? (.text t) := by
  induction m with
  | nil => by_cases h : s = t <;> simp [insert, get?, h]
  | cons head rest ih =>
    obtain ⟨k, b⟩ := head
    by_cases hk : k = .text s
    · by_cases h : s = t <;> simp [insert, get?, hk, h]
    · by_cases ht : k = .text t
      · have h : s ≠ t := fun h => hk (by rw [h, ht])
        simp [insert, get?, ht, h, h.symm]
      · simp [insert, get?, hk, ht, ih]

theorem get?_erase_text (m : Bindings α) (s t : Text) :
    (m.erase (.text s)).get? (.text t) = if s = t then none else m.get? (.text t) := by
  induction m with
  | nil => simp [erase, get?]
  | cons head rest ih =>
    obtain ⟨k, b⟩ := head
    by_cases hk : k = .text s
    · by_cases h : s = t
      · subst h
        simpa [erase, hk] using ih
      · simp [erase, get?, hk, h, ih]
    · by_cases ht : k = .text t
      · have h : s ≠ t := fun h => hk (by rw [h, ht])
        simp [erase, get?, ht, h, h.symm]
      · simp [erase, get?, hk, ht, ih]

end Bindings

end EnvelopeStore
