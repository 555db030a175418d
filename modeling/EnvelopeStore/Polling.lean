import EnvelopeStore.Action

/-!
# Polling

Reading again and again until a write becomes visible, with a pause between two reads.
-/

namespace EnvelopeStore.Polling

/-- Whether a read shows what is waited for: any text, or a certain one. What is no text is never
shown. -/
def isExpected (expected : Value) (value : Option Text) : Bool :=
  match value, expected with
  | none, _ => false
  | some _, .null => true
  | some v, e => e.equalsText v

def attemptsOf (v : Value) : Except Failure Nat :=
  match v with
  | .int n => if n < 1 then .error (.config (.tooFewAttempts v)) else .ok n.toNat
  | .bool b => if b then .ok 1 else .error (.config (.tooFewAttempts v))
  | .float x =>
    if x.isBelowOne then .error (.config (.tooFewAttempts v))
    else .error (.shape (.notCount v.kind))
  | v => .error (.shape (.notOrdered v.kind))

section

variable {σ : Type} (read : Action σ (Option Text)) (pause : Action σ Unit)

/-- Reads at most so many times. The last read is not followed by a pause. -/
def poll (expected : Value) : (attempts : Nat) → Action σ (Option Text)
  | 0 => return none
  | attempts + 1 => do
    let value ← read
    if isExpected expected value then return value
    if attempts = 0 then return none
    pause
    poll expected attempts

/-- Waits for a text, refused unless there is at least one attempt. -/
def waitForValue (attempts expected : Value) : Action σ (Option Text) := do
  poll read pause expected (← Action.ofExcept (attemptsOf attempts))

end

/-- A state that is watched while polling: how long each pause was. -/
structure Watched (σ : Type) where
  world : σ
  pauses : List Value

def worldPart {σ : Type} : Part (Watched σ) σ := ⟨Watched.world, fun w s => { s with world := w }⟩

/-- A pause that takes no time and is noted down. -/
def notedPause {σ : Type} (interval : Value) : Action (Watched σ) Unit :=
  modify fun s => { s with pauses := s.pauses ++ [interval] }

end EnvelopeStore.Polling
