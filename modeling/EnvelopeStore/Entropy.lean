import EnvelopeStore.Action

/-!
# Entropy

A source of random bytes is an endless tape with a position, and a limit after which it gives no
more. A draw takes the next bytes of the tape, or fails and takes none.
-/

namespace EnvelopeStore

/-- A source of random bytes. -/
structure Entropy where
  tape : Nat → UInt8
  position : Nat
  limit : Option Nat

namespace Entropy

def hasLeft (e : Entropy) (count : Nat) : Bool :=
  match e.limit with
  | none => true
  | some limit => e.position + count ≤ limit

/-- The bytes of the tape from a position on. -/
def segment (e : Entropy) (start count : Nat) : Bytes :=
  (List.range count).map fun i => e.tape (start + i)

/-- Takes the next bytes. -/
def draw (count : Nat) : Action Entropy Bytes := fun e =>
  if e.hasLeft count then
    .ok (e.segment e.position count) { e with position := e.position + count }
  else .error .entropyExhausted e

/-- How many states the generator behind reproducible runs has: `2 ^ 31`. -/
def states : Nat := 2147483648

/-- An affine map on the numbers below `states`: `x` goes to `factor * x + term`. -/
structure Step where
  factor : Nat
  term : Nat

def Step.after (f g : Step) : Step :=
  ⟨f.factor * g.factor % states, (f.factor * g.term + f.term) % states⟩

def Step.iterate (f : Step) (n : Nat) : Step :=
  if n = 0 then ⟨1, 0⟩
  else
    let half := f.iterate (n / 2)
    let twice := half.after half
    if n % 2 = 0 then twice else f.after twice
termination_by n

/-- The step of the generator behind reproducible runs. -/
def generator : Step := ⟨1103515245, 12345⟩

/-- The tape of a seed: byte `n` is taken from the upper half of the state after `n + 1` steps. -/
def seeded (seed : Int) (limit : Option Nat) : Entropy where
  tape n :=
    let step := generator.iterate (n + 1)
    let state := (step.factor * (seed % states).toNat + step.term) % states
    UInt8.ofNat (state / 0x10000 % 0x100)
  position := 0
  limit := limit

def ofBytes (bytes : Bytes) : Entropy where
  tape n := bytes.getD n 0
  position := 0
  limit := some bytes.length

end Entropy

end EnvelopeStore
