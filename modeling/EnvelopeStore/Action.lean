import EnvelopeStore.Failure

/-!
# Actions

An action runs on a state and ends with a result or a failure; either way the state goes on from
where the action left it. Parts of a larger state let an action on the part run on the whole.
-/

namespace EnvelopeStore

abbrev Action (σ α : Type) := EStateM Failure σ α

namespace Action

/-- Ends with a result that is already there. -/
def ofExcept {σ α : Type} : Except Failure α → Action σ α
  | .ok a => pure a
  | .error failure => throw failure

@[simp] theorem ofExcept_ok {σ α : Type} (a : α) : (ofExcept (.ok a) : Action σ α) = pure a := rfl

@[simp] theorem ofExcept_error {σ α : Type} (failure : Failure) :
    (ofExcept (.error failure) : Action σ α) = throw failure := rfl

def result {σ α : Type} (action : Action σ α) (s : σ) : Except Failure α × σ :=
  match action s with
  | .ok a s' => (.ok a, s')
  | .error failure s' => (.error failure, s')

end Action

/-- A part of a state: how to read it and how to replace it. -/
structure Part (ω σ : Type) where
  get : ω → σ
  put : σ → ω → ω

/-- Runs an action on a part of the state. -/
def Action.on {ω σ α : Type} (part : Part ω σ) (action : Action σ α) : Action ω α := fun w =>
  match action (part.get w) with
  | .ok a s => .ok a (part.put s w)
  | .error failure s => .error failure (part.put s w)

end EnvelopeStore
