import EnvelopeStore.Action
import EnvelopeStore.Table.Query

/-!
# Database connections

A pool of connections answers queries, or says why it gave no answer.
-/

namespace EnvelopeStore.Table

/-- Why a query gave no answer. -/
inductive PoolFault
  | database (detail : Text)
  | lost (name message : Text)

/-- The answer to a query: a single row if one was found, and all rows. A row is an object with a
field for each column, as far as the database keeps to that. -/
structure Answer where
  row : Option Value := none
  rows : List Value := []

/-- A pool of connections. -/
abbrev Pool (σ : Type) := Query → EStateM PoolFault σ Answer

/-- A pool that answers from a script and remembers the queries. -/
structure Script where
  outcomes : List (Except PoolFault Answer)
  queries : List Query

namespace Script

def start (outcomes : List (Except PoolFault Answer)) : Script := ⟨outcomes, []⟩

def pool : Pool Script := fun query => do
  let s ← get
  let queries := s.queries ++ [query]
  match s.outcomes with
  | [] =>
    set { s with queries := queries }
    return {}
  | .ok answer :: rest =>
    set ({ outcomes := rest, queries := queries } : Script)
    return answer
  | .error fault :: rest =>
    set ({ outcomes := rest, queries := queries } : Script)
    throw fault

end Script

end EnvelopeStore.Table
