import EnvelopeStore.Proofs.Tasks

/-!
# Clients that take turns

Any number of clients share a world, each on adapters of its own. Whatever a client does in its turn
goes on from where the last one left the world; only the key id that it knows is its own.
-/

namespace EnvelopeStore.Proofs

/-- Clients in a world of any kind, each with the key id that it knows. -/
structure Crew (ι σ : Type) where
  world : σ
  known : ι → Option Text

lemma runs_ofExcept {σ α : Type} {x r : Except Failure α} (h : x = r) (s : Client.State σ) :
    Runs (Action.ofExcept x) (Action.ofExcept x) s [] r s := by
  subst h
  refine ⟨result_ofExcept _ _, ?_⟩
  intro before
  rw [result_ofExcept, List.append_nil]

lemma callsOf_of_runs {σ : Type} {a : Adapters σ} {c : Client} {s s' : Client.State σ}
    {calls : List Call} {r : Except Failure Response} (task : Task)
    (h : Runs (doTask a c task) (doTask (notedAdapters a) c task) s calls r s') :
    callsOf a c s task = calls ∧ (doTask a c task).result s = (r, s') ∧
      afterTask a c s task = s' := by
  refine ⟨?_, h.plain, ?_⟩
  · rw [callsOf, h.noted]
    rfl
  · rw [afterTask, h.plain]

namespace Crew

variable {ι σ : Type}

def start (w : σ) : Crew ι σ := ⟨w, fun _ => none⟩

/-- The world as one of the clients finds it. -/
def view (crew : Crew ι σ) (i : ι) : Client.State σ := ⟨crew.world, crew.known i⟩

variable [DecidableEq ι]

def part (i : ι) : Part (Crew ι σ) (Client.State σ) where
  get crew := crew.view i
  put s crew := ⟨s.world, Function.update crew.known i s.keyId⟩

variable (a : ι → Adapters σ) (c : ι → Client)

/-- One of the clients does a task. -/
def step (crew : Crew ι σ) (turn : ι × Task) : Except Failure Response × Crew ι σ :=
  ((doTask (a turn.1) (c turn.1) turn.2).on (part turn.1)).result crew

def calls (crew : Crew ι σ) (turn : ι × Task) : List Call :=
  callsOf (a turn.1) (c turn.1) (crew.view turn.1) turn.2

def after (crew : Crew ι σ) : List (ι × Task) → Crew ι σ
  | [] => crew
  | turn :: rest => (crew.step a c turn).2.after rest

/-- All calls that one of the clients makes in its turns. -/
def callsBy (i : ι) (crew : Crew ι σ) : List (ι × Task) → List Call
  | [] => []
  | turn :: rest =>
    (if turn.1 = i then crew.calls a c turn else []) ++ (crew.step a c turn).2.callsBy i rest

lemma step_eq (crew : Crew ι σ) (i : ι) (task : Task) :
    crew.step a c (i, task) =
      (((doTask (a i) (c i) task).result (crew.view i)).1,
        (part i).put (afterTask (a i) (c i) (crew.view i) task) crew) :=
  result_on (part i) (doTask (a i) (c i) task) crew

lemma view_step (crew : Crew ι σ) (i : ι) (task : Task) :
    (crew.step a c (i, task)).2.view i = afterTask (a i) (c i) (crew.view i) task := by
  rw [step_eq]
  unfold view part
  simp only [Function.update_self]

lemma known_step_of_ne (crew : Crew ι σ) {i j : ι} (h : i ≠ j) (task : Task) :
    (crew.step a c (j, task)).2.known i = crew.known i := by
  rw [step_eq]
  exact Function.update_of_ne h _ _

lemma step_eq_self {crew : Crew ι σ} {i : ι} {r : Except Failure Response} (task : Task)
    (h : (doTask (a i) (c i) task).result (crew.view i) = (r, crew.view i)) :
    crew.step a c (i, task) = (r, crew) := by
  rw [step_eq, afterTask, h]
  unfold part view
  simp only [Function.update_eq_self]

end Crew

end EnvelopeStore.Proofs
