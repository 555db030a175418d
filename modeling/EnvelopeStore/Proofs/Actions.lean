import EnvelopeStore.Action
import Mathlib.Tactic.Lemma

/-!
# Results of actions

How the result of an action comes from the results of its parts. A failure ends the whole with the
state that it left; so each step of a program is taken by one of two rules.
-/

namespace EnvelopeStore.Proofs

section

variable {σ ω α β : Type} {s s' : σ} {x : Action σ α} {f : α → Action σ β} {a : α}
  {failure : Failure}

@[simp] lemma result_pure (a : α) (s : σ) :
    Action.result (pure a : Action σ α) s = (.ok a, s) := rfl

@[simp] lemma result_throw (failure : Failure) (s : σ) :
    Action.result (throw failure : Action σ α) s = (.error failure, s) := rfl

@[simp] lemma result_get (s : σ) : Action.result (get : Action σ σ) s = (.ok s, s) := rfl

@[simp] lemma result_set (t s : σ) : Action.result (set t : Action σ PUnit) s = (.ok ⟨⟩, t) := rfl

@[simp] lemma result_modify (g : σ → σ) (s : σ) :
    Action.result (modify g : Action σ PUnit) s = (.ok ⟨⟩, g s) := rfl

lemma result_ofExcept (r : Except Failure α) (s : σ) :
    (Action.ofExcept r : Action σ α).result s = (r, s) := by
  cases r <;> rfl

lemma outcome_cases (x : Action σ α) (w : σ) :
    (∃ failure w', x.result w = (.error failure, w')) ∨ ∃ a w', x.result w = (.ok a, w') := by
  cases h : x.result w with
  | mk r w' =>
    cases r with
    | error failure => exact .inl ⟨failure, w', rfl⟩
    | ok a => exact .inr ⟨a, w', rfl⟩

lemma bind_eq_ok_iff {x : Except Failure α} {f : α → Except Failure β} {b : β} :
    (x >>= f) = .ok b ↔ ∃ a, x = .ok a ∧ f a = .ok b := by
  cases x with
  | error failure => exact iff_of_false nofun (by simp)
  | ok a => exact ⟨fun h => ⟨a, rfl, h⟩, fun ⟨a', ha, h⟩ => Except.ok.inj ha ▸ h⟩

lemma result_bind_of_ok (h : x.result s = (.ok a, s')) : (x >>= f).result s = (f a).result s' := by
  change Action.result (EStateM.bind x f) s = _
  unfold Action.result EStateM.bind at *
  cases hx : x s with
  | ok b t =>
    simp only [hx, Prod.mk.injEq, Except.ok.injEq] at h
    obtain ⟨rfl, rfl⟩ := h
    rfl
  | error e t => simp [hx] at h

lemma result_bind_of_error (h : x.result s = (.error failure, s')) :
    (x >>= f).result s = (.error failure, s') := by
  change Action.result (EStateM.bind x f) s = _
  unfold Action.result EStateM.bind at *
  cases hx : x s with
  | ok b t => simp [hx] at h
  | error e t =>
    simp only [hx, Prod.mk.injEq, Except.error.injEq] at h
    obtain ⟨rfl, rfl⟩ := h
    rfl

lemma result_on (part : Part ω σ) (x : Action σ α) (w : ω) :
    (x.on part).result w = ((x.result (part.get w)).1, part.put (x.result (part.get w)).2 w) := by
  unfold Action.result Action.on
  cases x (part.get w) <;> rfl

lemma result_map (g : α → β) (x : Action σ α) (s : σ) :
    (g <$> x).result s = ((x.result s).1.map g, (x.result s).2) := by
  change Action.result (EStateM.map g x) s = _
  unfold Action.result EStateM.map
  cases x s <;> rfl

lemma result_map_of {r : Except Failure α} (g : α → β) (h : x.result s = (r, s')) :
    (g <$> x).result s = (r.map g, s') := by
  rw [result_map, h]

end

end EnvelopeStore.Proofs
