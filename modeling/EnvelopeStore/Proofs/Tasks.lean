import EnvelopeStore.Proofs.CallOrder
import EnvelopeStore.Proofs.PlainMap

/-!
# Tasks on any adapters

What a client is asked to do, on whatever adapters it has, and the calls that it makes for it.
-/

namespace EnvelopeStore.Proofs

section

variable {σ α β : Type}

/-- Does a task. -/
def doTask (a : Adapters σ) (c : Client) : Task → Action (Client.State σ) Response
  | .set key text => .receipt <$> c.set a key (.text text)
  | .get key => .text <$> c.get a key
  | .delete key => .receipt <$> c.delete a key
  | .list start => .keys <$> c.list a start
  | .getKeyId => .keyId <$> c.getKeyId a

def afterTask (a : Adapters σ) (c : Client) (s : Client.State σ) (task : Task) : Client.State σ :=
  ((doTask a c task).result s).2

/-- The calls that a task makes. -/
def callsOf (a : Adapters σ) (c : Client) (s : Client.State σ) (task : Task) : List Call :=
  ((doTask (notedAdapters a) c task).result (notedState s [])).2.world.calls

/-- Tasks done one after the other, whether they succeed or fail, each with the calls that it
makes. -/
def record (a : Adapters σ) (c : Client) : Client.State σ → List Task → List (Task × List Call)
  | _, [] => []
  | s, task :: rest => (task, callsOf a c s task) :: record a c (afterTask a c s task) rest

/-! ### Asking for the key id -/

/-- The trust anchor's answer to what the key id of the group is. -/
def askKeyId (a : Adapters σ) (c : Client) : Action (Client.State σ) Text :=
  match a.anchor.lookup? with
  | some lookup => Client.outside (lookup (.text c.groupId))
  | none => do
    let throwaway ← Client.outside a.crypto.generateKey
    let exported ← Client.outside (a.crypto.exportKey throwaway)
    let wrapped ← Client.outside (a.anchor.wrap (.text c.groupId) (.text exported))
    return wrapped.keyId

def keyIdOr (a : Adapters σ) (c : Client) : Option Text → Action (Client.State σ) Text
  | some id => pure id
  | none => do
    let id ← askKeyId a c
    Client.learn id
    return id

lemma getKeyId_eq (a : Adapters σ) (c : Client) :
    c.getKeyId a = get >>= fun s => keyIdOr a c s.keyId := by
  unfold Client.getKeyId
  congr
  funext s
  cases s.keyId with
  | some id => rfl
  | none =>
    simp only [keyIdOr, askKeyId]
    cases a.anchor.lookup? with
    | some lookup => rfl
    | none => simp only [bind_assoc]

/-! ### Noting down calls changes nothing -/

/-- An action and the one that notes down calls always end alike. -/
def Watched (x : Action (Client.State σ) α) (y : Action (Client.State (Noted σ)) α) : Prop :=
  ∀ s, ∃ calls r s', Runs x y s calls r s'

section

variable {x : Action (Client.State σ) α} {y : Action (Client.State (Noted σ)) α}
  {f : α → Action (Client.State σ) β} {g : α → Action (Client.State (Noted σ)) β}

lemma watched_call (call : Except Failure α → Call) (x : Action σ α) :
    Watched (Client.outside x) (Client.outside (noted call x)) :=
  fun _ => ⟨_, _, _, runs_call call rfl⟩

lemma watched_learn (id : Text) :
    Watched (σ := σ) (Client.learn id) (Client.learn id) :=
  fun s => ⟨_, _, _, runs_learn id s⟩

lemma watched_ofExcept (r : Except Failure α) :
    Watched (σ := σ) (Action.ofExcept r) (Action.ofExcept r) := by
  intro s
  refine ⟨[], r, s, result_ofExcept _ _, ?_⟩
  intro before
  rw [result_ofExcept, List.append_nil]

lemma watched_pure (a : α) : Watched (σ := σ) (pure a) (pure a) := watched_ofExcept (.ok a)

lemma watched_bind (hx : Watched x y) (hf : ∀ a, Watched (f a) (g a)) :
    Watched (x >>= f) (y >>= g) := by
  intro s
  obtain ⟨calls, r, s', hrun⟩ := hx s
  cases r with
  | error failure => exact ⟨_, _, _, runs_bind_error hrun⟩
  | ok a =>
    obtain ⟨more, r', t, hrest⟩ := hf a s'
    exact ⟨_, _, _, runs_bind hrun hrest⟩

lemma watched_map (h : α → β) (hx : Watched x y) : Watched (h <$> x) (h <$> y) := by
  intro s
  obtain ⟨calls, r, s', hrun⟩ := hx s
  exact ⟨_, _, _, runs_map h hrun⟩

end

lemma watched_keyId {f : Option Text → Action (Client.State σ) β}
    {g : Option Text → Action (Client.State (Noted σ)) β} (h : ∀ known, Watched (f known) (g known)) :
    Watched (get >>= fun s => f s.keyId) (get >>= fun s => g s.keyId) := by
  intro s
  obtain ⟨calls, r, t, hplain, hnoted⟩ := h s.keyId s
  refine ⟨calls, r, t, ?_, ?_⟩
  · rw [result_bind_of_ok (result_get _), hplain]
  · intro before
    rw [result_bind_of_ok (result_get _)]
    exact hnoted before

variable (a : Adapters σ) (c : Client)

lemma watched_askKeyId : Watched (askKeyId a c) (askKeyId (notedAdapters a) c) := by
  unfold askKeyId
  cases h : a.anchor.lookup? with
  | some lookup =>
    simp only [notedAdapters, h, Option.map_some]
    exact watched_call _ _
  | none =>
    simp only [notedAdapters, h, Option.map_none]
    refine watched_bind (watched_call _ _) fun throwaway => ?_
    refine watched_bind (watched_call _ _) fun exported => ?_
    exact watched_bind (watched_call _ _) fun wrapped => watched_pure _

lemma watched_getKeyId : Watched (c.getKeyId a) (c.getKeyId (notedAdapters a)) := by
  rw [getKeyId_eq, getKeyId_eq]
  refine watched_keyId ?_
  intro known
  cases known with
  | some id => exact watched_pure id
  | none =>
    refine watched_bind (watched_askKeyId a c) fun id => ?_
    exact watched_bind (watched_learn id) fun _ => watched_pure id

lemma watched_doTask (task : Task) : Watched (doTask a c task) (doTask (notedAdapters a) c task) := by
  cases task with
  | set key text =>
    intro s
    obtain ⟨calls, r, s', hrun, -⟩ := set_runs a c key (.text text) s
    exact ⟨_, _, _, runs_map Response.receipt hrun⟩
  | get key =>
    intro s
    obtain ⟨calls, r, s', hrun, -⟩ := get_runs a c key s
    exact ⟨_, _, _, runs_map Response.text hrun⟩
  | delete key => exact watched_map _ (watched_call (.erase _) _)
  | list start =>
    refine watched_map _ (watched_bind (watched_call (.list _) _) ?_)
    intro keys
    exact watched_bind (watched_ofExcept _) fun own => watched_pure _
  | getKeyId => exact watched_map _ (watched_getKeyId a c)

lemma noted_doTask (s : Client.State σ) (task : Task) :
    (doTask (notedAdapters a) c task).result (notedState s []) =
      (((doTask a c task).result s).1, notedState (afterTask a c s task) (callsOf a c s task)) := by
  obtain ⟨calls, r, s', hrun⟩ := watched_doTask a c task s
  have hnoted := hrun.noted []
  rw [callsOf, afterTask, hnoted, hrun.plain]
  rfl

end

end EnvelopeStore.Proofs
