import EnvelopeStore.Proofs.Noninterference
import EnvelopeStore.Proofs.Turns
import EnvelopeStore.Storage.Unreliable

/-!
# The key id that a client knows

A client knows the first key id that the trust anchor ever named to it. Each task makes at most one
call of the trust anchor, and what such a call names is remembered at once, so it does not matter
what becomes of the task. The calls of a whole run therefore tell the id.
-/

namespace EnvelopeStore.Proofs

/-! ### Ids that calls name -/

/-- The key id that a call of the trust anchor names when it succeeds. -/
def Call.keyId? : Call → Option Text
  | .wrap _ _ (.ok wrapped) => some wrapped.keyId
  | .unwrap _ _ (.ok unwrapped) => some unwrapped.keyId
  | .lookup _ (.ok keyId) => some keyId
  | _ => none

def Call.isAnchorFailure : Call → Bool
  | .wrap _ _ (.error _) | .unwrap _ _ (.error _) | .lookup _ (.error _) => true
  | _ => false

def Call.isStore : Call → Bool
  | .store .. | .load .. | .erase .. | .list .. => true
  | _ => false

def namedIn (calls : List Call) : List Text := calls.filterMap Call.keyId?

lemma keyId?_of_not_anchor {call : Call} (h : call.isAnchor = false) : call.keyId? = none := by
  cases call <;> first | rfl | simp [Call.isAnchor] at h

lemma isAnchor_of_failure {call : Call} (h : call.isAnchorFailure = true) :
    call.isAnchor = true := by
  cases call <;> first | rfl | simp [Call.isAnchorFailure] at h

lemma keyId?_of_failure {call : Call} (h : call.isAnchorFailure = true) : call.keyId? = none := by
  unfold Call.isAnchorFailure at h
  split at h
  · rfl
  · rfl
  · rfl
  · simp at h

lemma namedIn_append (calls calls' : List Call) :
    namedIn (calls ++ calls') = namedIn calls ++ namedIn calls' := List.filterMap_append

lemma namedIn_filter_isAnchor (calls : List Call) :
    namedIn (calls.filter (·.isAnchor)) = namedIn calls := by
  induction calls with
  | nil => rfl
  | cons call rest ih =>
    by_cases h : call.isAnchor = true
    · rw [List.filter_cons_of_pos h, namedIn, List.filterMap_cons, namedIn, List.filterMap_cons]
      unfold namedIn at ih
      rw [ih]
    · have hnone := keyId?_of_not_anchor (Bool.not_eq_true _ ▸ h)
      rw [List.filter_cons_of_neg h, ih, namedIn, namedIn, List.filterMap_cons_none hnone]

lemma quiet_of_length {calls : List Call} (h : (calls.filter (·.isAnchor)).length ≤ 0) :
    calls.filter (·.isAnchor) = [] ∧ namedIn calls = [] := by
  have hquiet : calls.filter (·.isAnchor) = [] := List.length_eq_zero_iff.mp (Nat.le_zero.mp h)
  refine ⟨hquiet, ?_⟩
  rw [← namedIn_filter_isAnchor, hquiet]
  rfl

/-- Where the trust anchor is called once, and that call fails, no id is named. -/
lemma namedIn_of_failure {calls : List Call} (honce : (calls.filter (·.isAnchor)).length ≤ 1)
    {call : Call} (hmem : call ∈ calls) (hfails : call.isAnchorFailure = true) :
    namedIn calls = [] := by
  have hcall : call ∈ calls.filter (·.isAnchor) :=
    List.mem_filter.mpr ⟨hmem, isAnchor_of_failure hfails⟩
  obtain ⟨other, hother⟩ := List.length_eq_one_iff.mp
    (le_antisymm honce (List.length_pos_of_mem hcall))
  rw [hother] at hcall
  obtain rfl := List.mem_singleton.mp hcall
  have hnone := keyId?_of_failure hfails
  rw [← namedIn_filter_isAnchor, hother, namedIn, List.filterMap_cons_none hnone]
  rfl

section

variable {σ α β : Type}

/-! ### What an action learns -/

/-- An action calls the trust anchor no more than so many times, and remembers the first id that is
named, if none was known. -/
def Learns (most : Nat) (x : Action (Client.State σ) α) (y : Action (Client.State (Noted σ)) α) :
    Prop :=
  ∀ s, ∃ calls r s', Runs x y s calls r s' ∧ (calls.filter (·.isAnchor)).length ≤ most ∧
    s'.keyId = s.keyId.or (namedIn calls).head?

section

variable {x : Action (Client.State σ) α} {y : Action (Client.State (Noted σ)) α}
  {f : α → Action (Client.State σ) β} {g : α → Action (Client.State (Noted σ)) β} {most : Nat}

lemma Learns.mono {more : Nat} (h : Learns most x y) (hle : most ≤ more) : Learns more x y := by
  intro s
  obtain ⟨calls, r, s', hrun, hmost, hlearned⟩ := h s
  exact ⟨calls, r, s', hrun, hmost.trans hle, hlearned⟩

lemma learns_ofExcept (r : Except Failure α) :
    Learns (σ := σ) 0 (Action.ofExcept r) (Action.ofExcept r) := by
  intro s
  exact ⟨[], r, s, runs_ofExcept rfl s, le_refl _, (Option.or_none).symm⟩

lemma learns_pure (a : α) : Learns (σ := σ) 0 (pure a) (pure a) := learns_ofExcept (.ok a)

lemma learns_call {call : Except Failure α → Call} (hcall : ∀ r, (call r).isAnchor = false)
    (x : Action σ α) : Learns 0 (Client.outside x) (Client.outside (noted call x)) := by
  intro s
  refine ⟨_, _, _, runs_call call rfl, ?_, ?_⟩
  · rw [List.filter_cons_of_neg (by simp only [hcall, Bool.false_eq_true, not_false_eq_true])]
    rfl
  · rw [namedIn, List.filterMap_cons_none (keyId?_of_not_anchor (hcall _))]
    exact (Option.or_none).symm

lemma learns_bind (hx : Learns 0 x y) (hf : ∀ a, Learns most (f a) (g a)) :
    Learns most (x >>= f) (y >>= g) := by
  intro s
  obtain ⟨calls, r, s', hrun, hnone, hkept⟩ := hx s
  -- What is done first makes no call of the trust anchor, so it learns nothing.
  obtain ⟨hquiet, hnamed⟩ := quiet_of_length hnone
  rw [hnamed, List.head?_nil, Option.or_none] at hkept
  cases r with
  | error failure =>
    refine ⟨_, _, _, runs_bind_error hrun, hnone.trans (Nat.zero_le _), ?_⟩
    rw [hnamed, List.head?_nil, Option.or_none, hkept]
  | ok a =>
    obtain ⟨more, r', t, hrest, hmost, hlearned⟩ := hf a s'
    refine ⟨_, _, _, runs_bind hrun hrest, ?_, ?_⟩
    · rw [List.filter_append, hquiet]
      exact hmost
    · rw [namedIn_append, hnamed, List.nil_append, hlearned, hkept]

lemma learns_map (h : α → β) (hx : Learns most x y) : Learns most (h <$> x) (h <$> y) := by
  intro s
  obtain ⟨calls, r, s', hrun, hmost, hlearned⟩ := hx s
  exact ⟨_, _, _, runs_map h hrun, hmost, hlearned⟩

lemma learns_told {call : Except Failure α → Call} {idOf : α → Text} (x : Action σ α)
    (hok : ∀ a, (call (.ok a)).keyId? = some (idOf a))
    (herror : ∀ failure, (call (.error failure)).keyId? = none)
    (hf : ∀ a, Learns 0 (f a) (g a)) :
    Learns 1 (Client.outside x >>= fun a => Client.learn (idOf a) >>= fun _ => f a)
      (Client.outside (noted call x) >>= fun a => Client.learn (idOf a) >>= fun _ => g a) := by
  intro s
  have honce : ∀ call : Call, ([call].filter (·.isAnchor)).length ≤ 1 := fun call =>
    List.length_filter_le _ [call]
  obtain ⟨failure, w, h⟩ | ⟨a, w, h⟩ := outcome_cases x s.world
  · refine ⟨_, _, _, runs_bind_error (runs_call call h), honce _, ?_⟩
    rw [namedIn, List.filterMap_cons_none (herror failure)]
    exact (Option.or_none).symm
  -- The rest starts with the id known, and may fail as it likes: it names no other.
  · obtain ⟨calls, r, t, hrest, hnone, hkept⟩ := hf a ⟨w, s.keyId.or (some (idOf a))⟩
    obtain ⟨hquiet, hnamed⟩ := quiet_of_length hnone
    refine ⟨_, _, _, runs_bind (runs_call call h) (runs_bind (runs_learn (idOf a) _) hrest), ?_, ?_⟩
    · rw [List.nil_append, List.filter_append, hquiet, List.append_nil]
      exact honce _
    · rw [List.nil_append, namedIn_append, hnamed, List.append_nil, hkept, hnamed, namedIn,
        List.filterMap_cons_some (hok a)]
      exact Option.or_none

end

/-! ### What a task learns -/

variable (a : Adapters σ) (c : Client)

lemma learns_set (key : Text) (text : Value) :
    Learns 1 (c.set a key text) (c.set (notedAdapters a) key text) := by
  unfold Client.set
  refine learns_bind (learns_call (fun _ => rfl) _) fun valueKey => ?_
  refine learns_bind (learns_call (fun _ => rfl) _) fun ciphertext => ?_
  refine learns_bind (learns_call (fun _ => rfl) _) fun exported => ?_
  refine learns_told _ (fun _ => rfl) (fun _ => rfl) fun wrapped => ?_
  exact learns_call (fun _ => rfl) _

lemma learns_get (key : Text) : Learns 1 (c.get a key) (c.get (notedAdapters a) key) := by
  unfold Client.get
  refine learns_bind (learns_call (fun _ => rfl) _) fun loaded => ?_
  cases loaded with
  | none => exact (learns_pure none).mono (Nat.zero_le 1)
  | some entry =>
    refine learns_told _ (fun _ => rfl) (fun _ => rfl) fun unwrapped => ?_
    refine learns_bind (learns_call (fun _ => rfl) _) fun valueKey => ?_
    exact learns_map some (learns_call (fun _ => rfl) _)

/-- The calls that asking the trust anchor for the key id makes, with the outcome of the whole: one
where it can be looked up, else those that wrap a key. -/
inductive AskCalls (c : Client) : Bool → List Call → Except Failure Text → Prop
  | lookedUp (outcome : Except Failure Text) :
    AskCalls c true [.lookup (.text c.groupId) outcome] outcome
  | noKey (failure : Failure) : AskCalls c false [.generateKey (.error failure)] (.error failure)
  | notExported (throwaway : Key) (failure : Failure) :
    AskCalls c false [.generateKey (.ok throwaway), .exportKey throwaway (.error failure)]
      (.error failure)
  | wrapped (throwaway : Key) (exported : Text) (outcome : Except Failure WrappedKey) :
    AskCalls c false
      [.generateKey (.ok throwaway), .exportKey throwaway (.ok exported),
        .wrap (.text c.groupId) (.text exported) outcome] (outcome.map (·.keyId))

section

variable {c : Client} {direct : Bool} {calls : List Call} {r : Except Failure Text}

lemma AskCalls.once (h : AskCalls c direct calls r) : (calls.filter (·.isAnchor)).length ≤ 1 := by
  cases h <;> simp [Call.isAnchor]

lemma AskCalls.named (h : AskCalls c direct calls r) : (namedIn calls).head? = r.toOption := by
  cases h with
  | lookedUp => cases r <;> rfl
  | noKey failure => rfl
  | notExported throwaway failure => rfl
  | wrapped throwaway exported outcome => cases outcome <;> rfl

lemma AskCalls.not_store (h : AskCalls c direct calls r) :
    ∀ call ∈ calls, call.isStore = false := by
  cases h <;> simp [Call.isStore]

end

lemma ask_runs (s : Client.State σ) :
    ∃ calls r s', Runs (askKeyId a c) (askKeyId (notedAdapters a) c) s calls r s' ∧
      AskCalls c a.anchor.lookup?.isSome calls r ∧ s'.keyId = s.keyId := by
  unfold askKeyId
  cases h : a.anchor.lookup? with
  | some lookup =>
    simp only [notedAdapters, h, Option.map_some]
    exact ⟨_, _, _, runs_call (.lookup (.text c.groupId)) rfl, .lookedUp _, rfl⟩
  | none =>
    simp only [notedAdapters, h, Option.map_none]
    obtain ⟨failure, w, hkey⟩ | ⟨throwaway, w1, hkey⟩ :=
      outcome_cases a.crypto.generateKey s.world
    · exact ⟨_, _, _, runs_bind_error (runs_call .generateKey hkey), .noKey failure, rfl⟩
    have hrun1 := runs_call .generateKey hkey
    obtain ⟨failure, w, hexport⟩ | ⟨exported, w2, hexport⟩ :=
      outcome_cases (a.crypto.exportKey throwaway) w1
    · exact ⟨_, _, _, runs_bind hrun1 <| runs_bind_error <| runs_call (.exportKey _) hexport,
        .notExported throwaway failure, rfl⟩
    have hrun2 := runs_call (.exportKey throwaway) hexport (s := ⟨w1, s.keyId⟩)
    obtain ⟨outcome, w3, hwrap⟩ : ∃ r w,
        (a.anchor.wrap (.text c.groupId) (.text exported)).result w2 = (r, w) := ⟨_, _, rfl⟩
    have hrun3 := runs_map (·.keyId) <|
      runs_call (.wrap (.text c.groupId) (.text exported)) hwrap (s := ⟨w2, s.keyId⟩)
    exact ⟨_, _, _, runs_bind hrun1 <| runs_bind hrun2 hrun3, .wrapped throwaway exported outcome,
      rfl⟩

lemma runs_getKeyId {s s' : Client.State σ} {calls : List Call} {r : Except Failure Text}
    (h : Runs (keyIdOr a c s.keyId) (keyIdOr (notedAdapters a) c s.keyId) s calls r s') :
    Runs (c.getKeyId a) (c.getKeyId (notedAdapters a)) s calls r s' := by
  rw [getKeyId_eq, getKeyId_eq]
  refine ⟨?_, ?_⟩
  · rw [result_bind_of_ok (result_get _), h.plain]
  · intro before
    rw [result_bind_of_ok (result_get _)]
    exact h.noted before

lemma getKeyId_of_known {s : Client.State σ} {id : Text} (h : s.keyId = some id) :
    Runs (c.getKeyId a) (c.getKeyId (notedAdapters a)) s [] (.ok id) s := by
  apply runs_getKeyId
  rw [h]
  exact runs_pure id s

lemma getKeyId_of_unknown {s : Client.State σ} (h : s.keyId = none) :
    ∃ calls r s', Runs (c.getKeyId a) (c.getKeyId (notedAdapters a)) s calls r s' ∧
      AskCalls c a.anchor.lookup?.isSome calls r ∧ s'.keyId = r.toOption := by
  obtain ⟨calls, r, t, hrun, hcalls, hkept⟩ := ask_runs a c s
  cases r with
  | error failure =>
    refine ⟨calls, _, t, ?_, hcalls, hkept.trans h⟩
    apply runs_getKeyId
    rw [h]
    exact runs_bind_error hrun
  | ok id =>
    refine ⟨calls, _, { t with keyId := t.keyId.or (some id) }, ?_, hcalls, ?_⟩
    · have hrest : Runs (keyIdOr a c none) (keyIdOr (notedAdapters a) c none) s
          (calls ++ ([] ++ [])) (.ok id) { t with keyId := t.keyId.or (some id) } :=
        runs_bind hrun (runs_bind (runs_learn id t) (runs_pure id _))
      rw [List.append_nil, List.append_nil] at hrest
      apply runs_getKeyId
      rwa [h]
    · rw [hkept, h]
      rfl

lemma learns_getKeyId : Learns 1 (c.getKeyId a) (c.getKeyId (notedAdapters a)) := by
  intro s
  cases h : s.keyId with
  | some id => exact ⟨_, _, _, getKeyId_of_known a c h, Nat.zero_le 1, h⟩
  | none =>
    obtain ⟨calls, r, s', hrun, hcalls, hknown⟩ := getKeyId_of_unknown a c h
    refine ⟨calls, r, s', hrun, hcalls.once, ?_⟩
    rw [hknown, hcalls.named, Option.none_or]

lemma learns_doTask (task : Task) :
    Learns 1 (doTask a c task) (doTask (notedAdapters a) c task) := by
  cases task with
  | set key text => exact learns_map _ (learns_set a c key _)
  | get key => exact learns_map _ (learns_get a c key)
  | delete key => exact (learns_map _ (learns_call (fun _ => rfl) _)).mono (Nat.zero_le 1)
  | list start =>
    refine (learns_map _ (learns_bind (learns_call (fun _ => rfl) _) fun keys => ?_)).mono
      (Nat.zero_le 1)
    exact learns_bind (learns_ofExcept _) fun own => learns_pure _
  | getKeyId => exact learns_map _ (learns_getKeyId a c)

/-! ### One turn -/

lemma keyId_afterTask (s : Client.State σ) (task : Task) :
    (afterTask a c s task).keyId = s.keyId.or (namedIn (callsOf a c s task)).head? := by
  obtain ⟨calls, r, s', hrun, -, hlearned⟩ := learns_doTask a c task s
  obtain ⟨hcalls, -, hafter⟩ := callsOf_of_runs task hrun
  rw [hafter, hcalls, hlearned]

lemma keyId_of_failure {s : Client.State σ} {task : Task} {call : Call}
    (hcall : call ∈ callsOf a c s task) (hfails : call.isAnchorFailure = true) :
    (afterTask a c s task).keyId = s.keyId := by
  obtain ⟨calls, r, s', hrun, honce, -⟩ := learns_doTask a c task s
  obtain ⟨hcalls, -, -⟩ := callsOf_of_runs task hrun
  rw [← hcalls] at honce
  rw [keyId_afterTask, namedIn_of_failure honce hcall hfails]
  exact Option.or_none

end

/-! ### Any turns -/

/-- What becomes of asking for the key id: a known id is told without any call; else the trust
anchor is asked, and the store never is. -/
structure AsksOnce (known : Option Text) (calls : List Call) (r : Except Failure Response) :
    Prop where
  told : ∀ response, r = .ok response →
    ∃ id, response = .keyId id ∧ known.or (namedIn calls).head? = some id
  silent : ∀ id, known = some id → r = .ok (.keyId id) ∧ calls = []
  not_store : ∀ call ∈ calls, call.isStore = false

section

variable {ι σ : Type} [DecidableEq ι] (a : ι → Adapters σ) (c : ι → Client)

lemma asksOnce (s : Client.State σ) (a : Adapters σ) (c : Client) :
    AsksOnce s.keyId (callsOf a c s .getKeyId) ((doTask a c .getKeyId).result s).1 := by
  cases h : s.keyId with
  | some id =>
    obtain ⟨hcalls, hresult, -⟩ :=
      callsOf_of_runs .getKeyId (runs_map Response.keyId (getKeyId_of_known a c h))
    rw [hcalls, hresult]
    refine ⟨?_, ?_, fun _ h => absurd h List.not_mem_nil⟩
    · rintro _ ⟨rfl⟩
      exact ⟨id, rfl, rfl⟩
    · rintro id' hid
      obtain rfl := Option.some.inj hid
      exact ⟨rfl, rfl⟩
  | none =>
    obtain ⟨calls, r, s', hrun, hask, -⟩ := getKeyId_of_unknown a c h
    obtain ⟨hcalls, hresult, -⟩ :=
      callsOf_of_runs .getKeyId (runs_map Response.keyId hrun)
    rw [hcalls, hresult]
    refine ⟨?_, nofun, hask.not_store⟩
    intro response hok
    rw [hask.named, Option.none_or]
    cases r with
    | error failure => exact absurd hok nofun
    | ok id =>
      obtain rfl : Response.keyId id = response := Except.ok.inj hok
      exact ⟨id, rfl, rfl⟩

lemma known_after (crew : Crew ι σ) (i : ι) (turns : List (ι × Task)) :
    (crew.after a c turns).known i =
      (crew.known i).or (namedIn (crew.callsBy a c i turns)).head? := by
  -- On the turns. An id that was known comes before one of this turn, and that before later ones;
  -- turns of other clients name nothing.
  induction turns generalizing crew with
  | nil => exact (Option.or_none).symm
  | cons turn rest ih =>
    obtain ⟨j, task⟩ := turn
    rw [Crew.after, ih, Crew.callsBy, namedIn_append, List.head?_append]
    by_cases hj : j = i
    · subst hj
      have hknown : (crew.step a c (j, task)).2.known j =
          (crew.known j).or (namedIn (crew.calls a c (j, task))).head? := by
        change ((crew.step a c (j, task)).2.view j).keyId = _
        rw [Crew.view_step, keyId_afterTask]
        rfl
      rw [if_pos rfl, hknown, Option.or_assoc]
    · rw [if_neg hj, Crew.known_step_of_ne a c crew (Ne.symm hj)]
      rfl

/-- In a world that any clients share, on any adapters, whatever fails: each client knows the first
key id that a call of its own ever named, be it by wrapping, by unwrapping or by looking it up, and
even if its task failed afterwards. Asking tells that id; once it is known, asking makes no call and
changes nothing. Asking never turns to the store, a call of the trust anchor that fails does not
count, and what other clients do has no effect on it. -/
theorem first_named_key_id_is_known (w : σ) (before : List (ι × Task)) (i : ι) :
    let crew := (Crew.start w).after a c before
    let known := (namedIn ((Crew.start w).callsBy a c i before)).head?
    crew.known i = known ∧
    AsksOnce known (crew.calls a c (i, .getKeyId)) (crew.step a c (i, .getKeyId)).1 ∧
    (∀ id, known = some id → (crew.step a c (i, .getKeyId)).2 = crew) ∧
    (∀ task, ∀ call ∈ crew.calls a c (i, task), call.isAnchorFailure = true →
      (crew.step a c (i, task)).2.known i = known) ∧
    ∀ j, i ≠ j → ∀ task, (crew.step a c (j, task)).2.known i = known := by
  intro crew known
  have hknown : crew.known i = known := known_after a c (Crew.start w) i before
  refine ⟨hknown, ?_, ?_, ?_, ?_⟩
  · rw [← hknown, Crew.step_eq]
    exact asksOnce (crew.view i) (a i) (c i)
  · intro id hid
    have hview : (crew.view i).keyId = some id := hknown.trans hid
    have hrun := runs_map Response.keyId (getKeyId_of_known (a i) (c i) hview)
    rw [Crew.step_eq_self a c .getKeyId hrun.plain]
  · intro task call hcall hfails
    rw [← hknown]
    change ((crew.step a c (i, task)).2.view i).keyId = _
    rw [Crew.view_step]
    exact keyId_of_failure (a i) (c i) hcall hfails
  · intro j hj task
    rw [Crew.known_step_of_ne a c crew hj, hknown]

end

/-- A text that could not be stored has still told the key id of its group, and a group that is
refused has none. -/
theorem key_id_outlives_failed_set :
    let alice : Client := ⟨"alice", "privatekv", "private", by decide, by decide, by decide⟩
    let bob : Client := ⟨"bob", "privatekv", "private", by decide, by decide, by decide⟩
    let c : Bool → Client := fun isAlice => if isAlice then alice else bob
    let a : Bool → Adapters (World Unreliable Registry) := fun _ =>
      World.adapters Provider.oneShot Unreliable.storage Registry.anchor.wrapOnly
    let w : World Unreliable Registry := ⟨Entropy.ofBytes (List.replicate 76 7),
      { Unreliable.reliable with failing := [.set] }, .start [.text bob.groupId]⟩
    let crew := (Crew.start w).after a c [(true, .set "k" "hi")]
    crew.step a c (true, .getKeyId) = (.ok (.keyId "mock-key-1"), crew) ∧
      (crew.step a c (false, .getKeyId)).2.known true = some (Text.ofString "mock-key-1") ∧
      (crew.step a c (false, .getKeyId)).2.known false = none := by
  intro alice bob c a w crew
  obtain ⟨-, hasks, hsame, -, hothers⟩ :=
    first_named_key_id_is_known a c w [(true, .set "k" "hi")] true
  obtain ⟨-, -, -, hfailure, -⟩ := first_named_key_id_is_known a c w [(true, .set "k" "hi")] false
  have hknown : (namedIn ((Crew.start w).callsBy a c true [(true, .set "k" "hi")])).head? =
      some (Text.ofString "mock-key-1") := by decide +kernel
  have hrefused : (crew.calls a c (false, .getKeyId)).any (·.isAnchorFailure) = true := by
    decide +kernel
  obtain ⟨call, hcall, hfails⟩ := List.any_eq_true.mp hrefused
  refine ⟨Prod.ext (hasks.silent _ hknown).1 (hsame _ hknown), ?_, ?_⟩
  · rw [hothers false (by decide), hknown]
  · rw [hfailure _ call hcall hfails]
    rfl

end EnvelopeStore.Proofs
