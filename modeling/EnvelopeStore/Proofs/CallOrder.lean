import EnvelopeStore.Proofs.InProcess
import EnvelopeStore.Service.Backend
import EnvelopeStore.Service.Store
import EnvelopeStore.Table.Store

/-!
# The order of calls

Adapters are watched: each call is noted down with its arguments and its outcome. Reading and
writing are then compared with themselves on watched adapters, one call after the other, whatever
the adapters answer.
-/

namespace EnvelopeStore.Proofs

/-- A call of an adapter, with its arguments and its outcome. -/
inductive Call
  | generateKey (outcome : Except Failure Key)
  | encrypt (text : Value) (key : Key) (outcome : Except Failure Text)
  | exportKey (key : Key) (outcome : Except Failure Text)
  | importKey (exported : Value) (outcome : Except Failure Key)
  | decrypt (ciphertext : Value) (key : Key) (outcome : Except Failure Text)
  | wrap (group key : Value) (outcome : Except Failure WrappedKey)
  | unwrap (group wrapped : Value) (outcome : Except Failure UnwrappedKey)
  | lookup (group : Value) (outcome : Except Failure Text)
  | store (key : Value) (entry : Entry) (outcome : Except Failure Receipt)
  | load (key : Value) (outcome : Except Failure (Option Entry))
  | erase (key : Value) (outcome : Except Failure Receipt)
  | list (start : Value) (outcome : Except Failure (List Value))

def Call.isWrite : Call → Bool
  | .store .. | .erase .. => true
  | _ => false

/-- A state with the calls so far. -/
structure Noted (σ : Type) where
  world : σ
  calls : List Call

section

variable {σ α β : Type}

/-- Runs an action and notes down what it was and what came of it. -/
def noted (call : Except Failure α → Call) (x : Action σ α) : Action (Noted σ) α := fun s =>
  match x s.world with
  | .ok a w => .ok a ⟨w, s.calls ++ [call (.ok a)]⟩
  | .error failure w => .error failure ⟨w, s.calls ++ [call (.error failure)]⟩

def notedAdapters (a : Adapters σ) : Adapters (Noted σ) where
  crypto := {
    generateKey := noted .generateKey a.crypto.generateKey
    exportKey := fun key => noted (.exportKey key) (a.crypto.exportKey key)
    importKey := fun v => noted (.importKey v) (a.crypto.importKey v)
    encrypt := fun v key => noted (.encrypt v key) (a.crypto.encrypt v key)
    decrypt := fun v key => noted (.decrypt v key) (a.crypto.decrypt v key) }
  storage := {
    set := fun key entry => noted (.store key entry) (a.storage.set key entry)
    get := fun key => noted (.load key) (a.storage.get key)
    delete := fun key => noted (.erase key) (a.storage.delete key)
    list := fun start => noted (.list start) (a.storage.list start) }
  anchor := {
    wrap := fun group key => noted (.wrap group key) (a.anchor.wrap group key)
    unwrap := fun group wrapped => noted (.unwrap group wrapped) (a.anchor.unwrap group wrapped)
    lookup? := a.anchor.lookup?.map fun lookup group => noted (.lookup group) (lookup group) }

def notedState (s : Client.State σ) (calls : List Call) : Client.State (Noted σ) :=
  ⟨⟨s.world, calls⟩, s.keyId⟩

/-- An action ends with `r` in the state `s'`; the action that notes down calls does the same, and
the calls that it adds are `calls`. -/
structure Runs (x : Action (Client.State σ) α) (y : Action (Client.State (Noted σ)) α)
    (s : Client.State σ) (calls : List Call) (r : Except Failure α) (s' : Client.State σ) :
    Prop where
  plain : x.result s = (r, s')
  noted : ∀ before, y.result (notedState s before) = (r, notedState s' (before ++ calls))

/-! ### One call -/

lemma noted_result (call : Except Failure α → Call) (x : Action σ α) (w : σ)
    (before : List Call) :
    (noted call x).result ⟨w, before⟩ =
      ((x.result w).1, ⟨(x.result w).2, before ++ [call (x.result w).1]⟩) := by
  unfold Action.result noted
  cases x w <;> rfl

lemma runs_call (call : Except Failure α → Call) {x : Action σ α} {s : Client.State σ}
    {r : Except Failure α} {w : σ} (h : x.result s.world = (r, w)) :
    Runs (Client.outside x) (Client.outside (noted call x)) s [call r] r
      { s with world := w } := by
  refine ⟨?_, ?_⟩
  · rw [result_outside, h]
  · intro before
    rw [result_outside, notedState, noted_result, h]
    rfl

/-! ### One step after the other -/

section

variable {x : Action (Client.State σ) α} {y : Action (Client.State (Noted σ)) α}
  {f : α → Action (Client.State σ) β} {g : α → Action (Client.State (Noted σ)) β}
  {s s' t : Client.State σ} {calls calls' : List Call} {a : α} {failure : Failure}

lemma runs_pure (a : α) (s : Client.State σ) : Runs (pure a) (pure a) s [] (.ok a) s := by
  refine ⟨rfl, ?_⟩
  intro before
  rw [result_pure, List.append_nil]

lemma runs_learn (id : Text) (s : Client.State σ) :
    Runs (Client.learn id) (Client.learn id) s [] (.ok ⟨⟩)
      { s with keyId := s.keyId.or (some id) } := by
  refine ⟨rfl, ?_⟩
  intro before
  rw [learn_result, List.append_nil]
  rfl

lemma runs_bind {r : Except Failure β} (hx : Runs x y s calls (.ok a) s')
    (hf : Runs (f a) (g a) s' calls' r t) : Runs (x >>= f) (y >>= g) s (calls ++ calls') r t := by
  refine ⟨?_, ?_⟩
  · rw [result_bind_of_ok hx.plain, hf.plain]
  · intro before
    rw [result_bind_of_ok (hx.noted before), hf.noted, List.append_assoc]

lemma runs_bind_error (hx : Runs x y s calls (.error failure) s') :
    Runs (x >>= f) (y >>= g) s calls (.error failure) s' := by
  refine ⟨?_, ?_⟩
  · rw [result_bind_of_error hx.plain]
  · intro before
    rw [result_bind_of_error (hx.noted before)]

lemma runs_map {r : Except Failure α} (h : α → β) (hx : Runs x y s calls r s') :
    Runs (h <$> x) (h <$> y) s calls (r.map h) s' := by
  refine ⟨?_, ?_⟩
  · rw [result_map, hx.plain]
  · intro before
    rw [result_map, hx.noted]

end

/-! ### What stays as it is -/

/-- An action leaves alone what a view shows of the state, whether it succeeds or fails. -/
def Keeps {S : Type} (x : Action σ α) (view : σ → S) : Prop :=
  ∀ w, view (x.result w).2 = view w

/-- What a view shows is no business of the cipher and the trust anchor. -/
structure Apart {S : Type} (a : Adapters σ) (view : σ → S) : Prop where
  generateKey : Keeps a.crypto.generateKey view
  encrypt : ∀ text key, Keeps (a.crypto.encrypt text key) view
  exportKey : ∀ key, Keeps (a.crypto.exportKey key) view
  importKey : ∀ v, Keeps (a.crypto.importKey v) view
  decrypt : ∀ v key, Keeps (a.crypto.decrypt v key) view
  wrap : ∀ group key, Keeps (a.anchor.wrap group key) view
  unwrap : ∀ group wrapped, Keeps (a.anchor.unwrap group wrapped) view

/-- Two states differ only in what is the business of the cipher and the trust anchor. -/
def Untouched (a : Adapters σ) (w w' : σ) : Prop :=
  ∀ (S : Type) (view : σ → S), Apart a view → view w' = view w

section

variable {a : Adapters σ} {w w' w'' : σ} {r : Except Failure α}

lemma untouched_refl (a : Adapters σ) (w : σ) : Untouched a w w := fun _ _ _ => rfl

lemma untouched_step {x : Action σ α} (hw : Untouched a w w') (h : x.result w' = (r, w''))
    (hx : ∀ (S : Type) (view : σ → S), Apart a view → Keeps x view) : Untouched a w w'' := by
  intro S view hview
  have hkeeps := hx S view hview w'
  rw [h] at hkeeps
  exact hkeeps.trans (hw S view hview)

end

/-! ### Writing -/

/-- The calls that writing a text makes, with the outcome of the whole: each once and in order, up
to the first that fails. -/
inductive SetCalls (c : Client) (key : Text) (text : Value) :
    List Call → Except Failure Receipt → Prop
  | noKey (failure : Failure) :
    SetCalls c key text [.generateKey (.error failure)] (.error failure)
  | notEncrypted (valueKey : Key) (failure : Failure) :
    SetCalls c key text
      [.generateKey (.ok valueKey), .encrypt text valueKey (.error failure)] (.error failure)
  | notExported (valueKey : Key) (ciphertext : Text) (failure : Failure) :
    SetCalls c key text
      [.generateKey (.ok valueKey), .encrypt text valueKey (.ok ciphertext),
        .exportKey valueKey (.error failure)] (.error failure)
  | notWrapped (valueKey : Key) (ciphertext exported : Text) (failure : Failure) :
    SetCalls c key text
      [.generateKey (.ok valueKey), .encrypt text valueKey (.ok ciphertext),
        .exportKey valueKey (.ok exported),
        .wrap (.text c.groupId) (.text exported) (.error failure)] (.error failure)
  | stored (valueKey : Key) (ciphertext exported : Text) (wrapped : WrappedKey)
      (outcome : Except Failure Receipt) :
    SetCalls c key text
      [.generateKey (.ok valueKey), .encrypt text valueKey (.ok ciphertext),
        .exportKey valueKey (.ok exported),
        .wrap (.text c.groupId) (.text exported) (.ok wrapped),
        .store (.text (c.fullKey key))
          ⟨.text wrapped.wrappedKey, .text ciphertext, .text wrapped.keyId, .text "AES-256-GCM",
            .int 1⟩ outcome] outcome

lemma set_runs (a : Adapters σ) (c : Client) (key : Text) (text : Value) (s : Client.State σ) :
    ∃ calls r s', Runs (c.set a key text) (c.set (notedAdapters a) key text) s calls r s' ∧
      SetCalls c key text calls r ∧
      ((∀ call ∈ calls, call.isWrite = false) → Untouched a s.world s'.world) := by
  have hkeep := untouched_refl a s.world
  obtain ⟨failure, w, hkey⟩ | ⟨valueKey, w1, hkey⟩ := outcome_cases a.crypto.generateKey s.world
  · exact ⟨_, _, _, runs_bind_error (runs_call .generateKey hkey), .noKey failure,
      fun _ => untouched_step hkeep hkey fun _ _ h => h.generateKey⟩
  have hrun1 := runs_call .generateKey hkey
  have hkeep1 := untouched_step hkeep hkey fun _ _ h => h.generateKey
  obtain ⟨failure, w, hencrypt⟩ | ⟨ciphertext, w2, hencrypt⟩ :=
    outcome_cases (a.crypto.encrypt text valueKey) w1
  · exact ⟨_, _, _, runs_bind hrun1 <| runs_bind_error <| runs_call (.encrypt _ _) hencrypt,
      .notEncrypted valueKey failure,
      fun _ => untouched_step hkeep1 hencrypt fun _ _ h => h.encrypt _ _⟩
  have hrun2 := runs_call (.encrypt text valueKey) hencrypt (s := ⟨w1, s.keyId⟩)
  have hkeep2 := untouched_step hkeep1 hencrypt fun _ _ h => h.encrypt _ _
  obtain ⟨failure, w, hexport⟩ | ⟨exported, w3, hexport⟩ :=
    outcome_cases (a.crypto.exportKey valueKey) w2
  · exact ⟨_, _, _, runs_bind hrun1 <| runs_bind hrun2 <| runs_bind_error <|
      runs_call (.exportKey _) hexport, .notExported valueKey ciphertext failure,
      fun _ => untouched_step hkeep2 hexport fun _ _ h => h.exportKey _⟩
  have hrun3 := runs_call (.exportKey valueKey) hexport (s := ⟨w2, s.keyId⟩)
  have hkeep3 := untouched_step hkeep2 hexport fun _ _ h => h.exportKey _
  obtain ⟨failure, w, hwrap⟩ | ⟨wrapped, w4, hwrap⟩ :=
    outcome_cases (a.anchor.wrap (.text c.groupId) (.text exported)) w3
  · exact ⟨_, _, _, runs_bind hrun1 <| runs_bind hrun2 <| runs_bind hrun3 <| runs_bind_error <|
      runs_call (.wrap _ _) hwrap, .notWrapped valueKey ciphertext exported failure,
      fun _ => untouched_step hkeep3 hwrap fun _ _ h => h.wrap _ _⟩
  have hrun4 := runs_call (.wrap (.text c.groupId) (.text exported)) hwrap (s := ⟨w3, s.keyId⟩)
  let entry := Entry.current wrapped.wrappedKey ciphertext wrapped.keyId
  obtain ⟨outcome, w5, hstore⟩ : ∃ r w, (a.storage.set (.text (c.fullKey key)) entry).result w4 =
      (r, w) := ⟨_, _, rfl⟩
  refine ⟨_, _, _, runs_bind hrun1 <| runs_bind hrun2 <| runs_bind hrun3 <| runs_bind hrun4 <|
    runs_bind (runs_learn wrapped.keyId _) <|
    runs_call (.store (.text (c.fullKey key)) entry) hstore,
    .stored valueKey ciphertext exported wrapped outcome, ?_⟩
  intro hwrite
  have hstored := hwrite (.store (.text (c.fullKey key)) entry outcome) (by simp)
  simp [Call.isWrite] at hstored

/-! ### Reading -/

/-- The calls that reading a text makes, with the outcome of the whole: each once and in order, up
to the first that fails, and none but the first if there is no entry. -/
inductive GetCalls (c : Client) (key : Text) : List Call → Except Failure (Option Text) → Prop
  | notLoaded (failure : Failure) :
    GetCalls c key [.load (.text (c.fullKey key)) (.error failure)] (.error failure)
  | absent : GetCalls c key [.load (.text (c.fullKey key)) (.ok none)] (.ok none)
  | notUnwrapped (entry : Entry) (failure : Failure) :
    GetCalls c key
      [.load (.text (c.fullKey key)) (.ok (some entry)),
        .unwrap (.text c.groupId) entry.wrappedKey (.error failure)] (.error failure)
  | notImported (entry : Entry) (unwrapped : UnwrappedKey) (failure : Failure) :
    GetCalls c key
      [.load (.text (c.fullKey key)) (.ok (some entry)),
        .unwrap (.text c.groupId) entry.wrappedKey (.ok unwrapped),
        .importKey unwrapped.plainKey (.error failure)] (.error failure)
  | decrypted (entry : Entry) (unwrapped : UnwrappedKey) (valueKey : Key)
      (outcome : Except Failure Text) :
    GetCalls c key
      [.load (.text (c.fullKey key)) (.ok (some entry)),
        .unwrap (.text c.groupId) entry.wrappedKey (.ok unwrapped),
        .importKey unwrapped.plainKey (.ok valueKey),
        .decrypt entry.ciphertext valueKey outcome] (outcome.map some)

lemma get_runs (a : Adapters σ) (c : Client) (key : Text) (s : Client.State σ) :
    ∃ calls r s', Runs (c.get a key) (c.get (notedAdapters a) key) s calls r s' ∧
      GetCalls c key calls r ∧
      Untouched a ((a.storage.get (.text (c.fullKey key))).result s.world).2 s'.world := by
  obtain ⟨failure, w, hload⟩ | ⟨loaded, w1, hload⟩ :=
    outcome_cases (a.storage.get (.text (c.fullKey key))) s.world
  · rw [hload]
    exact ⟨_, _, _, runs_bind_error (runs_call (.load _) hload), .notLoaded failure,
      untouched_refl a w⟩
  have hrun1 := runs_call (.load (.text (c.fullKey key))) hload
  have hkeep := untouched_refl a w1
  rw [hload]
  cases loaded with
  | none => exact ⟨_, _, _, runs_bind hrun1 (runs_pure none _), .absent, hkeep⟩
  | some entry =>
    obtain ⟨failure, w, hunwrap⟩ | ⟨unwrapped, w2, hunwrap⟩ :=
      outcome_cases (a.anchor.unwrap (.text c.groupId) entry.wrappedKey) w1
    · exact ⟨_, _, _, runs_bind hrun1 <| runs_bind_error <| runs_call (.unwrap _ _) hunwrap,
        .notUnwrapped entry failure, untouched_step hkeep hunwrap fun _ _ h => h.unwrap _ _⟩
    have hrun2 := runs_call (.unwrap (.text c.groupId) entry.wrappedKey) hunwrap
      (s := ⟨w1, s.keyId⟩)
    have hkeep2 := untouched_step hkeep hunwrap fun _ _ h => h.unwrap _ _
    have hlearn := runs_learn unwrapped.keyId ⟨w2, s.keyId⟩
    obtain ⟨failure, w, himport⟩ | ⟨valueKey, w3, himport⟩ :=
      outcome_cases (a.crypto.importKey unwrapped.plainKey) w2
    · exact ⟨_, _, _, runs_bind hrun1 <| runs_bind hrun2 <| runs_bind hlearn <| runs_bind_error <|
        runs_call (.importKey _) himport, .notImported entry unwrapped failure,
        untouched_step hkeep2 himport fun _ _ h => h.importKey _⟩
    have hrun3 := runs_call (.importKey unwrapped.plainKey) himport
      (s := ⟨w2, s.keyId.or (some unwrapped.keyId)⟩)
    have hkeep3 := untouched_step hkeep2 himport fun _ _ h => h.importKey _
    obtain ⟨outcome, w4, hdecrypt⟩ : ∃ r w, (a.crypto.decrypt entry.ciphertext valueKey).result w3 =
        (r, w) := ⟨_, _, rfl⟩
    exact ⟨_, _, _, runs_bind hrun1 <| runs_bind hrun2 <| runs_bind hlearn <| runs_bind hrun3 <|
      runs_map some <| runs_call (.decrypt entry.ciphertext valueKey) hdecrypt,
      .decrypted entry unwrapped valueKey outcome,
      untouched_step hkeep3 hdecrypt fun _ _ h => h.decrypt _ _⟩

lemma getCalls_no_write {c : Client} {key : Text} {calls : List Call}
    {r : Except Failure (Option Text)} (h : GetCalls c key calls r) :
    ∀ call ∈ calls, call.isWrite = false := by
  cases h <;> simp [Call.isWrite]

/-! ### Both -/

/-- The store of a world is apart from cipher and trust anchor: a map in memory, a connection with
the service behind it, or a pool with its database. -/
lemma apart_world {S A : Type} (crypto : Provider Entropy) (storage : Storage S)
    (anchor : TrustAnchor A) : Apart (World.adapters crypto storage anchor) World.store where
  generateKey w := congrArg (World.store ∘ Prod.snd) (result_on World.entropyPart _ w)
  encrypt _ _ w := congrArg (World.store ∘ Prod.snd) (result_on World.entropyPart _ w)
  exportKey _ w := congrArg (World.store ∘ Prod.snd) (result_on World.entropyPart _ w)
  importKey _ w := congrArg (World.store ∘ Prod.snd) (result_on World.entropyPart _ w)
  decrypt _ _ w := congrArg (World.store ∘ Prod.snd) (result_on World.entropyPart _ w)
  wrap _ _ w := congrArg (World.store ∘ Prod.snd) (result_on World.anchorPart _ w)
  unwrap _ _ w := congrArg (World.store ∘ Prod.snd) (result_on World.anchorPart _ w)

/-- Writing and reading make their calls in a fixed order, each at most once, and end with the first
that fails, whatever the adapters answer. Before the store is asked to write, nothing that cipher
and trust anchor leave alone has changed, such as the store of a world with everything behind it;
and reading never asks it to write. -/
theorem set_get_call_order (a : Adapters σ) (c : Client) (key : Text) (text : Value)
    (s : Client.State σ) (before : List Call) :
    let write := (c.set a key text).result s
    let read := (c.get a key).result s
    (∃ calls, (c.set (notedAdapters a) key text).result (notedState s before) =
        (write.1, notedState write.2 (before ++ calls)) ∧
      SetCalls c key text calls write.1 ∧
      ((∀ call ∈ calls, call.isWrite = false) → Untouched a s.world write.2.world)) ∧
    (∃ calls, (c.get (notedAdapters a) key).result (notedState s before) =
        (read.1, notedState read.2 (before ++ calls)) ∧
      GetCalls c key calls read.1 ∧
      (∀ call ∈ calls, call.isWrite = false) ∧
      Untouched a ((a.storage.get (.text (c.fullKey key))).result s.world).2 read.2.world) ∧
    ∀ (S A : Type) (crypto : Provider Entropy) (storage : Storage S) (anchor : TrustAnchor A),
      Apart (World.adapters crypto storage anchor) World.store := by
  intro write read
  obtain ⟨writeCalls, r, s', hwrite, hset, hkeep⟩ := set_runs a c key text s
  obtain ⟨readCalls, r', s'', hread, hget, hkeep'⟩ := get_runs a c key s
  have hwriteResult : write = (r, s') := hwrite.plain
  have hreadResult : read = (r', s'') := hread.plain
  refine ⟨⟨writeCalls, ?_, ?_, ?_⟩, ⟨readCalls, ?_, ?_, ?_, ?_⟩, ?_⟩
  · rw [hwriteResult]
    exact hwrite.noted before
  · rwa [hwriteResult]
  · rwa [hwriteResult]
  · rw [hreadResult]
    exact hread.noted before
  · rwa [hreadResult]
  · exact getCalls_no_write hget
  · rwa [hreadResult]
  · intro S A crypto storage anchor
    exact apart_world crypto storage anchor

/-- Without entropy, writing ends with the first call, and no request reaches the service. -/
theorem set_without_entropy_sends_nothing :
    let c : Client := ⟨"alice", "privatekv", "private", by decide, by decide, by decide⟩
    let service := Service.storage Service.Backend.transport
      ⟨"https://kv", .text "alice", .text "contextual.near", .int 30⟩
    let a := World.adapters Provider.oneShot service Registry.anchor
    let store : Service.Connection Service.Backend := .idle (.start (.rows .empty))
    let write := (c.set a "k" (.text "v")).result
      ⟨⟨Entropy.ofBytes [], store, Registry.start []⟩, none⟩
    write.1 = .error (.crypto .entropyUnavailable) ∧ write.2.world.store = store := by
  intro c service a store write
  obtain ⟨⟨calls, hrun, -, hkeep⟩, -⟩ := set_get_call_order a c "k" (.text "v")
    ⟨⟨Entropy.ofBytes [], store, Registry.start []⟩, none⟩ []
  have hcalls : calls = [.generateKey (.error (.crypto .entropyUnavailable))] :=
    (congrArg (fun run => run.2.world.calls) hrun).symm
  refine ⟨rfl, hkeep ?_ _ World.store (apart_world _ _ _)⟩
  intro call hcall
  rw [hcalls] at hcall
  obtain rfl := List.mem_singleton.mp hcall
  rfl

end

end EnvelopeStore.Proofs
