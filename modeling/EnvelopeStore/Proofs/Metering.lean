import EnvelopeStore.Proofs.Turns

/-!
# Requests for random bytes

The source of random bytes is metered: each request is noted down with the place where the source
stood and the bytes that it gave. A client on metered adapters does what it does on those of its
world, and each of its calls accounts for the requests that were made in it.
-/

namespace EnvelopeStore.Proofs

/-! ### Requests -/

/-- A request for random bytes: where the source stood, how many were asked for, and those that were
given, if any. -/
structure Draw where
  position : Nat
  count : Nat
  bytes : Option Bytes

def Draw.stop (d : Draw) : Nat :=
  match d.bytes with
  | some _ => d.position + d.count
  | none => d.position

/-- Requests made of a source one after the other, and the source after them. Each gets the next
bytes of the tape, or is refused because there are not enough, and then takes none. -/
inductive Consecutive : Entropy → List Draw → Entropy → Prop
  | nil (e : Entropy) : Consecutive e [] e
  | given {e e' : Entropy} {count : Nat} {draws : List Draw} (h : e.hasLeft count = true)
      (rest : Consecutive { e with position := e.position + count } draws e') :
    Consecutive e (⟨e.position, count, some (e.segment e.position count)⟩ :: draws) e'
  | refused {e e' : Entropy} {count : Nat} {draws : List Draw} (h : e.hasLeft count = false)
      (rest : Consecutive e draws e') :
    Consecutive e (⟨e.position, count, none⟩ :: draws) e'

lemma Consecutive.append {e e' e'' : Entropy} {draws draws' : List Draw}
    (h : Consecutive e draws e') (h' : Consecutive e' draws' e'') :
    Consecutive e (draws ++ draws') e'' := by
  induction h with
  | nil e => exact h'
  | given hleft _ ih => exact .given hleft (ih h')
  | refused hleft _ ih => exact .refused hleft (ih h')

lemma Consecutive.position_le {e e' : Entropy} {draws : List Draw} (h : Consecutive e draws e') :
    ∀ d ∈ draws, e.position ≤ d.position := by
  induction h with
  | nil e => exact fun _ hd => absurd hd List.not_mem_nil
  | given hleft _ ih =>
    intro d hd
    obtain rfl | hd := List.mem_cons.mp hd
    · exact le_refl _
    · exact (Nat.le_add_right _ _).trans (ih d hd)
  | refused hleft _ ih =>
    intro d hd
    obtain rfl | hd := List.mem_cons.mp hd
    · exact le_refl _
    · exact ih d hd

lemma Consecutive.pairwise {e e' : Entropy} {draws : List Draw} (h : Consecutive e draws e') :
    draws.Pairwise fun d d' => d.stop ≤ d'.position := by
  induction h with
  | nil e => exact .nil
  | given hleft rest ih => exact .cons (fun d hd => rest.position_le d hd) ih
  | refused hleft rest ih => exact .cons (fun d hd => rest.position_le d hd) ih

/-! ### Metered sources -/

/-- A state with the requests for random bytes so far. -/
structure Metered (σ : Type) where
  world : σ
  draws : List Draw

def Metered.worldPart {σ : Type} : Part (Metered σ) σ :=
  ⟨Metered.world, fun w m => { m with world := w }⟩

def meteredDraw {S A : Type} (count : Nat) : Action (Metered (World S A)) Bytes := fun m =>
  match Entropy.draw count m.world.entropy with
  | .ok bytes e =>
    .ok bytes ⟨{ m.world with entropy := e },
      m.draws ++ [⟨m.world.entropy.position, count, some bytes⟩]⟩
  | .error failure e =>
    .error failure ⟨{ m.world with entropy := e },
      m.draws ++ [⟨m.world.entropy.position, count, none⟩]⟩

def keyFrom {σ : Type} (draw : Nat → Action σ Bytes) : Action σ Key := fun s =>
  match draw keySize s with
  | .ok bytes s' => .ok ⟨bytes⟩ s'
  | .error _ s' => .error (.crypto .entropyUnavailable) s'

lemma keyFrom_draw : keyFrom Entropy.draw = Key.generate := by
  funext e
  unfold keyFrom Key.generate
  cases Entropy.draw keySize e <;> rfl

namespace Suite

def ciphertext : Suite → Bytes → Bytes → Bytes → Bytes
  | .oneShot, key, nonce, plain => Cipher.Gcm.encrypt key nonce plain
  | .streaming, key, nonce, plain =>
    let (body, stream) := (Cipher.Stream.start key nonce).encrypt plain
    body ++ stream.tag

def opening : Suite → Value → Key → Except Failure Text
  | .oneShot, v, key => do
    key.check
    let p ← Provider.payload v
    match Cipher.Gcm.decrypt? key.bytes p.nonce p.ciphertext with
    | none => throw .decryption
    | some plain => Provider.plainText plain
  | .streaming, v, key => do
    key.check
    let p ← Provider.payload v
    let (plain, stream) := (Cipher.Stream.start key.bytes p.nonce).decrypt p.body
    if stream.tag = p.tag then Provider.plainText plain else throw .decryption

/-- The provider that asks for its random bytes in a way of its own. -/
def providerOn {σ : Type} (draw : Nat → Action σ Bytes) (suite : Suite) : Provider σ where
  generateKey := keyFrom draw
  exportKey key := Action.ofExcept key.exported
  importKey v := Action.ofExcept (Key.imported v)
  encrypt v key := do
    Action.ofExcept key.check
    let nonce ← draw nonceSize
    let plain ← Action.ofExcept (Provider.plainBytes v)
    return Payload.toText ⟨nonce, suite.ciphertext key.bytes nonce plain⟩
  decrypt v key := Action.ofExcept (suite.opening v key)

theorem providerOn_draw (suite : Suite) : suite.providerOn Entropy.draw = suite.provider := by
  unfold providerOn
  rw [keyFrom_draw]
  cases suite <;> rfl

end Suite

def meteredAdapters {S A : Type} (suite : Suite) (storage : Storage S) (anchor : TrustAnchor A) :
    Adapters (Metered (World S A)) where
  crypto := suite.providerOn meteredDraw
  storage := (storage.on World.storePart).on Metered.worldPart
  anchor := (anchor.on World.anchorPart).on Metered.worldPart

section

variable {S A : Type} {m : Metered (World S A)} {count : Nat}

lemma meteredDraw_given (h : m.world.entropy.hasLeft count = true) :
    (meteredDraw count).result m =
      (.ok (m.world.entropy.segment m.world.entropy.position count),
        ⟨{ m.world with entropy :=
            { m.world.entropy with position := m.world.entropy.position + count } },
          m.draws ++ [⟨m.world.entropy.position, count,
            some (m.world.entropy.segment m.world.entropy.position count)⟩]⟩) := by
  simp only [Action.result, meteredDraw, Entropy.draw, if_pos h]

lemma meteredDraw_refused (h : m.world.entropy.hasLeft count = false) :
    (meteredDraw count).result m =
      (.error .entropyExhausted,
        ⟨m.world, m.draws ++ [⟨m.world.entropy.position, count, none⟩]⟩) := by
  simp only [Action.result, meteredDraw, Entropy.draw, h, Bool.false_eq_true, if_false]

lemma draw_refused {e : Entropy} (h : e.hasLeft count = false) :
    (Entropy.draw count).result e = (.error .entropyExhausted, e) := by
  simp only [Action.result, Entropy.draw, h, Bool.false_eq_true, if_false]

end

section

variable {σ : Type} {draw : Nat → Action σ Bytes} {s s' : σ} {v : Value} {key : Key}

lemma keyFrom_given {bytes : Bytes} (h : (draw keySize).result s = (.ok bytes, s')) :
    (keyFrom draw).result s = (.ok ⟨bytes⟩, s') := by
  unfold Action.result keyFrom at *
  cases hd : draw keySize s with
  | ok b t =>
    simp only [hd, Prod.mk.injEq, Except.ok.injEq] at h
    obtain ⟨rfl, rfl⟩ := h
    rfl
  | error f t => simp [hd] at h

lemma keyFrom_refused {failure : Failure} (h : (draw keySize).result s = (.error failure, s')) :
    (keyFrom draw).result s = (.error (.crypto .entropyUnavailable), s') := by
  unfold Action.result keyFrom at *
  cases hd : draw keySize s with
  | ok b t => simp [hd] at h
  | error f t =>
    simp only [hd, Prod.mk.injEq] at h
    obtain ⟨-, rfl⟩ := h
    rfl

lemma encrypt_providerOn_wrongKey (suite : Suite) (h : key.bytes.length ≠ keySize) :
    ((suite.providerOn draw).encrypt v key).result s =
      (.error (.crypto (.keySize key.bytes.length)), s) := by
  have hcheck : key.check = .error (.crypto (.keySize key.bytes.length)) := by
    rw [Key.check, if_neg h]
  simp only [Suite.providerOn, hcheck, Action.ofExcept_error]
  exact result_bind_of_error (result_throw _ _)

lemma encrypt_providerOn_refused (suite : Suite) (h : key.bytes.length = keySize)
    {failure : Failure} (hdraw : (draw nonceSize).result s = (.error failure, s')) :
    ((suite.providerOn draw).encrypt v key).result s = (.error failure, s') := by
  simp only [Suite.providerOn, check_eq_ok h, Action.ofExcept_ok]
  rw [result_bind_of_ok (result_pure _ _), result_bind_of_error hdraw]

lemma encrypt_providerOn_given (suite : Suite) (h : key.bytes.length = keySize) {nonce : Bytes}
    (hdraw : (draw nonceSize).result s = (.ok nonce, s')) :
    ((suite.providerOn draw).encrypt v key).result s =
      ((Provider.plainBytes v).map fun plain =>
        Payload.toText ⟨nonce, suite.ciphertext key.bytes nonce plain⟩, s') := by
  simp only [Suite.providerOn, check_eq_ok h, Action.ofExcept_ok]
  rw [result_bind_of_ok (result_pure _ _), result_bind_of_ok hdraw]
  cases Provider.plainBytes v with
  | error failure => exact result_bind_of_error (result_ofExcept _ _)
  | ok plain => exact result_bind_of_ok (result_ofExcept _ _)

end

/-! ### Calls that account for requests -/

def Call.handlesKey : Call → Bool
  | .generateKey _ | .encrypt .. | .exportKey .. => true
  | _ => false

/-- The requests that are made in a call, by its outcome: one for a key, one for the nonce of a
text, and none otherwise. -/
inductive AccountsFor : Call → List Draw → Prop
  | key (position : Nat) (bytes : Bytes) (h : bytes.length = keySize) :
    AccountsFor (.generateKey (.ok ⟨bytes⟩)) [⟨position, keySize, some bytes⟩]
  | noKey (position : Nat) (failure : Failure) :
    AccountsFor (.generateKey (.error failure)) [⟨position, keySize, none⟩]
  | wrongKey (text : Value) (key : Key) (failure : Failure) (h : key.bytes.length ≠ keySize) :
    AccountsFor (.encrypt text key (.error failure)) []
  | noNonce (text : Value) (key : Key) (failure : Failure) (position : Nat) :
    AccountsFor (.encrypt text key (.error failure)) [⟨position, nonceSize, none⟩]
  | notEncrypted (text : Value) (key : Key) (failure : Failure) (position : Nat) (nonce : Bytes) :
    AccountsFor (.encrypt text key (.error failure)) [⟨position, nonceSize, some nonce⟩]
  | encrypted (text : Value) (key : Key) (position : Nat) (nonce body : Bytes)
      (h : nonce.length = nonceSize) :
    AccountsFor (.encrypt text key (.ok (Payload.toText ⟨nonce, body⟩)))
      [⟨position, nonceSize, some nonce⟩]
  | exported (key : Key) : AccountsFor (.exportKey key (.ok (Base64.encode key.bytes))) []
  | notExported (key : Key) (failure : Failure) : AccountsFor (.exportKey key (.error failure)) []
  | other (call : Call) (h : call.handlesKey = false) : AccountsFor call []

/-- Calls one after the other account for the requests that were made. -/
inductive Accounts : List Call → List Draw → Prop
  | nil : Accounts [] []
  | cons {call : Call} {calls : List Call} {draws draws' : List Draw} (h : AccountsFor call draws)
      (rest : Accounts calls draws') :
    Accounts (call :: calls) (draws ++ draws')

lemma Accounts.append {calls calls' : List Call} {draws draws' : List Draw}
    (h : Accounts calls draws) (h' : Accounts calls' draws') :
    Accounts (calls ++ calls') (draws ++ draws') := by
  induction h with
  | nil => exact h'
  | cons hcall _ ih =>
    rw [List.append_assoc]
    exact .cons hcall ih

lemma accounts_single {call : Call} {draws : List Draw} (h : AccountsFor call draws) :
    Accounts [call] draws := by
  have hcons := Accounts.cons h .nil
  rwa [List.append_nil] at hcons

section

variable {S A α β : Type}

/-- A call on metered adapters does what it does on those of the world, and accounts for the
requests that are made in it. -/
def Metering (call : Except Failure α → Call) (x : Action (Metered (World S A)) α)
    (y : Action (World S A) α) : Prop :=
  ∀ m, ∃ draws r m', x.result m = (r, m') ∧ y.result m.world = (r, m'.world) ∧
    m'.draws = m.draws ++ draws ∧ Consecutive m.world.entropy draws m'.world.entropy ∧
    AccountsFor (call r) draws

lemma metering_generateKey (suite : Suite) :
    Metering (S := S) (A := A) .generateKey (suite.providerOn meteredDraw).generateKey
      (suite.provider.generateKey.on World.entropyPart) := by
  intro m
  rw [← Suite.providerOn_draw]
  cases hleft : m.world.entropy.hasLeft keySize with
  | false =>
    refine ⟨_, _, _, keyFrom_refused (meteredDraw_refused hleft), ?_, rfl, .refused hleft (.nil _),
      .noKey _ _⟩
    rw [result_on, Suite.providerOn, World.entropyPart, keyFrom_refused (draw_refused hleft)]
  | true =>
    refine ⟨_, _, _, keyFrom_given (meteredDraw_given hleft), ?_, rfl, .given hleft (.nil _),
      .key _ _ (length_of_draw (draw_result hleft))⟩
    rw [result_on, Suite.providerOn, World.entropyPart, keyFrom_given (draw_result hleft)]

lemma metering_encrypt (suite : Suite) (v : Value) (key : Key) :
    Metering (S := S) (A := A) (.encrypt v key) ((suite.providerOn meteredDraw).encrypt v key)
      ((suite.provider.encrypt v key).on World.entropyPart) := by
  intro m
  rw [← Suite.providerOn_draw]
  by_cases hkey : key.bytes.length = keySize
  · cases hleft : m.world.entropy.hasLeft nonceSize with
    | false =>
      refine ⟨_, _, _, encrypt_providerOn_refused suite hkey (meteredDraw_refused hleft), ?_, rfl,
        .refused hleft (.nil _), .noNonce _ _ _ _⟩
      rw [result_on, World.entropyPart, encrypt_providerOn_refused suite hkey (draw_refused hleft)]
    | true =>
      refine ⟨_, _, _, encrypt_providerOn_given suite hkey (meteredDraw_given hleft), ?_, rfl,
        .given hleft (.nil _), ?_⟩
      · rw [result_on, World.entropyPart, encrypt_providerOn_given suite hkey (draw_result hleft)]
      · cases Provider.plainBytes v with
        | error failure => exact .notEncrypted _ _ _ _ _
        | ok plain => exact .encrypted _ _ _ _ _ (length_of_draw (draw_result hleft))
  · refine ⟨[], _, m, encrypt_providerOn_wrongKey suite hkey, ?_, (List.append_nil _).symm, .nil _,
      .wrongKey _ _ _ hkey⟩
    rw [result_on, World.entropyPart, encrypt_providerOn_wrongKey suite hkey]

lemma metering_ofExcept {call : Except Failure α → Call} (r : Except Failure α)
    (h : AccountsFor (call r) []) :
    Metering (S := S) (A := A) call (Action.ofExcept r)
      ((Action.ofExcept r).on World.entropyPart) := by
  intro m
  refine ⟨[], r, m, result_ofExcept _ _, ?_, (List.append_nil _).symm, .nil _, h⟩
  rw [result_on, result_ofExcept]
  rfl

lemma metering_exportKey (suite : Suite) (key : Key) :
    Metering (S := S) (A := A) (.exportKey key) ((suite.providerOn meteredDraw).exportKey key)
      ((suite.provider.exportKey key).on World.entropyPart) := by
  rw [← Suite.providerOn_draw]
  apply metering_ofExcept
  unfold Key.exported
  cases key.check with
  | error failure => exact .notExported key failure
  | ok _ => exact .exported key

lemma metering_importKey (suite : Suite) (v : Value) :
    Metering (S := S) (A := A) (.importKey v) ((suite.providerOn meteredDraw).importKey v)
      ((suite.provider.importKey v).on World.entropyPart) := by
  rw [← Suite.providerOn_draw]
  exact metering_ofExcept _ (.other _ rfl)

lemma metering_decrypt (suite : Suite) (v : Value) (key : Key) :
    Metering (S := S) (A := A) (.decrypt v key) ((suite.providerOn meteredDraw).decrypt v key)
      ((suite.provider.decrypt v key).on World.entropyPart) := by
  rw [← Suite.providerOn_draw]
  exact metering_ofExcept _ (.other _ rfl)

lemma metering_store {call : Except Failure α → Call} (h : ∀ r, (call r).handlesKey = false)
    (x : Action S α) :
    Metering (A := A) call ((x.on World.storePart).on Metered.worldPart)
      (x.on World.storePart) := by
  intro m
  refine ⟨[], _, _, result_on _ _ _, ?_, (List.append_nil _).symm, ?_, .other _ (h _)⟩
  · rfl
  · rw [result_on]
    exact .nil _

lemma metering_anchor {call : Except Failure α → Call} (h : ∀ r, (call r).handlesKey = false)
    (x : Action A α) :
    Metering (S := S) call ((x.on World.anchorPart).on Metered.worldPart)
      (x.on World.anchorPart) := by
  intro m
  refine ⟨[], _, _, result_on _ _ _, ?_, (List.append_nil _).symm, ?_, .other _ (h _)⟩
  · rfl
  · rw [result_on]
    exact .nil _

end

/-! ### Clients on metered adapters -/

def unmetered {σ : Type} (s : Client.State (Metered σ)) : Client.State σ := ⟨s.world.world, s.keyId⟩

section

variable {S A α β : Type}

/-- An action on metered adapters does what it does on those of the world, and the calls that it
makes account for the requests, which follow on those before. -/
structure Accounted (x : Action (Client.State (Metered (World S A))) α)
    (y : Action (Client.State (World S A)) α)
    (z : Action (Client.State (Noted (Metered (World S A)))) α)
    (s : Client.State (Metered (World S A))) (calls : List Call) (draws : List Draw) (r : Except Failure α)
    (s' : Client.State (Metered (World S A))) : Prop where
  runs : Runs x z s calls r s'
  plain : y.result (unmetered s) = (r, unmetered s')
  requested : s'.world.draws = s.world.draws ++ draws
  consecutive : Consecutive s.world.world.entropy draws s'.world.world.entropy
  accounts : Accounts calls draws

def AlwaysAccounted (x : Action (Client.State (Metered (World S A))) α)
    (y : Action (Client.State (World S A)) α)
    (z : Action (Client.State (Noted (Metered (World S A)))) α) : Prop :=
  ∀ s, ∃ calls draws r s', Accounted x y z s calls draws r s'

section

variable {x : Action (Client.State (Metered (World S A))) α}
  {y : Action (Client.State (World S A)) α}
  {z : Action (Client.State (Noted (Metered (World S A)))) α}
  {f : α → Action (Client.State (Metered (World S A))) β}
  {g : α → Action (Client.State (World S A)) β}
  {h : α → Action (Client.State (Noted (Metered (World S A)))) β}

lemma accounted_call {call : Except Failure α → Call} {x : Action (Metered (World S A)) α}
    {y : Action (World S A) α} (hx : Metering call x y) :
    AlwaysAccounted (Client.outside x) (Client.outside y) (Client.outside (noted call x)) := by
  intro s
  obtain ⟨draws, r, m, hmetered, hplain, hdraws, hconsecutive, haccounts⟩ := hx s.world
  refine ⟨_, draws, r, { s with world := m }, runs_call call hmetered, ?_, hdraws, hconsecutive,
    accounts_single haccounts⟩
  rw [result_outside, unmetered, hplain]
  rfl

lemma accounted_ofExcept (r : Except Failure α) :
    AlwaysAccounted (S := S) (A := A) (Action.ofExcept r) (Action.ofExcept r)
      (Action.ofExcept r) := by
  intro s
  exact ⟨[], [], r, s, runs_ofExcept rfl s, result_ofExcept _ _, (List.append_nil _).symm,
    .nil _, .nil⟩

lemma accounted_pure (a : α) :
    AlwaysAccounted (S := S) (A := A) (pure a) (pure a) (pure a) := accounted_ofExcept (.ok a)

lemma accounted_learn (id : Text) :
    AlwaysAccounted (S := S) (A := A) (Client.learn id) (Client.learn id) (Client.learn id) :=
  fun s => ⟨[], [], _, _, runs_learn id s, rfl, (List.append_nil _).symm, .nil _, .nil⟩

lemma accounted_bind (hx : AlwaysAccounted x y z) (hf : ∀ a, AlwaysAccounted (f a) (g a) (h a)) :
    AlwaysAccounted (x >>= f) (y >>= g) (z >>= h) := by
  intro s
  obtain ⟨calls, draws, r, s', hfirst⟩ := hx s
  cases r with
  | error failure =>
    exact ⟨_, _, _, _, runs_bind_error hfirst.runs, result_bind_of_error hfirst.plain,
      hfirst.requested, hfirst.consecutive, hfirst.accounts⟩
  | ok a =>
    obtain ⟨calls', draws', r', t, hrest⟩ := hf a s'
    refine ⟨_, _, _, _, runs_bind hfirst.runs hrest.runs, ?_, ?_,
      hfirst.consecutive.append hrest.consecutive, hfirst.accounts.append hrest.accounts⟩
    · rw [result_bind_of_ok hfirst.plain, hrest.plain]
    · rw [hrest.requested, hfirst.requested, List.append_assoc]

lemma accounted_map (g : α → β) (hx : AlwaysAccounted x y z) :
    AlwaysAccounted (g <$> x) (g <$> y) (g <$> z) := by
  intro s
  obtain ⟨calls, draws, r, s', hrun⟩ := hx s
  exact ⟨calls, draws, _, s', runs_map g hrun.runs, result_map_of g hrun.plain, hrun.requested,
    hrun.consecutive, hrun.accounts⟩

end

lemma accounted_keyId {f : Option Text → Action (Client.State (Metered (World S A))) β}
    {g : Option Text → Action (Client.State (World S A)) β}
    {h : Option Text → Action (Client.State (Noted (Metered (World S A)))) β}
    (hf : ∀ known, AlwaysAccounted (f known) (g known) (h known)) :
    AlwaysAccounted (get >>= fun s => f s.keyId) (get >>= fun s => g s.keyId)
      (get >>= fun s => h s.keyId) := by
  intro s
  obtain ⟨calls, draws, r, s', hrun⟩ := hf s.keyId s
  refine ⟨calls, draws, r, s', ⟨?_, ?_⟩, ?_, hrun.requested, hrun.consecutive, hrun.accounts⟩
  · rw [result_bind_of_ok (result_get _), hrun.runs.plain]
  · intro before
    rw [result_bind_of_ok (result_get _)]
    exact hrun.runs.noted before
  · rw [result_bind_of_ok (result_get _)]
    exact hrun.plain

variable (suite : Suite) (storage : Storage S) (anchor : TrustAnchor A) (c : Client)

lemma accounted_askKeyId :
    AlwaysAccounted (askKeyId (meteredAdapters suite storage anchor) c)
      (askKeyId (World.adapters suite.provider storage anchor) c)
      (askKeyId (notedAdapters (meteredAdapters suite storage anchor)) c) := by
  unfold askKeyId
  cases h : anchor.lookup? with
  | some lookup =>
    simp only [notedAdapters, meteredAdapters, World.adapters, TrustAnchor.on, h, Option.map_some]
    exact accounted_call (metering_anchor (fun _ => rfl) _)
  | none =>
    simp only [notedAdapters, meteredAdapters, World.adapters, TrustAnchor.on, h, Option.map_none]
    refine accounted_bind (accounted_call (metering_generateKey suite)) fun throwaway => ?_
    refine accounted_bind (accounted_call (metering_exportKey suite _)) fun exported => ?_
    refine accounted_bind (accounted_call (metering_anchor (fun _ => rfl) _)) fun wrapped => ?_
    exact accounted_pure _

lemma accounted_set (key : Text) (text : Value) :
    AlwaysAccounted (c.set (meteredAdapters suite storage anchor) key text)
      (c.set (World.adapters suite.provider storage anchor) key text)
      (c.set (notedAdapters (meteredAdapters suite storage anchor)) key text) := by
  unfold Client.set
  refine accounted_bind (accounted_call (metering_generateKey suite)) fun valueKey => ?_
  refine accounted_bind (accounted_call (metering_encrypt suite _ _)) fun ciphertext => ?_
  refine accounted_bind (accounted_call (metering_exportKey suite _)) fun exported => ?_
  refine accounted_bind (accounted_call (metering_anchor (fun _ => rfl) _)) fun wrapped => ?_
  refine accounted_bind (accounted_learn _) fun _ => ?_
  exact accounted_call (metering_store (fun _ => rfl) _)

lemma accounted_get (key : Text) :
    AlwaysAccounted (c.get (meteredAdapters suite storage anchor) key)
      (c.get (World.adapters suite.provider storage anchor) key)
      (c.get (notedAdapters (meteredAdapters suite storage anchor)) key) := by
  unfold Client.get
  refine accounted_bind (accounted_call (metering_store (fun _ => rfl) _)) fun loaded => ?_
  cases loaded with
  | none => exact accounted_pure none
  | some entry =>
    refine accounted_bind (accounted_call (metering_anchor (fun _ => rfl) _)) fun unwrapped => ?_
    refine accounted_bind (accounted_learn _) fun _ => ?_
    refine accounted_bind (accounted_call (metering_importKey suite _)) fun valueKey => ?_
    exact accounted_map some (accounted_call (metering_decrypt suite _ _))

lemma accounted_doTask (task : Task) :
    AlwaysAccounted (doTask (meteredAdapters suite storage anchor) c task)
      (doTask (World.adapters suite.provider storage anchor) c task)
      (doTask (notedAdapters (meteredAdapters suite storage anchor)) c task) := by
  cases task with
  | set key text => exact accounted_map _ (accounted_set suite storage anchor c key _)
  | get key => exact accounted_map _ (accounted_get suite storage anchor c key)
  | delete key => exact accounted_map _ (accounted_call (metering_store (fun _ => rfl) _))
  | list start =>
    refine accounted_map _ (accounted_bind (accounted_call (metering_store (fun _ => rfl) _)) ?_)
    intro keys
    exact accounted_bind (accounted_ofExcept _) fun own => accounted_pure _
  | getKeyId =>
    simp only [doTask, getKeyId_eq]
    refine accounted_map _ (accounted_keyId fun known => ?_)
    cases known with
    | some id => exact accounted_pure id
    | none =>
      refine accounted_bind (accounted_askKeyId suite storage anchor c) fun id => ?_
      exact accounted_bind (accounted_learn id) fun _ => accounted_pure id

end

end EnvelopeStore.Proofs
