import EnvelopeStore.Proofs.Tasks
import EnvelopeStore.TrustAnchor.KeyManager
import Mathlib.Data.Option.Basic

/-!
# What a text shows to others

Two clients do the same tasks from the same state, except that they write different texts. Trust
anchor and store cannot tell them apart but for the ciphertexts, and those show no more of a text
than the size of its encoding.
-/

namespace EnvelopeStore.Proofs
open Text

/-! ### What differs -/

/-- Two tasks differ at most in the text that they write, which can be encoded in both. -/
inductive DifferInText : Task → Task → Prop
  | set (key t t' : Text) (ht : SurrogateFree t) (ht' : SurrogateFree t') :
    DifferInText (.set key t) (.set key t')
  | get (key : Text) : DifferInText (.get key) (.get key)
  | delete (key : Text) : DifferInText (.delete key) (.delete key)
  | list (start : Text) : DifferInText (.list start) (.list start)
  | getKeyId : DifferInText .getKeyId .getKeyId

/-- Two entries differ at most in the ciphertext. -/
structure SameButCiphertext (e e' : Entry) : Prop where
  wrappedKey : e.wrappedKey = e'.wrappedKey
  keyId : e.keyId = e'.keyId
  algorithm : e.algorithm = e'.algorithm
  version : e.version = e'.version

/-- The length of the ciphertext of a text that is encoded in `n` bytes: nonce, body and tag fill up
groups of three bytes, and each group is spelled in four characters. -/
def ciphertextLength (n : Nat) : Nat := 4 * ((28 + n + 2) / 3)

/-- A text is as long as the ciphertext of another one has to be. -/
def FitsText (t ciphertext : Text) : Prop :=
  ∃ plain, Utf8.encode t = .ok plain ∧ ciphertext.length = ciphertextLength plain.length

def FitsTask (v : Value) : Task → Prop
  | .set _ t => ∃ ciphertext, v = .text ciphertext ∧ FitsText t ciphertext
  | _ => False

/-- Two actions fail alike, or succeed with results that are related. -/
inductive Outcomes {α : Type} (R : α → α → Prop) : Except Failure α → Except Failure α → Prop
  | error (failure : Failure) : Outcomes R (.error failure) (.error failure)
  | ok {x x' : α} (h : R x x') : Outcomes R (.ok x) (.ok x')

/-- Two calls that trust anchor or store cannot tell apart, made for two tasks. -/
inductive Alike (task task' : Task) : Call → Call → Prop
  | wrap (group key : Value) (r : Except Failure WrappedKey) :
    Alike task task' (.wrap group key r) (.wrap group key r)
  | unwrap (group wrapped : Value) (r : Except Failure UnwrappedKey) :
    Alike task task' (.unwrap group wrapped r) (.unwrap group wrapped r)
  | lookup (group : Value) (r : Except Failure Text) :
    Alike task task' (.lookup group r) (.lookup group r)
  | store (key : Value) {e e' : Entry} (r : Except Failure Receipt) (h : SameButCiphertext e e')
      (hfits : FitsTask e.ciphertext task) (hfits' : FitsTask e'.ciphertext task') :
    Alike task task' (.store key e r) (.store key e' r)
  | load (key : Value) {r r' : Except Failure (Option Entry)}
      (h : Outcomes (Option.Rel SameButCiphertext) r r') :
    Alike task task' (.load key r) (.load key r')
  | erase (key : Value) (r : Except Failure Receipt) :
    Alike task task' (.erase key r) (.erase key r)
  | list (start : Value) (r : Except Failure (List Value)) :
    Alike task task' (.list start r) (.list start r)

/-- Whether a call goes to the trust anchor. -/
def Call.isAnchor : Call → Bool
  | .wrap .. | .unwrap .. | .lookup .. => true
  | _ => false

def Call.isCipher : Call → Bool
  | .generateKey .. | .encrypt .. | .exportKey .. | .importKey .. | .decrypt .. => true
  | _ => false

/-- The calls that trust anchor and store see. -/
def outward (calls : List Call) : List Call := calls.filter fun call => !call.isCipher

lemma outcomes_refl {α : Type} (r : Except Failure α) : Outcomes Eq r r := by
  cases r with
  | error failure => exact .error failure
  | ok x => exact .ok rfl

lemma eq_of_outcomes {α : Type} {r r' : Except Failure α} (h : Outcomes Eq r r') : r = r' := by
  cases h with
  | error => rfl
  | ok h => rw [h]

lemma alike_anchor {task task' : Task} {calls calls' : List Call}
    (h : List.Forall₂ (Alike task task') calls calls') :
    calls.filter (·.isAnchor) = calls'.filter (·.isAnchor) := by
  induction h with
  | nil => rfl
  | @cons call call' _ _ hhead _ ih =>
    have hsame : call = call' ∨ (call.isAnchor = false ∧ call'.isAnchor = false) := by
      cases hhead with
      | wrap | unwrap | lookup => exact .inl rfl
      | store | load | erase | list => exact .inr ⟨rfl, rfl⟩
    obtain rfl | ⟨hcall, hcall'⟩ := hsame
    · rw [List.filter_cons, List.filter_cons, ih]
    · rw [List.filter_cons_of_neg (by simp [hcall]), List.filter_cons_of_neg (by simp [hcall']), ih]

/-! ### Ciphertexts -/

lemma length_toText {nonce : Bytes} (hnonce : nonce.length = nonceSize) (key plain : Bytes) :
    (Payload.toText ⟨nonce, Cipher.Gcm.encrypt key nonce plain⟩).length =
      ciphertextLength plain.length := by
  simp only [Payload.toText, Payload.toBlob, length_base64_encode, List.length_append,
    length_encrypt, hnonce, ciphertextLength, nonceSize, Cipher.Gcm.tagSize]
  omega

/-- Encrypting takes the same bytes of entropy for every text, and fails for the same reasons. -/
lemma encrypt_outcomes (suite : Suite) (key : Key) {t t' : Text} (ht : SurrogateFree t)
    (ht' : SurrogateFree t') (e : Entropy) :
    Outcomes (fun s s' => FitsText t s ∧ FitsText t' s')
      ((suite.provider.encrypt (.text t) key).result e).1
      ((suite.provider.encrypt (.text t') key).result e).1 ∧
    ((suite.provider.encrypt (.text t) key).result e).2 =
      ((suite.provider.encrypt (.text t') key).result e).2 := by
  have hplain := utf8_encode_eq_ok_iff.mpr ⟨ht, rfl⟩
  have hplain' := utf8_encode_eq_ok_iff.mpr ⟨ht', rfl⟩
  rw [encrypt_eq_outcome, encrypt_eq_outcome, encryptOutcome, encryptOutcome]
  by_cases hkey : key.bytes.length ≠ keySize
  · rw [if_pos hkey, if_pos hkey]
    exact ⟨.error _, rfl⟩
  · rw [if_neg hkey, if_neg hkey]
    by_cases hleft : e.hasLeft nonceSize = false
    · rw [if_pos hleft, if_pos hleft]
      exact ⟨.error _, rfl⟩
    · rw [if_neg hleft, if_neg hleft]
      simp only [hplain, hplain']
      have hnonce : (e.segment e.position nonceSize).length = nonceSize := by
        simp [Entropy.segment]
      exact ⟨.ok ⟨⟨_, hplain, length_toText hnonce _ _⟩, ⟨_, hplain', length_toText hnonce _ _⟩⟩,
        trivial⟩

/-! ### Maps in memory -/

/-- Two bindings have the same key, and entries that differ at most in the ciphertext. -/
def SameBinding (b b' : Value × Entry) : Prop := b.1 = b'.1 ∧ SameButCiphertext b.2 b'.2

/-- Two maps in memory differ at most in the ciphertexts. -/
def MemoryAlike (m m' : Memory) : Prop := List.Forall₂ SameBinding m.bindings m'.bindings

lemma sameButCiphertext_refl (e : Entry) : SameButCiphertext e e := ⟨rfl, rfl, rfl, rfl⟩

lemma memoryAlike_refl (m : Memory) : MemoryAlike m m :=
  List.forall₂_same.mpr fun b _ => ⟨rfl, sameButCiphertext_refl b.2⟩

section

variable {m m' : Bindings Entry}

lemma rel_get? (h : List.Forall₂ SameBinding m m') (key : Value) :
    Option.Rel SameButCiphertext (m.get? key) (m'.get? key) := by
  induction h with
  | nil => exact .none
  | @cons b b' rest rest' hhead _ ih =>
    obtain ⟨k, e⟩ := b
    obtain ⟨k', e'⟩ := b'
    obtain ⟨rfl, hentry⟩ : k = k' ∧ SameButCiphertext e e' := hhead
    by_cases hk : k.isSame key = true
    · simpa [Bindings.get?, hk] using Option.Rel.some hentry
    · simpa [Bindings.get?, hk] using ih

lemma rel_insert (h : List.Forall₂ SameBinding m m') (key : Value) {e e' : Entry}
    (he : SameButCiphertext e e') :
    List.Forall₂ SameBinding (m.insert key e) (m'.insert key e') := by
  induction h with
  | nil => exact .cons ⟨rfl, he⟩ .nil
  | @cons b b' rest rest' hhead htail ih =>
    obtain ⟨k, x⟩ := b
    obtain ⟨k', x'⟩ := b'
    obtain ⟨rfl, hentry⟩ : k = k' ∧ SameButCiphertext x x' := hhead
    by_cases hk : k.isSame key = true
    · simpa [Bindings.insert, hk] using And.intro ⟨rfl, he⟩ htail
    · simpa [Bindings.insert, hk] using And.intro ⟨rfl, hentry⟩ ih

lemma rel_erase (h : List.Forall₂ SameBinding m m') (key : Value) :
    List.Forall₂ SameBinding (m.erase key) (m'.erase key) := by
  induction h with
  | nil => exact .nil
  | @cons b b' rest rest' hhead htail ih =>
    obtain ⟨k, x⟩ := b
    obtain ⟨k', x'⟩ := b'
    obtain ⟨rfl, hentry⟩ : k = k' ∧ SameButCiphertext x x' := hhead
    by_cases hk : k.isSame key = true
    · simpa [Bindings.erase, hk] using ih
    · simpa [Bindings.erase, hk] using And.intro ⟨rfl, hentry⟩ ih

lemma keys_eq (h : List.Forall₂ SameBinding m m') : m.keys = m'.keys := by
  unfold Bindings.keys
  induction h with
  | nil => rfl
  | cons hhead _ ih => rw [List.map_cons, List.map_cons, hhead.1, ih]

end

/-! ### Worlds -/

section

variable {A α β : Type}

/-- Two worlds differ at most in the ciphertexts of the store. -/
structure WorldAlike (w w' : World Memory A) : Prop where
  entropy : w.entropy = w'.entropy
  store : MemoryAlike w.store w'.store
  anchor : w.anchor = w'.anchor

/-- On worlds that are alike, two actions end with results that are related, and leave the worlds
alike. -/
def AgreeOn (Q : Except Failure α → Except Failure α → Prop) (x x' : Action (World Memory A) α) :
    Prop :=
  ∀ w w', WorldAlike w w' →
    Q (x.result w).1 (x'.result w').1 ∧ WorldAlike (x.result w).2 (x'.result w').2

section

variable {Q : Except Failure α → Except Failure α → Prop}

lemma agree_entropy {x x' : Action Entropy α}
    (h : ∀ e, Q (x.result e).1 (x'.result e).1 ∧ (x.result e).2 = (x'.result e).2) :
    AgreeOn (A := A) Q (x.on World.entropyPart) (x'.on World.entropyPart) := by
  intro w w' hw
  obtain ⟨hresult, hstate⟩ := h w.entropy
  rw [result_on, result_on]
  simp only [World.entropyPart, ← hw.entropy]
  exact ⟨hresult, hstate, hw.store, hw.anchor⟩

lemma agree_store {x x' : Action Memory α}
    (h : ∀ m m', MemoryAlike m m' →
      Q (x.result m).1 (x'.result m').1 ∧ MemoryAlike (x.result m).2 (x'.result m').2) :
    AgreeOn (A := A) Q (x.on World.storePart) (x'.on World.storePart) := by
  intro w w' hw
  obtain ⟨hresult, hstate⟩ := h w.store w'.store hw.store
  rw [result_on, result_on]
  exact ⟨hresult, hw.entropy, hstate, hw.anchor⟩

end

lemma agree_same_entropy (x : Action Entropy α) :
    AgreeOn (A := A) (Outcomes Eq) (x.on World.entropyPart) (x.on World.entropyPart) :=
  agree_entropy fun e => ⟨outcomes_refl (x.result e).1, rfl⟩

/-- The trust anchor does not see the store, so it does the same in both worlds. -/
lemma agree_anchor (x : Action A α) :
    AgreeOn (Outcomes Eq) (x.on World.anchorPart) (x.on World.anchorPart) := by
  intro w w' hw
  rw [result_on, result_on]
  simp only [World.anchorPart, hw.anchor]
  exact ⟨outcomes_refl _, hw.entropy, hw.store, rfl⟩

lemma agree_load (key : Text) :
    AgreeOn (A := A) (Outcomes (Option.Rel SameButCiphertext))
      ((Memory.storage.get (.text key)).on World.storePart)
      ((Memory.storage.get (.text key)).on World.storePart) := by
  refine agree_store fun m m' hm => ?_
  rw [memory_get, memory_get]
  exact ⟨.ok (rel_get? hm _), hm⟩

lemma agree_write (key : Text) {e e' : Entry} (he : SameButCiphertext e e') :
    AgreeOn (A := A) (Outcomes Eq) ((Memory.storage.set (.text key) e).on World.storePart)
      ((Memory.storage.set (.text key) e').on World.storePart) := by
  refine agree_store fun m m' hm => ?_
  rw [memory_set, memory_set]
  exact ⟨.ok rfl, rel_insert hm _ he⟩

lemma agree_delete (key : Text) :
    AgreeOn (A := A) (Outcomes Eq) ((Memory.storage.delete (.text key)).on World.storePart)
      ((Memory.storage.delete (.text key)).on World.storePart) := by
  refine agree_store fun m m' hm => ?_
  rw [memory_delete, memory_delete]
  exact ⟨.ok rfl, rel_erase hm _⟩

lemma agree_list (start : Value) :
    AgreeOn (A := A) (Outcomes Eq) ((Memory.storage.list start).on World.storePart)
      ((Memory.storage.list start).on World.storePart) := by
  refine agree_store fun m m' hm => ?_
  simp only [Memory.storage]
  rw [result_bind_of_ok (result_get _), result_bind_of_ok (result_get _), result_ofExcept,
    result_ofExcept, Memory.keysFrom, Memory.keysFrom, keys_eq hm]
  exact ⟨outcomes_refl _, hm⟩

/-! ### Steps of a client -/

/-- Two states of clients that do their tasks differ at most in the ciphertexts of the store, and
trust anchor and store cannot tell apart how they were reached. -/
structure Similar (task task' : Task) (s s' : Client.State (Noted (World Memory A))) : Prop where
  world : WorldAlike s.world.world s'.world.world
  keyId : s.keyId = s'.keyId
  calls : List.Forall₂ (Alike task task') (outward s.world.calls) (outward s'.world.calls)

/-- From states that are similar, two steps end with results that are related, and in states that
are similar. -/
def Coupled (task task' : Task) (Q : Except Failure α → Except Failure α → Prop)
    (x x' : Action (Client.State (Noted (World Memory A))) α) : Prop :=
  ∀ s s', Similar task task' s s' →
    Q (x.result s).1 (x'.result s').1 ∧ Similar task task' (x.result s).2 (x'.result s').2

section

variable {task task' : Task} {R : α → α → Prop} {Q : Except Failure α → Except Failure α → Prop}
  {P : Except Failure β → Except Failure β → Prop}
  {x x' : Action (Client.State (Noted (World Memory A))) α}
  {f f' : α → Action (Client.State (Noted (World Memory A))) β}

/-- A step that follows may use that the results before it are related. Where both fail before it,
they fail alike. -/
lemma coupled_bind (hx : Coupled task task' (Outcomes R) x x')
    (hf : ∀ a a', R a a' → Coupled task task' P (f a) (f' a'))
    (hfail : ∀ failure, P (.error failure) (.error failure)) :
    Coupled task task' P (x >>= f) (x' >>= f') := by
  intro s s' hs
  obtain ⟨hresult, hstate⟩ := hx s s' hs
  obtain ⟨failure, t, h⟩ | ⟨a, t, h⟩ := outcome_cases x s <;>
    obtain ⟨failure', t', h'⟩ | ⟨a', t', h'⟩ := outcome_cases x' s' <;>
    rw [h, h'] at hresult hstate
  -- Of the four ways for two steps to end, related results leave the two in which both end alike.
  · cases hresult
    rw [result_bind_of_error h, result_bind_of_error h']
    exact ⟨hfail failure, hstate⟩
  · cases hresult
  · cases hresult
  · cases hresult with
    | ok hrel =>
      rw [result_bind_of_ok h, result_bind_of_ok h']
      exact hf a a' hrel t t' hstate

lemma coupled_ofExcept {r r' : Except Failure α} (h : Q r r') :
    Coupled (A := A) task task' Q (Action.ofExcept r) (Action.ofExcept r') := by
  intro s s' hs
  rw [result_ofExcept, result_ofExcept]
  exact ⟨h, hs⟩

lemma coupled_pure {a a' : α} (h : Q (.ok a) (.ok a')) :
    Coupled (A := A) task task' Q (pure a) (pure a') :=
  fun _ _ hs => ⟨h, hs⟩

lemma coupled_learn (id : Text) :
    Coupled (A := A) task task' (Outcomes Eq) (Client.learn id) (Client.learn id) := by
  intro s s' hs
  rw [learn_result, learn_result]
  exact ⟨.ok rfl, hs.world, by rw [hs.keyId], hs.calls⟩

lemma coupled_map (g : α → β) (hx : Coupled task task' Q x x') :
    Coupled task task' (fun _ _ => True) (g <$> x) (g <$> x') := by
  intro s s' hs
  rw [result_map, result_map]
  exact ⟨trivial, (hx s s' hs).2⟩

/-- A call stays with the cipher, or looks the same from outside. -/
lemma coupled_call {y y' : Action (World Memory A) α} {call call' : Except Failure α → Call}
    (h : AgreeOn Q y y')
    (hcall : ∀ r r', Q r r' → ((call r).isCipher = true ∧ (call' r').isCipher = true) ∨
      Alike task task' (call r) (call' r')) :
    Coupled task task' Q (Client.outside (noted call y)) (Client.outside (noted call' y')) := by
  intro s s' hs
  obtain ⟨hresult, hworld⟩ := h s.world.world s'.world.world hs.world
  rw [result_outside, result_outside, noted_result, noted_result]
  refine ⟨hresult, hworld, hs.keyId, ?_⟩
  unfold outward
  rw [List.filter_append, List.filter_append]
  refine List.rel_append hs.calls ?_
  obtain ⟨hcipher, hcipher'⟩ | halike := hcall _ _ hresult
  · rw [List.filter_cons_of_neg (by simp [hcipher]), List.filter_cons_of_neg (by simp [hcipher'])]
    exact .nil
  · have hout : ∀ {c c' : Call}, Alike task task' c c' → c.isCipher = false ∧ c'.isCipher = false :=
      fun h => by cases h <;> exact ⟨rfl, rfl⟩
    rw [List.filter_cons_of_pos (by simp [(hout halike).1]),
      List.filter_cons_of_pos (by simp [(hout halike).2])]
    exact .cons halike .nil

lemma coupled_same {y y' : Action (World Memory A) α} {call : Except Failure α → Call}
    (h : AgreeOn (Outcomes Eq) y y')
    (hcall : ∀ r, (call r).isCipher = true ∨ Alike task task' (call r) (call r)) :
    Coupled task task' (Outcomes Eq) (Client.outside (noted call y))
      (Client.outside (noted call y')) := by
  refine coupled_call h fun r r' hr => ?_
  rw [← eq_of_outcomes hr]
  exact (hcall r).imp_left fun h => ⟨h, h⟩

end

/-! ### Tasks -/

section

variable (suite : Suite) (anchor : TrustAnchor A) (c : Client)

def memoryAdapters : Adapters (World Memory A) :=
  World.adapters suite.provider Memory.storage anchor

lemma coupled_set (key : Text) {t t' : Text} (ht : SurrogateFree t) (ht' : SurrogateFree t') :
    Coupled (.set key t) (.set key t') (Outcomes Eq)
      (c.set (notedAdapters (memoryAdapters suite anchor)) key (.text t))
      (c.set (notedAdapters (memoryAdapters suite anchor)) key (.text t')) := by
  refine coupled_bind (R := Eq) (coupled_same (agree_same_entropy _) fun _ => .inl rfl) ?_ .error
  rintro valueKey _ rfl
  refine coupled_bind (R := fun s s' => FitsText t s ∧ FitsText t' s')
    (coupled_call (agree_entropy (encrypt_outcomes suite valueKey ht ht'))
      fun _ _ _ => .inl ⟨rfl, rfl⟩) ?_ .error
  -- From here on the ciphertexts are all that differs, and only the store gets to see them.
  rintro ciphertext ciphertext' ⟨hfits, hfits'⟩
  refine coupled_bind (R := Eq) (coupled_same (agree_same_entropy _) fun _ => .inl rfl) ?_ .error
  rintro exported _ rfl
  refine coupled_bind (R := Eq) (coupled_same (agree_anchor _) fun r => .inr (.wrap _ _ r)) ?_
    .error
  rintro wrapped _ rfl
  refine coupled_bind (R := Eq) (coupled_learn wrapped.keyId) ?_ .error
  rintro ⟨⟩ ⟨⟩ -
  have hentry : SameButCiphertext (.current wrapped.wrappedKey ciphertext wrapped.keyId)
      (.current wrapped.wrappedKey ciphertext' wrapped.keyId) := ⟨rfl, rfl, rfl, rfl⟩
  refine coupled_call (agree_write (c.fullKey key) hentry) fun r r' hr => .inr ?_
  rw [← eq_of_outcomes hr]
  exact .store _ r hentry ⟨ciphertext, rfl, hfits⟩ ⟨ciphertext', rfl, hfits'⟩

lemma coupled_get (key : Text) :
    Coupled (.get key) (.get key) (fun _ _ => True)
      (c.get (notedAdapters (memoryAdapters suite anchor)) key)
      (c.get (notedAdapters (memoryAdapters suite anchor)) key) := by
  refine coupled_bind (R := Option.Rel SameButCiphertext)
    (coupled_call (agree_load (c.fullKey key)) fun _ _ h => .inr (.load _ h)) ?_ fun _ => trivial
  intro loaded loaded' hloaded
  cases hloaded with
  | none => exact coupled_pure trivial
  | @some entry entry' hentry =>
    -- The wrapped keys agree, so that the trust anchor is asked the same question in both runs.
    simp only [← hentry.wrappedKey]
    refine coupled_bind (R := Eq) (coupled_same (agree_anchor _) fun r => .inr (.unwrap _ _ r)) ?_
      fun _ => trivial
    rintro unwrapped _ rfl
    refine coupled_bind (R := Eq) (coupled_learn unwrapped.keyId) ?_ fun _ => trivial
    rintro ⟨⟩ ⟨⟩ -
    refine coupled_bind (R := Eq) (coupled_same (agree_same_entropy _) fun _ => .inl rfl) ?_
      fun _ => trivial
    rintro valueKey _ rfl
    have hdecrypt : AgreeOn (A := A) (fun _ _ => True)
        ((suite.provider.decrypt entry.ciphertext valueKey).on World.entropyPart)
        ((suite.provider.decrypt entry'.ciphertext valueKey).on World.entropyPart) := by
      refine agree_entropy fun e => ⟨trivial, ?_⟩
      rw [decrypt_result suite entry.ciphertext, decrypt_result suite entry'.ciphertext]
    exact coupled_map some (coupled_call hdecrypt fun _ _ _ => .inl ⟨rfl, rfl⟩)

lemma coupled_list (start : Text) :
    Coupled (.list start) (.list start) (Outcomes Eq)
      (c.list (notedAdapters (memoryAdapters suite anchor)) start)
      (c.list (notedAdapters (memoryAdapters suite anchor)) start) := by
  refine coupled_bind (R := Eq) (coupled_same (agree_list _) fun r => .inr (.list _ r)) ?_ .error
  rintro keys _ rfl
  refine coupled_bind (R := Eq) (coupled_ofExcept (outcomes_refl _)) ?_ .error
  rintro own _ rfl
  exact coupled_pure (.ok rfl)

lemma coupled_askKeyId :
    Coupled .getKeyId .getKeyId (Outcomes Eq)
      (askKeyId (notedAdapters (memoryAdapters suite anchor)) c)
      (askKeyId (notedAdapters (memoryAdapters suite anchor)) c) := by
  unfold askKeyId
  cases h : anchor.lookup? with
  | some lookup =>
    simp only [notedAdapters, memoryAdapters, World.adapters, TrustAnchor.on, h, Option.map_some]
    exact coupled_same (agree_anchor _) fun r => .inr (.lookup _ r)
  | none =>
    simp only [notedAdapters, memoryAdapters, World.adapters, TrustAnchor.on, h, Option.map_none]
    refine coupled_bind (R := Eq) (coupled_same (agree_same_entropy _) fun _ => .inl rfl) ?_ .error
    rintro throwaway _ rfl
    refine coupled_bind (R := Eq) (coupled_same (agree_same_entropy _) fun _ => .inl rfl) ?_ .error
    rintro exported _ rfl
    refine coupled_bind (R := Eq) (coupled_same (agree_anchor _) fun r => .inr (.wrap _ _ r)) ?_
      .error
    rintro wrapped _ rfl
    exact coupled_pure (.ok rfl)

lemma coupled_getKeyId :
    Coupled .getKeyId .getKeyId (Outcomes Eq)
      (c.getKeyId (notedAdapters (memoryAdapters suite anchor)))
      (c.getKeyId (notedAdapters (memoryAdapters suite anchor))) := by
  rw [getKeyId_eq]
  intro s s' hs
  rw [result_bind_of_ok (result_get s), result_bind_of_ok (result_get s'), ← hs.keyId]
  cases s.keyId with
  | some id => exact ⟨.ok rfl, hs⟩
  | none =>
    refine coupled_bind (coupled_askKeyId suite anchor c) ?_ .error s s' hs
    rintro id _ rfl
    refine coupled_bind (R := Eq) (coupled_learn id) ?_ .error
    rintro ⟨⟩ ⟨⟩ -
    exact coupled_pure (.ok rfl)

lemma coupled_doTask {task task' : Task} (h : DifferInText task task') :
    Coupled task task' (fun _ _ => True)
      (doTask (notedAdapters (memoryAdapters suite anchor)) c task)
      (doTask (notedAdapters (memoryAdapters suite anchor)) c task') := by
  cases h with
  | set key t t' ht ht' => exact coupled_map _ (coupled_set suite anchor c key ht ht')
  | get key => exact coupled_map _ (coupled_get suite anchor c key)
  | delete key =>
    exact coupled_map _ (coupled_same (agree_delete (c.fullKey key)) fun r => .inr (.erase _ r))
  | list start => exact coupled_map _ (coupled_list suite anchor c start)
  | getKeyId => exact coupled_map _ (coupled_getKeyId suite anchor c)

/-! ### Runs -/

/-- Trust anchor and store cannot tell apart the calls of two tasks. -/
def Unseen (x x' : Task × List Call) : Prop :=
  List.Forall₂ (Alike x.1 x'.1) (outward x.2) (outward x'.2)

def anchorCalls (run : List (Task × List Call)) : List Call :=
  run.flatMap fun x => x.2.filter (·.isAnchor)

variable {suite anchor c}

/-- One task keeps two clients in states that differ at most in the ciphertexts of the store. -/
lemma unseen_step {task task' : Task} (h : DifferInText task task')
    {s s' : Client.State (World Memory A)} (hworld : WorldAlike s.world s'.world)
    (hkeyId : s.keyId = s'.keyId) :
    let a := memoryAdapters suite anchor
    Unseen (task, callsOf a c s task) (task', callsOf a c s' task') ∧
      WorldAlike (afterTask a c s task).world (afterTask a c s' task').world ∧
      (afterTask a c s task).keyId = (afterTask a c s' task').keyId := by
  intro a
  have hstart : Similar task task' (notedState s []) (notedState s' []) := ⟨hworld, hkeyId, .nil⟩
  obtain ⟨-, hend⟩ := coupled_doTask suite anchor c h _ _ hstart
  rw [noted_doTask, noted_doTask] at hend
  exact ⟨hend.calls, hend.world, hend.keyId⟩

lemma unseen_record {tasks tasks' : List Task} (h : List.Forall₂ DifferInText tasks tasks')
    {s s' : Client.State (World Memory A)} (hworld : WorldAlike s.world s'.world)
    (hkeyId : s.keyId = s'.keyId) :
    List.Forall₂ Unseen (record (memoryAdapters suite anchor) c s tasks)
      (record (memoryAdapters suite anchor) c s' tasks') := by
  induction h generalizing s s' with
  | nil => exact .nil
  | cons hhead _ ih =>
    obtain ⟨hcalls, hworld, hkeyId⟩ := unseen_step hhead hworld hkeyId
    exact .cons hcalls (ih hworld hkeyId)

lemma filter_isAnchor_outward (calls : List Call) :
    (outward calls).filter (·.isAnchor) = calls.filter (·.isAnchor) := by
  rw [outward, List.filter_filter]
  congr
  funext call
  cases call <;> rfl

lemma anchorCalls_eq {run run' : List (Task × List Call)} (h : List.Forall₂ Unseen run run') :
    anchorCalls run = anchorCalls run' := by
  induction h with
  | nil => rfl
  | cons hhead _ ih =>
    have hcalls := alike_anchor hhead
    rw [filter_isAnchor_outward, filter_isAnchor_outward] at hcalls
    rw [anchorCalls, List.flatMap_cons, hcalls]
    exact congrArg _ ih

/-- Two runs that start in the same state and differ only in the texts that are written make the
same calls of the trust anchor, with the same outcomes, and ask the store for the same operations on
the same keys. The entries in these differ at most in the ciphertext, and how long a ciphertext is
depends only on the size of the text's encoding. -/
theorem texts_do_not_show (suite : Suite) (anchor : TrustAnchor A) (c : Client)
    (s : Client.State (World Memory A)) {tasks tasks' : List Task}
    (h : List.Forall₂ DifferInText tasks tasks') :
    let a := World.adapters suite.provider Memory.storage anchor
    List.Forall₂ Unseen (record a c s tasks) (record a c s tasks') ∧
      anchorCalls (record a c s tasks) = anchorCalls (record a c s tasks') := by
  intro a
  have hworld : WorldAlike s.world s.world := ⟨rfl, memoryAlike_refl _, rfl⟩
  have hunseen : List.Forall₂ Unseen (record a c s tasks) (record a c s tasks') :=
    unseen_record h hworld rfl
  exact ⟨hunseen, anchorCalls_eq hunseen⟩

/-- A trust anchor without look-up is called once for the key id and once for the text, and in the
same way whether the text is a greeting or a refusal. -/
theorem greeting_or_refusal_does_not_show :
    let alice : Client := ⟨"alice", "privatekv", "private", by decide, by decide, by decide⟩
    let a := World.adapters Provider.oneShot Memory.storage Registry.anchor.wrapOnly
    let s : Client.State (World Memory Registry) :=
      ⟨⟨Entropy.ofBytes (List.replicate 76 7), .empty, .start []⟩, none⟩
    let greeting : List Task := [.getKeyId, .set "k" "hi"]
    let refusal : List Task := [.getKeyId, .set "k" "no"]
    anchorCalls (record a alice s greeting) = anchorCalls (record a alice s refusal) ∧
      (anchorCalls (record a alice s greeting)).length = 2 := by
  intro alice a s greeting refusal
  have hdiffer : List.Forall₂ DifferInText greeting refusal :=
    .cons .getKeyId (.cons (.set _ _ _ (by decide) (by decide)) .nil)
  refine ⟨(texts_do_not_show .oneShot Registry.anchor.wrapOnly alice s hdiffer).2, ?_⟩
  simp only [greeting, s, a, alice]
  decide +kernel

end

end

end EnvelopeStore.Proofs
