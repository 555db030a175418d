import EnvelopeStore.Proofs.InProcess
import EnvelopeStore.Proofs.Sealing
import Mathlib.Data.List.Induction

/-!
# Integrity of what is read

Whatever a store contains, a client reads a text only if the trust anchor once wrapped a key for the
group of the client and the text encrypts to the stored ciphertext with that key.
-/

namespace EnvelopeStore.Proofs
open Cipher Text

/-! ### Histories of a registry -/

/-- A call of a registry. -/
inductive AnchorCall
  | wrap (group key : Text)
  | unwrap (group wrapped : Text)
  | lookup (group : Text)

/-- The registry after a call, whether that succeeded or failed. -/
def AnchorCall.after (r : Registry) : AnchorCall → Registry
  | .wrap group key => ((Registry.wrap (.text group) (.text key)).result r).2
  | .unwrap group wrapped => ((Registry.unwrap (.text group) (.text wrapped)).result r).2
  | .lookup group => ((Registry.lookup (.text group)).result r).2

/-- The registry that refuses the given groups, after calls. -/
def registryAfter (denied : List Value) (calls : List AnchorCall) : Registry :=
  calls.foldl AnchorCall.after (Registry.start denied)

def WrappedBy (denied : List Value) (calls : List AnchorCall) (group key wrapped : Text) : Prop :=
  ∃ before after keyId, calls = before ++ .wrap group key :: after ∧
    ((Registry.wrap (.text group) (.text key)).result (registryAfter denied before)).1 =
      .ok ⟨wrapped, keyId⟩

lemma orderly_after {r : Registry} {groups : List Text} (hr : Orderly r groups)
    (call : AnchorCall) :
    ∃ groups', Orderly (call.after r) groups' ∧
      ∀ w v, (w, v) ∈ (call.after r).wrapped → (w, v) ∈ r.wrapped ∨
        ∃ key group keyId, v = (.text key, .text group) ∧ call = .wrap group key ∧
          ((Registry.wrap (.text group) (.text key)).result r).1 = .ok ⟨w, keyId⟩ := by
  cases call with
  | wrap group key =>
    by_cases hdenied : r.isDenied (.text group) = true
    · rw [AnchorCall.after, wrap_denied hdenied]
      exact ⟨groups, orderly_calls _ hr, fun _ _ h => .inl h⟩
    · have hallowed : r.isDenied (.text group) = false := by simpa using hdenied
      cases hw : wrapping key group (keyIdOf groups group) with
      | error fault =>
        rw [AnchorCall.after, wrap_unencodable hr hallowed hw]
        exact ⟨_, orderly_enroll _ hr, fun _ _ h => .inl h⟩
      | ok wrapped =>
        have hrun := wrap_encodable hr hallowed hw
        rw [AnchorCall.after, hrun]
        refine ⟨_, orderly_record _ hr hw, ?_⟩
        intro w v h
        obtain hnew | hold := List.mem_cons.mp h
        · obtain ⟨rfl, rfl⟩ := Prod.mk.inj hnew
          exact .inr ⟨key, group, _, rfl, rfl, congrArg Prod.fst hrun⟩
        · exact .inl hold
  | unwrap group wrapped =>
    obtain ⟨calls, hcalls, -⟩ := unwrap_cases hr group wrapped
    rw [AnchorCall.after, hcalls]
    exact ⟨groups, orderly_calls _ hr, fun _ _ h => .inl h⟩
  | lookup group =>
    by_cases hdenied : r.isDenied (.text group) = true
    · rw [AnchorCall.after, lookup_denied hdenied]
      exact ⟨groups, orderly_calls _ hr, fun _ _ h => .inl h⟩
    · have hallowed : r.isDenied (.text group) = false := by simpa using hdenied
      rw [AnchorCall.after, lookup_allowed hr hallowed]
      exact ⟨_, orderly_enroll _ hr, fun _ _ h => .inl h⟩

lemma WrappedBy.snoc {denied : List Value} {calls : List AnchorCall} {group key wrapped : Text}
    (h : WrappedBy denied calls group key wrapped) (call : AnchorCall) :
    WrappedBy denied (calls ++ [call]) group key wrapped := by
  obtain ⟨before, after, keyId, rfl, hrun⟩ := h
  exact ⟨before, after ++ [call], keyId, by simp, hrun⟩

lemma registry_history (denied : List Value) (calls : List AnchorCall) :
    ∃ groups, Orderly (registryAfter denied calls) groups ∧
      ∀ w key group,
        (w, (Value.text key, Value.text group)) ∈ (registryAfter denied calls).wrapped →
          WrappedBy denied calls group key w := by
  induction calls using List.reverseRecOn with
  | nil =>
    refine ⟨[], orderly_start denied, ?_⟩
    intro w key group h
    simp [registryAfter, Registry.start] at h
  | append_singleton calls call ih =>
    obtain ⟨groups, hr, hhistory⟩ := ih
    have hstep : registryAfter denied (calls ++ [call]) =
        call.after (registryAfter denied calls) := by
      simp [registryAfter]
    obtain ⟨groups', hr', hnew⟩ := orderly_after hr call
    refine ⟨groups', by rwa [hstep], ?_⟩
    intro w key group h
    rw [hstep] at h
    obtain hold | ⟨key', group', keyId, hv, rfl, hrun⟩ := hnew _ _ h
    · exact (hhistory w key group hold).snoc call
    · simp only [Prod.mk.injEq, Value.text.injEq] at hv
      obtain ⟨rfl, rfl⟩ := hv
      exact ⟨calls, [], keyId, rfl, hrun⟩

/-! ### Reading -/

/-- A text comes from a wrapped key and a ciphertext: the wrapped key was made for the group from an
exported key, and the text encrypts to the ciphertext with that key. -/
structure ComesFrom (suite : Suite) (denied : List Value) (calls : List AnchorCall)
    (group wrapped ciphertext text exported : Text) (key : Key) (nonce : Bytes) : Prop where
  wrapped : WrappedBy denied calls group exported wrapped
  imported : Key.imported (.text exported) = .ok key
  size : key.bytes.length = keySize
  encrypted : EncryptsTo suite.provider key nonce text ciphertext
  front : ∃ blob, Base64.decode ciphertext = .ok blob ∧ blob.take nonceSize = nonce

lemma ofDecoded_cases (r : Except Base64.Fault Bytes) :
    (∃ key, Key.ofDecoded r = .ok key ∧ key.bytes.length = keySize) ∨
      ∃ fault, Key.ofDecoded r = .error (.invalidKey fault) := by
  unfold Key.ofDecoded
  split
  · exact .inr ⟨_, rfl⟩
  · next bytes =>
    by_cases hsize : bytes.length = keySize
    · exact .inl ⟨⟨bytes⟩, if_pos hsize, hsize⟩
    · exact .inr ⟨_, if_neg hsize⟩

lemma imported_text_cases (t : Text) :
    (∃ key, Key.imported (.text t) = .ok key ∧ key.bytes.length = keySize) ∨
      ∃ fault, Key.imported (.text t) = .error (.invalidKey fault) :=
  ofDecoded_cases (Base64.decode t)

lemma decrypt_error_family (suite : Suite) {key : Key} (hkey : key.bytes.length = keySize)
    {s : Text} {e : Entropy} {failure : Failure}
    (h : ((suite.provider.decrypt (.text s) key).result e).1 = .error failure) :
    failure = .decryption ∨ ∃ fault, failure = .crypto fault := by
  obtain ⟨nonce, body, -, hrun⟩ | ⟨-, hrun⟩ := decrypt_text_cases suite hkey s e
  · rw [hrun, plainText_eq_error_iff] at h
    obtain ⟨fault, -, rfl⟩ := h
    exact .inr ⟨_, rfl⟩
  · rw [hrun] at h
    exact .inl (Except.error.inj h).symm

/-- The families of failures that a reader of an entry has to expect. -/
def Expected (failure : Failure) : Prop :=
  ∃ family, failure.family? = some family ∧ (family.isPartOf .groupAuthorization = true ∨
    family.isPartOf .trustAnchor = true ∨ family.isPartOf .crypto = true)

lemma isPartOf_self (family : Family) : family.isPartOf family = true := by
  rw [Family.isPartOf, Family.ancestors]
  simp

lemma isPartOf_parent {family parent : Family} (h : family.parent? = some parent) :
    family.isPartOf parent = true := by
  have hparent : parent ∈ parent.ancestors := by
    rw [Family.ancestors]
    exact List.mem_cons_self
  rw [Family.isPartOf, Family.ancestors, List.contains_eq_mem, decide_eq_true_iff]
  apply List.mem_cons_of_mem
  split
  · next hnone => simp [h] at hnone
  · next p hp =>
    obtain rfl : parent = p := Option.some.inj (h.symm.trans hp)
    exact hparent

lemma expected_groupAuthorization (fault : GroupFault) : Expected (.groupAuthorization fault) :=
  ⟨.groupAuthorization, rfl, .inl (isPartOf_self _)⟩

lemma expected_trustAnchor (fault : AnchorFault) : Expected (.trustAnchor fault) :=
  ⟨.trustAnchor, rfl, .inr (.inl (isPartOf_self _))⟩

lemma expected_crypto (fault : CryptoFault) : Expected (.crypto fault) :=
  ⟨.crypto, rfl, .inr (.inr (isPartOf_self _))⟩

lemma expected_invalidKey (fault : KeyFault) : Expected (.invalidKey fault) :=
  ⟨.invalidKey, rfl, .inr (.inr (isPartOf_parent rfl))⟩

lemma expected_decryption : Expected .decryption :=
  ⟨.decryption, rfl, .inr (.inr (isPartOf_parent rfl))⟩

lemma opened_eq_ok (suite : Suite) {exported ciphertext p : Text} {e : Entropy}
    (h : opened suite (.text exported) (.text ciphertext) e = .ok p) :
    ∃ key nonce, Key.imported (.text exported) = .ok key ∧ key.bytes.length = keySize ∧
      EncryptsTo suite.provider key nonce p ciphertext ∧
      ∃ blob, Base64.decode ciphertext = .ok blob ∧ blob.take nonceSize = nonce := by
  rw [opened] at h
  obtain ⟨key, hk, hsize⟩ | ⟨fault, hk⟩ := imported_text_cases exported
  · simp only [hk] at h
    obtain ⟨nonce, hnonce⟩ := (decrypt_eq_ok_iff suite hsize).mp h
    exact ⟨key, nonce, hk, hsize, hnonce, nonce_of_encryptsTo suite hsize hnonce⟩
  · simp [hk] at h

lemma opened_eq_error (suite : Suite) {exported ciphertext : Text} {e : Entropy} {failure : Failure}
    (h : opened suite (.text exported) (.text ciphertext) e = .error failure) :
    Expected failure := by
  rw [opened] at h
  obtain ⟨key, hk, hsize⟩ | ⟨fault, hk⟩ := imported_text_cases exported
  · simp only [hk] at h
    obtain rfl | ⟨fault, rfl⟩ := decrypt_error_family suite hsize h
    · exact expected_decryption
    · exact expected_crypto fault
  · simp only [hk, Except.error.injEq] at h
    rw [← h]
    exact expected_invalidKey fault

/-- Reading keeps the map in memory, and never finds an entry absent that is there. -/
lemma get_of_entry (suite : Suite) (c : Client) {key : Text} {e : Entropy} {m : Memory}
    (r : Registry) (keyId : Option Text) {entry : Entry}
    (h : m.get? (.text (c.fullKey key)) = some entry) :
    let run := (c.get (localAdapters suite) key).result ⟨⟨e, m, r⟩, keyId⟩
    run.2.world.store = m ∧
      run.1 = match ((Registry.unwrap (.text c.groupId) entry.wrappedKey).result r).1 with
        | .error failure => .error failure
        | .ok u => (opened suite u.plainKey entry.ciphertext e).map some := by
  intro run
  cases hu : (Registry.unwrap (.text c.groupId) entry.wrappedKey).result r with
  | mk outcome r' =>
    cases outcome with
    | error failure =>
      have hrun : run = _ := get_not_unwrapped h hu
      rw [hrun]
      exact ⟨rfl, rfl⟩
    | ok u =>
      have hrun : run = _ := get_unwrapped h hu
      rw [hrun]
      exact ⟨rfl, rfl⟩

/-- What a client reads, whatever the store contains and whatever the trust anchor was asked before.
A text comes from a key that was wrapped for the group of the client; an entry without a text is a
failure of the trust anchor or of the cipher; and the store stays as it is. -/
theorem get_integrity (suite : Suite) (denied : List Value) (calls : List AnchorCall) (e : Entropy)
    (m : Memory) (c : Client) (keyId : Option Text) (key : Text) :
    let run := (c.get (localAdapters suite) key).result
      ⟨⟨e, m, registryAfter denied calls⟩, keyId⟩
    run.2.world.store = m ∧
    (m.get? (.text (c.fullKey key)) = none → run.1 = .ok none) ∧
    ∀ entry wrapped ciphertext, m.get? (.text (c.fullKey key)) = some entry →
      entry.wrappedKey = .text wrapped → entry.ciphertext = .text ciphertext →
      (∀ p, run.1 = .ok (some p) → ∃ exported valueKey nonce,
        ComesFrom suite denied calls c.groupId wrapped ciphertext p exported valueKey nonce) ∧
      ((∀ p, run.1 ≠ .ok (some p)) → ∃ failure, run.1 = .error failure ∧ Expected failure) := by
  intro run
  cases hentry : m.get? (.text (c.fullKey key)) with
  | none =>
    have hrun : run = _ := get_absent hentry
    rw [hrun]
    exact ⟨rfl, fun _ => rfl, fun _ _ _ h => by simp at h⟩
  | some entry =>
    obtain ⟨hstore, hrun⟩ := get_of_entry suite c (e := e) (registryAfter denied calls) keyId hentry
    refine ⟨hstore, fun h => by simp at h, ?_⟩
    intro entry' wrapped ciphertext hsame hwrapped hciphertext
    obtain rfl := Option.some.inj hsame
    obtain ⟨groups, hr, hhistory⟩ := registry_history denied calls
    obtain ⟨-, -, ⟨fault, hu⟩ | ⟨fault, hu⟩ | ⟨exported, hlookup, hu⟩⟩ :=
      unwrap_cases hr c.groupId wrapped
    · have hfail : run.1 = .error (.groupAuthorization fault) := by
        rw [hrun, hwrapped, hu]
      rw [hfail]
      exact ⟨fun p h => by simp at h, fun _ => ⟨_, rfl, expected_groupAuthorization fault⟩⟩
    · have hfail : run.1 = .error (.trustAnchor fault) := by
        rw [hrun, hwrapped, hu]
      rw [hfail]
      exact ⟨fun p h => by simp at h, fun _ => ⟨_, rfl, expected_trustAnchor fault⟩⟩
    · have hopen : run.1 = (opened suite (.text exported) (.text ciphertext) e).map some := by
        rw [hrun, hwrapped, hu, hciphertext]
      rw [hopen]
      cases ho : opened suite (.text exported) (.text ciphertext) e with
      | error failure =>
        refine ⟨fun p h => by simp [Except.map] at h, ?_⟩
        intro _
        exact ⟨failure, rfl, opened_eq_error suite ho⟩
      | ok text =>
        refine ⟨?_, fun h => absurd rfl (h text)⟩
        intro p hp
        obtain rfl : text = p := by simpa [Except.map] using hp
        obtain ⟨valueKey, nonce, himported, hsize, hencrypts, hfront⟩ := opened_eq_ok suite ho
        exact ⟨exported, valueKey, nonce, hhistory _ _ _ (mem_of_lookup hlookup), himported, hsize,
          hencrypts, hfront⟩

/-- Where a text comes from that is read from a store that someone else has filled. -/
theorem get_integrity_foreign_entry :
    let c : Client := ⟨"alice", "privatekv", "private", by decide, by decide, by decide⟩
    let valueKey : Key := ⟨List.replicate 32 0⟩
    let nonce : Bytes := List.replicate 12 0
    let exported := Base64.encode valueKey.bytes
    let wrapped := Base64.encode
      ((Registry.marker (.text exported) (.text c.groupId) "mock-key-1").flatMap Utf8.encodeChar)
    let ciphertext := Payload.toText ⟨nonce, Gcm.encrypt valueKey.bytes nonce [104, 105]⟩
    let calls := [AnchorCall.lookup c.groupId, .wrap c.groupId exported]
    let entry := Entry.current wrapped ciphertext "any"
    let m : Memory := ⟨[(.text (c.fullKey "k"), entry)]⟩
    ((c.get (localAdapters .streaming) "k").result
        ⟨⟨Entropy.ofBytes [], m, registryAfter [] calls⟩, none⟩).1 = .ok (some (ofString "hi")) ∧
      ∃ exported valueKey nonce, ComesFrom .streaming [] calls c.groupId wrapped ciphertext
        (ofString "hi") exported valueKey nonce := by
  intro c valueKey nonce exported wrapped ciphertext calls entry m
  have hentry : m.get? (.text (c.fullKey "k")) = some entry := by
    simp [m, Memory.get?, Bindings.get?]
  have hlookup : (Registry.lookup (.text c.groupId)).result (Registry.start []) = _ :=
    lookup_allowed (orderly_start []) rfl
  have hr : Orderly (registryAfter [] [.lookup c.groupId]) [c.groupId] := by
    simp only [registryAfter, List.foldl_cons, List.foldl_nil, AnchorCall.after, hlookup]
    exact orderly_enroll _ (orderly_start [])
  have hw : wrapping exported c.groupId (keyIdOf [c.groupId] c.groupId) = .ok wrapped :=
    wrapping_of_surrogateFree (by decide) (by decide) 0
  have hwrap : (Registry.wrap (.text c.groupId) (.text exported)).result
      (registryAfter [] [.lookup c.groupId]) = _ := wrap_encodable hr rfl hw
  have hafter : registryAfter [] calls = _ := congrArg Prod.snd hwrap
  have hr' : Orderly (registryAfter [] calls) (enroll [c.groupId] c.groupId) := by
    rw [hafter]
    exact orderly_record _ hr hw
  have hfound : (registryAfter [] calls).wrapped.lookup wrapped =
      some (.text exported, .text c.groupId) := by
    rw [hafter]
    exact List.lookup_cons_self
  have hopened : opened .streaming (.text exported) (.text ciphertext) (Entropy.ofBytes []) =
      .ok (ofString "hi") :=
    opened_of_sealed .streaming (by decide) (by decide) (by decide) _
  have hread : ((c.get (localAdapters .streaming) "k").result
      ⟨⟨Entropy.ofBytes [], m, registryAfter [] calls⟩, none⟩).1 = .ok (some (ofString "hi")) := by
    rw [get_opened hentry rfl rfl (unwrap_own hr' rfl hfound) hopened]
  have h := get_integrity .streaming [] calls (Entropy.ofBytes []) m c none "k"
  exact ⟨hread, (h.2.2 entry wrapped ciphertext hentry rfl rfl).1 _ hread⟩

end EnvelopeStore.Proofs
