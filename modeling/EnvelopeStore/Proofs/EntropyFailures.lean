import EnvelopeStore.Proofs.InProcess
import EnvelopeStore.Proofs.Integrity
import EnvelopeStore.Proofs.Tasks

/-!
# When random bytes run out

A write asks for random bytes twice, for the key and then for the nonce. The first request that is
refused ends it, and nothing is stored. A refused key is reported as a failure of the cipher; a
refused nonce is passed on as it comes from the source, outside of all families.
-/

namespace EnvelopeStore.Proofs
open Text

/-! ### Requests that are refused -/

lemma hasLeft_advance_eq (e : Entropy) (m n : Nat) :
    Entropy.hasLeft { e with position := e.position + m } n = e.hasLeft (m + n) := by
  unfold Entropy.hasLeft
  simp only [Nat.add_assoc]

lemma generate_refused {e : Entropy} (h : e.hasLeft keySize = false) :
    Key.generate.result e = (.error (.crypto .entropyUnavailable), e) := by
  simp only [Action.result, Key.generate, Entropy.draw, h, Bool.false_eq_true, if_false]

section

variable {S A : Type} {storage : Storage S} {anchor : TrustAnchor A} {suite : Suite} {c : Client}
  {key t : Text} {e : Entropy} {m : S} {a a' : A} {keyId : Option Text} {failure : Failure}

lemma set_of_no_key (h : e.hasLeft keySize = false) (text : Value) :
    (c.set (World.adapters suite.provider storage anchor) key text).result ⟨⟨e, m, a⟩, keyId⟩ =
      (.error (.crypto .entropyUnavailable), ⟨⟨e, m, a⟩, keyId⟩) := by
  simp only [Client.set, World.adapters, Provider.on, generateKey_eq]
  exact result_bind_of_error (outside_entropy (generate_refused h))

lemma set_of_no_nonce (hkey : e.hasLeft keySize = true) (h : e.hasLeft writeCost = false) :
    (c.set (World.adapters suite.provider storage anchor) key (.text t)).result
        ⟨⟨e, m, a⟩, keyId⟩ =
      (.error .entropyExhausted,
        ⟨⟨{ e with position := e.position + keySize }, m, a⟩, keyId⟩) := by
  have hnone : Entropy.hasLeft { e with position := e.position + keySize } nonceSize = false := by
    rw [hasLeft_advance_eq]
    exact h
  have hencrypt : (suite.provider.encrypt (.text t) (freshKey e)).result
      { e with position := e.position + keySize } =
      (.error .entropyExhausted, { e with position := e.position + keySize }) := by
    rw [encrypt_eq_outcome, encryptOutcome, if_neg (not_not.mpr (size_freshKey e)), if_pos hnone]
  simp only [Client.set, World.adapters, Provider.on, generateKey_eq]
  rw [result_bind_of_ok (outside_entropy (generate_result hkey)),
    result_bind_of_error (outside_entropy hencrypt)]

lemma ask_of_no_key (hlookup : anchor.lookup? = none) (h : e.hasLeft keySize = false) :
    (c.getKeyId (World.adapters suite.provider storage anchor)).result ⟨⟨e, m, a⟩, none⟩ =
      (.error (.crypto .entropyUnavailable), ⟨⟨e, m, a⟩, none⟩) := by
  rw [getKeyId_eq, result_bind_of_ok (result_get _)]
  simp only [keyIdOr, askKeyId, World.adapters, TrustAnchor.on, Provider.on, hlookup,
    Option.map_none, generateKey_eq]
  exact result_bind_of_error (result_bind_of_error (outside_entropy (generate_refused h)))

lemma ask_of_not_wrapped (hlookup : anchor.lookup? = none) (h : e.hasLeft keySize = true)
    (hw : (anchor.wrap (.text c.groupId) (.text (Base64.encode (freshKey e).bytes))).result a =
      (.error failure, a')) :
    (c.getKeyId (World.adapters suite.provider storage anchor)).result ⟨⟨e, m, a⟩, none⟩ =
      (.error failure, ⟨⟨{ e with position := e.position + keySize }, m, a'⟩, none⟩) := by
  have hexport := exportKey_result suite (size_freshKey e)
    { e with position := e.position + keySize }
  rw [getKeyId_eq, result_bind_of_ok (result_get _)]
  simp only [keyIdOr, askKeyId, World.adapters, TrustAnchor.on, Provider.on, hlookup,
    Option.map_none, generateKey_eq]
  apply result_bind_of_error
  rw [result_bind_of_ok (outside_entropy (generate_result h)),
    result_bind_of_ok (outside_entropy hexport), result_bind_of_error (outside_anchor hw)]

lemma ask_of_wrapped {wrapped : WrappedKey} (hlookup : anchor.lookup? = none)
    (h : e.hasLeft keySize = true)
    (hw : (anchor.wrap (.text c.groupId) (.text (Base64.encode (freshKey e).bytes))).result a =
      (.ok wrapped, a')) :
    (c.getKeyId (World.adapters suite.provider storage anchor)).result ⟨⟨e, m, a⟩, none⟩ =
      (.ok wrapped.keyId,
        ⟨⟨{ e with position := e.position + keySize }, m, a'⟩, some wrapped.keyId⟩) := by
  have hexport := exportKey_result suite (size_freshKey e)
    { e with position := e.position + keySize }
  have hask : (askKeyId (World.adapters suite.provider storage anchor) c).result
      ⟨⟨e, m, a⟩, none⟩ =
      (.ok wrapped.keyId, ⟨⟨{ e with position := e.position + keySize }, m, a'⟩, none⟩) := by
    simp only [askKeyId, World.adapters, TrustAnchor.on, Provider.on, hlookup, Option.map_none,
      generateKey_eq]
    rw [result_bind_of_ok (outside_entropy (generate_result h)),
      result_bind_of_ok (outside_entropy hexport), result_bind_of_ok (outside_anchor hw),
      result_pure]
  rw [getKeyId_eq, result_bind_of_ok (result_get _)]
  simp only [keyIdOr]
  rw [result_bind_of_ok hask, result_bind_of_ok (learn_result _), result_pure]
  rfl

end

/-! ### Registries that can be reached -/

/-- A registry that calls and changes of the denied groups can lead to. -/
inductive Reached : Registry → Prop
  | start (denied : List Value) : Reached (.start denied)
  | call {r : Registry} (h : Reached r) (call : AnchorCall) : Reached (call.after r)
  | deny {r : Registry} (h : Reached r) (denied : List Value) :
    Reached { r with denied := denied }

lemma Reached.orderly {r : Registry} (h : Reached r) : ∃ groups, Orderly r groups := by
  induction h with
  | start denied => exact ⟨[], orderly_start denied⟩
  | call _ call ih =>
    obtain ⟨groups, hr⟩ := ih
    obtain ⟨groups', hr', -⟩ := orderly_after hr call
    exact ⟨groups', hr'⟩
  | deny _ denied ih =>
    obtain ⟨groups, hr⟩ := ih
    exact ⟨groups, hr.keyIds, hr.wrapped⟩

section

variable {r : Registry} {group : Text}

lemma wrap_cases (hr : Reached r) (hgroup : SurrogateFree group) (bytes : Bytes) :
    (∃ r', (Registry.wrap (.text group) (.text (Base64.encode bytes))).result r =
      (.error (.groupAuthorization (.notMember (.text group))), r')) ∨
    ∃ wrapped r', (Registry.wrap (.text group) (.text (Base64.encode bytes))).result r =
      (.ok wrapped, r') := by
  obtain ⟨groups, horderly⟩ := hr.orderly
  by_cases hdenied : r.isDenied (.text group) = true
  · exact .inl ⟨_, wrap_denied hdenied⟩
  · have hallowed : r.isDenied (.text group) = false := Bool.not_eq_true _ ▸ hdenied
    have hw := wrapping_of_surrogateFree (surrogateFree_base64 bytes) hgroup (groups.idxOf group)
    exact .inr ⟨_, _, wrap_encodable horderly hallowed hw⟩

lemma lookup_cases (hr : Reached r) (group : Text) :
    (∃ r', (Registry.lookup (.text group)).result r =
      (.error (.groupAuthorization (.notMember (.text group))), r')) ∨
    ∃ id r', (Registry.lookup (.text group)).result r = (.ok id, r') := by
  obtain ⟨groups, horderly⟩ := hr.orderly
  by_cases hdenied : r.isDenied (.text group) = true
  · exact .inl ⟨_, lookup_denied hdenied⟩
  · exact .inr ⟨_, _, lookup_allowed horderly (Bool.not_eq_true _ ▸ hdenied)⟩

end

/-! ### Writing and asking -/

section

variable {suite : Suite} {anchor : TrustAnchor Registry} {c : Client} {r : Registry} {e : Entropy}
  {m : Memory} {keyId : Option Text}

lemma set_with_enough (hanchor : anchor.wrap = Registry.wrap) (hgroup : SurrogateFree c.groupId)
    (hr : Reached r) (hleft : e.hasLeft writeCost = true) (key text : Text) {failure : Failure}
    {s : Client.State (World Memory Registry)}
    (h : (c.set (World.adapters suite.provider Memory.storage anchor) key (.text text)).result
      ⟨⟨e, m, r⟩, keyId⟩ = (.error failure, s)) :
    Expected failure ∧ s.world.store = m := by
  cases ht : Utf8.encode text with
  | error fault =>
    rw [set_of_unencodable hleft ht] at h
    obtain ⟨hfailure, rfl⟩ := Prod.mk.inj h
    obtain rfl := Except.error.inj hfailure
    exact ⟨expected_crypto _, rfl⟩
  | ok plain =>
    obtain ⟨r', hw⟩ | ⟨wrapped, r', hw⟩ := wrap_cases hr hgroup (freshKey e).bytes
    · rw [← hanchor] at hw
      rw [set_of_not_wrapped hleft ht hw] at h
      obtain ⟨hfailure, rfl⟩ := Prod.mk.inj h
      obtain rfl := Except.error.inj hfailure
      exact ⟨expected_groupAuthorization _, rfl⟩
    · rw [← hanchor] at hw
      rw [set_of_wrapped hleft ht hw (memory_set m _ _)] at h
      simp at h

lemma ask_expected (hanchor : anchor = Registry.anchor ∨ anchor = Registry.anchor.wrapOnly)
    (hgroup : SurrogateFree c.groupId) (hr : Reached r) {result : Except Failure Text}
    {s : Client.State (World Memory Registry)}
    (h : (c.getKeyId (World.adapters suite.provider Memory.storage anchor)).result
      ⟨⟨e, m, r⟩, keyId⟩ = (result, s)) :
    (∀ failure, result = .error failure → Expected failure) ∧ s.world.store = m := by
  cases keyId with
  | some id =>
    rw [getKeyId_eq, result_bind_of_ok (result_get _)] at h
    obtain ⟨rfl, rfl⟩ := Prod.mk.inj h
    exact ⟨nofun, rfl⟩
  | none =>
    obtain rfl | rfl := hanchor
    · change (c.getKeyId (localAdapters suite)).result _ = _ at h
      obtain ⟨r', hl⟩ | ⟨id, r', hl⟩ := lookup_cases hr c.groupId
      · rw [getKeyId_refused hl] at h
        obtain ⟨rfl, rfl⟩ := Prod.mk.inj h
        refine ⟨?_, rfl⟩
        rintro _ ⟨rfl⟩
        exact expected_groupAuthorization _
      · rw [getKeyId_found hl] at h
        obtain ⟨rfl, rfl⟩ := Prod.mk.inj h
        exact ⟨nofun, rfl⟩
    · cases hleft : e.hasLeft keySize with
      | false =>
        rw [ask_of_no_key rfl hleft] at h
        obtain ⟨rfl, rfl⟩ := Prod.mk.inj h
        refine ⟨?_, rfl⟩
        rintro _ ⟨rfl⟩
        exact expected_crypto _
      | true =>
        obtain ⟨r', hw⟩ | ⟨wrapped, r', hw⟩ := wrap_cases hr hgroup (freshKey e).bytes
        · rw [ask_of_not_wrapped rfl hleft hw] at h
          obtain ⟨rfl, rfl⟩ := Prod.mk.inj h
          refine ⟨?_, rfl⟩
          rintro _ ⟨rfl⟩
          exact expected_groupAuthorization _
        · rw [ask_of_wrapped rfl hleft hw] at h
          obtain ⟨rfl, rfl⟩ := Prod.mk.inj h
          exact ⟨nofun, rfl⟩

/-- With a map in memory and a registry that any calls have led to, writing and asking for the key
id fail in families that a caller has to expect, and leave the map as it was, with one exception:
where there are enough random bytes for a key, but not for a nonce after it, writing passes on the
failure of the source, which has no family. Nothing is stored then either, but the bytes of the key
are spent. A key that is refused is a failure of the cipher, for either of them. -/
theorem refused_nonce_is_passed_on (suite : Suite) {anchor : TrustAnchor Registry}
    (hanchor : anchor = Registry.anchor ∨ anchor = Registry.anchor.wrapOnly) {c : Client}
    (hgroup : SurrogateFree c.groupId) {r : Registry} (hr : Reached r) (e : Entropy) (m : Memory)
    (keyId : Option Text) (key text : Text) :
    let a := World.adapters suite.provider Memory.storage anchor
    let s : Client.State (World Memory Registry) := ⟨⟨e, m, r⟩, keyId⟩
    let write := (c.set a key (.text text)).result s
    let ask := (c.getKeyId a).result s
    (e.hasLeft keySize = false → write = (.error (.crypto .entropyUnavailable), s)) ∧
    (e.hasLeft keySize = true → e.hasLeft writeCost = false →
      write = (.error .entropyExhausted,
        ⟨⟨{ e with position := e.position + keySize }, m, r⟩, keyId⟩)) ∧
    (e.hasLeft writeCost = true → ∀ failure, write.1 = .error failure →
      Expected failure ∧ write.2.world.store = m) ∧
    (e.hasLeft keySize = false → keyId = none → anchor.lookup? = none →
      ask = (.error (.crypto .entropyUnavailable), s)) ∧
    (∀ failure, ask.1 = .error failure → Expected failure) ∧ ask.2.world.store = m := by
  intro a s write ask
  have hwrap : anchor.wrap = Registry.wrap := by
    obtain rfl | rfl := hanchor <;> rfl
  obtain ⟨hexpected, hstore⟩ := ask_expected hanchor hgroup hr (rfl : _ = (ask.1, ask.2))
  refine ⟨fun h => set_of_no_key h _, fun hkey h => set_of_no_nonce hkey h, ?_, ?_, hexpected,
    hstore⟩
  · intro hleft failure hfailure
    exact set_with_enough hwrap hgroup hr hleft key text (Prod.ext hfailure rfl)
  · rintro h rfl hlookup
    exact ask_of_no_key hlookup h

end

/-- With 31 bytes left a write gets no key, with 40 it gets one but no nonce, and with 44 all that
it needs, so that only a denied group can still make it fail. -/
theorem set_with_few_bytes_left :
    let alice : Client := ⟨"alice", "privatekv", "private", by decide, by decide, by decide⟩
    let a := World.adapters Provider.streaming Memory.storage Registry.anchor.wrapOnly
    let r : Registry := { Registry.start [] with denied := [.text alice.groupId] }
    let run := fun limit =>
      (alice.set a "k" (.text "v")).result ⟨⟨.seeded 1 (some limit), .empty, r⟩, none⟩
    (run 31).1 = .error (.crypto .entropyUnavailable) ∧ (run 40).1 = .error .entropyExhausted ∧
      ∀ failure, (run 44).1 = .error failure → Expected failure := by
  intro alice a r run
  have hgroup : SurrogateFree alice.groupId := by decide
  have hr : Reached r := (Reached.start []).deny _
  have hall := fun limit => refused_nonce_is_passed_on .streaming (.inr rfl) hgroup hr
    (.seeded 1 (some limit)) .empty none "k" "v"
  obtain ⟨hkey, -⟩ := hall 31
  obtain ⟨-, hnonce, -⟩ := hall 40
  obtain ⟨-, -, henough, -⟩ := hall 44
  refine ⟨congrArg Prod.fst (hkey rfl), congrArg Prod.fst (hnonce rfl rfl), ?_⟩
  intro failure h
  exact (henough rfl failure h).1

/-- A write that gets a key but no nonce neither succeeds nor fails within the families. -/
theorem set_fails_outside_families :
    let alice : Client := ⟨"alice.near", "privatekv", "private", by decide, by decide, by decide⟩
    let a := World.adapters Provider.oneShot Memory.storage Registry.anchor
    let write := (alice.set a "k" (.text "v")).result
      ⟨⟨.seeded 1 (some 40), .empty, .start []⟩, none⟩
    ¬((∃ receipt, write.1 = .ok receipt) ∨ ∃ failure family, write.1 = .error failure ∧
      failure.family? = some family ∧ family.isPartOf .store = true) := by
  intro alice a write
  have hwrite : write.1 = .error .entropyExhausted := rfl
  rw [hwrite]
  rintro (⟨receipt, h⟩ | ⟨failure, family, h, hfamily, -⟩)
  · exact absurd h nofun
  · obtain rfl := Except.error.inj h
    exact absurd hfamily nofun

end EnvelopeStore.Proofs
