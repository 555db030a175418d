import EnvelopeStore.Proofs.Order
import EnvelopeStore.Proofs.Providers
import EnvelopeStore.World

/-!
# What clients do to their world

What an operation of a client does to a world, told by what the store and the trust anchor answer.
The cipher runs in the process of the client, so what it answers is known.
-/

namespace EnvelopeStore.Proofs
open Text

/-! ### Parts of a world -/

section

variable {S A σ α : Type} {w : World S A} {keyId : Option Text} {r : Except Failure α}

lemma result_outside (x : Action σ α) (s : Client.State σ) :
    (Client.outside x).result s =
      ((x.result s.world).1, { s with world := (x.result s.world).2 }) :=
  result_on Client.worldPart x s

lemma outside_entropy {x : Action Entropy α} {e : Entropy} (h : x.result w.entropy = (r, e)) :
    (Client.outside (x.on World.entropyPart)).result ⟨w, keyId⟩ =
      (r, ⟨{ w with entropy := e }, keyId⟩) := by
  have hw : (x.on World.entropyPart).result w = (r, { w with entropy := e }) := by
    rw [result_on, World.entropyPart, h]
  rw [result_outside, hw]

lemma outside_store {x : Action S α} {m : S} (h : x.result w.store = (r, m)) :
    (Client.outside (x.on World.storePart)).result ⟨w, keyId⟩ =
      (r, ⟨{ w with store := m }, keyId⟩) := by
  have hw : (x.on World.storePart).result w = (r, { w with store := m }) := by
    rw [result_on, World.storePart, h]
  rw [result_outside, hw]

lemma outside_anchor {x : Action A α} {a : A} (h : x.result w.anchor = (r, a)) :
    (Client.outside (x.on World.anchorPart)).result ⟨w, keyId⟩ =
      (r, ⟨{ w with anchor := a }, keyId⟩) := by
  have hw : (x.on World.anchorPart).result w = (r, { w with anchor := a }) := by
    rw [result_on, World.anchorPart, h]
  rw [result_outside, hw]

lemma learn_result {s : Client.State σ} (id : Text) :
    (Client.learn id).result s = (.ok ⟨⟩, { s with keyId := s.keyId.or (some id) }) := rfl

end

/-! ### The cipher -/

/-- What an unwrapped key and a ciphertext come to. -/
def opened (suite : Suite) (plainKey ciphertext : Value) (e : Entropy) : Except Failure Text :=
  match Key.imported plainKey with
  | .error failure => .error failure
  | .ok key => ((suite.provider.decrypt ciphertext key).result e).1

lemma decrypt_result (suite : Suite) (v : Value) (key : Key) (e : Entropy) :
    (suite.provider.decrypt v key).result e = (((suite.provider.decrypt v key).result e).1, e) := by
  have hkeeps : ((suite.provider.decrypt v key).result e).2 = e := by
    rw [suite_provider_eq]
    exact congrArg Prod.snd (result_ofExcept _ _)
  exact Prod.ext rfl hkeeps

lemma opened_of_sealed (suite : Suite) {key : Key} (hkey : key.bytes.length = keySize)
    {nonce plain : Bytes} (hnonce : nonce.length = nonceSize) {t : Text}
    (ht : Utf8.encode t = .ok plain) (e : Entropy) :
    opened suite (.text (Base64.encode key.bytes))
      (.text (Payload.toText ⟨nonce, Cipher.Gcm.encrypt key.bytes nonce plain⟩)) e = .ok t := by
  have himported : Key.imported (.text (Base64.encode key.bytes)) = .ok key := by
    rw [Key.imported, base64_decode_encode, Key.ofDecoded.eq_def]
    exact if_pos hkey
  have hplain : Provider.plainText plain = .ok t := by
    rw [Provider.plainText, utf8_decode_eq_ok_iff.mpr ht]
  rw [opened, himported, ← hplain]
  exact congrArg Prod.fst (decrypt_of_sealed suite hkey hnonce plain)

lemma importKey_result (suite : Suite) (v : Value) (e : Entropy) :
    (suite.provider.importKey v).result e = (Key.imported v, e) := by
  rw [suite_provider_eq]
  exact result_ofExcept _ _

def freshKey (e : Entropy) : Key := ⟨e.segment e.position keySize⟩

def freshNonce (e : Entropy) : Bytes := e.segment (e.position + keySize) nonceSize

/-- How many random bytes writing a text takes. -/
def writeCost : Nat := keySize + nonceSize

def spend (e : Entropy) : Entropy := { e with position := e.position + writeCost }

lemma hasLeft_of_le {e : Entropy} {m n : Nat} (h : e.hasLeft n = true) (hmn : m ≤ n) :
    e.hasLeft m = true := by
  cases hl : e.limit with
  | none => simp [Entropy.hasLeft, hl]
  | some limit =>
    simp only [Entropy.hasLeft, hl, decide_eq_true_eq] at h ⊢
    omega

lemma hasLeft_advance {e : Entropy} {m n : Nat} (h : e.hasLeft (m + n) = true) :
    Entropy.hasLeft { e with position := e.position + m } n = true := by
  cases hl : e.limit with
  | none => simp [Entropy.hasLeft]
  | some limit =>
    simp only [Entropy.hasLeft, hl, decide_eq_true_eq] at h ⊢
    omega

lemma generate_result {e : Entropy} (h : e.hasLeft keySize = true) :
    Key.generate.result e = (.ok (freshKey e), { e with position := e.position + keySize }) := by
  simp only [Action.result, Key.generate, Entropy.draw, if_pos h]
  rfl

lemma size_freshKey (e : Entropy) : (freshKey e).bytes.length = keySize := by
  simp [freshKey, Entropy.segment]

lemma size_freshNonce (e : Entropy) : (freshNonce e).length = nonceSize := by
  simp [freshNonce, Entropy.segment]

lemma generateKey_eq (suite : Suite) : suite.provider.generateKey = Key.generate := by
  rw [suite_provider_eq]
  rfl

lemma exportKey_result (suite : Suite) {key : Key} (hkey : key.bytes.length = keySize)
    (e : Entropy) :
    (suite.provider.exportKey key).result e = (.ok (Base64.encode key.bytes), e) := by
  have hexported : key.exported = .ok (Base64.encode key.bytes) := by
    rw [Key.exported, check_eq_ok hkey]
  rw [suite_provider_eq, ← hexported]
  exact result_ofExcept _ _

def freshCiphertext (e : Entropy) (plain : Bytes) : Text :=
  Payload.toText ⟨freshNonce e, Cipher.Gcm.encrypt (freshKey e).bytes (freshNonce e) plain⟩

lemma encrypt_fresh (suite : Suite) {e : Entropy} {t : Text} {plain : Bytes}
    (hleft : e.hasLeft writeCost = true) (ht : Utf8.encode t = .ok plain) :
    (suite.provider.encrypt (.text t) (freshKey e)).result
        { e with position := e.position + keySize } =
      (.ok (freshCiphertext e plain), spend e) := by
  have hnonce := draw_result (hasLeft_advance (m := keySize) (n := nonceSize) hleft)
  rw [encrypt_of_encodable suite (size_freshKey e) hnonce ht, spend, writeCost, ← Nat.add_assoc]
  rfl

section

variable {S A : Type} {storage : Storage S} {anchor : TrustAnchor A} {suite : Suite} {c : Client}
  {key t : Text} {e : Entropy} {m m' : S} {a a' : A} {keyId : Option Text} {entry : Entry}
  {plain : Bytes} {failure : Failure}

/-! ### Reading -/

lemma get_of_absent
    (h : (storage.get (.text (c.fullKey key))).result m = (.ok none, m')) :
    (c.get (World.adapters suite.provider storage anchor) key).result ⟨⟨e, m, a⟩, keyId⟩ =
      (.ok none, ⟨⟨e, m', a⟩, keyId⟩) := by
  simp only [Client.get, World.adapters, Storage.on]
  rw [result_bind_of_ok (outside_store h)]
  rfl

lemma get_of_not_unwrapped
    (h : (storage.get (.text (c.fullKey key))).result m = (.ok (some entry), m'))
    (hu : (anchor.unwrap (.text c.groupId) entry.wrappedKey).result a = (.error failure, a')) :
    (c.get (World.adapters suite.provider storage anchor) key).result ⟨⟨e, m, a⟩, keyId⟩ =
      (.error failure, ⟨⟨e, m', a'⟩, keyId⟩) := by
  simp only [Client.get, World.adapters, Storage.on, TrustAnchor.on]
  rw [result_bind_of_ok (outside_store h)]
  exact result_bind_of_error (outside_anchor hu)

lemma get_of_unwrapped {plainKey : Value} {id : Text}
    (h : (storage.get (.text (c.fullKey key))).result m = (.ok (some entry), m'))
    (hu : (anchor.unwrap (.text c.groupId) entry.wrappedKey).result a =
      (.ok ⟨plainKey, id⟩, a')) :
    (c.get (World.adapters suite.provider storage anchor) key).result ⟨⟨e, m, a⟩, keyId⟩ =
      ((opened suite plainKey entry.ciphertext e).map some,
        ⟨⟨e, m', a'⟩, keyId.or (some id)⟩) := by
  simp only [Client.get, World.adapters, Storage.on, TrustAnchor.on, Provider.on]
  rw [result_bind_of_ok (outside_store h)]
  refine (result_bind_of_ok (outside_anchor hu)).trans ?_
  rw [result_bind_of_ok (learn_result _)]
  cases hk : Key.imported plainKey with
  | error failure =>
    have himport := importKey_result suite plainKey e
    rw [hk] at himport
    rw [result_bind_of_error (outside_entropy himport), opened, hk]
    rfl
  | ok valueKey =>
    have himport := importKey_result suite plainKey e
    have hdecrypt := decrypt_result suite entry.ciphertext valueKey e
    rw [hk] at himport
    rw [result_bind_of_ok (outside_entropy himport), result_map, outside_entropy hdecrypt, opened,
      hk]

/-! ### Writing -/

lemma set_of_unencodable {fault : EncodeFault} (hleft : e.hasLeft writeCost = true)
    (ht : Utf8.encode t = .error fault) :
    (c.set (World.adapters suite.provider storage anchor) key (.text t)).result
        ⟨⟨e, m, a⟩, keyId⟩ =
      (.error (.crypto (.unencodable fault)), ⟨⟨spend e, m, a⟩, keyId⟩) := by
  have hkey := generate_result (hasLeft_of_le hleft (Nat.le_add_right keySize nonceSize))
  have hnonce := draw_result (hasLeft_advance (m := keySize) (n := nonceSize) hleft)
  have hencrypt := encrypt_of_unencodable suite (size_freshKey e) hnonce ht
  simp only [Client.set, World.adapters, Provider.on, generateKey_eq]
  rw [result_bind_of_ok (outside_entropy hkey), result_bind_of_error (outside_entropy hencrypt)]
  rfl

lemma set_of_not_wrapped (hleft : e.hasLeft writeCost = true) (ht : Utf8.encode t = .ok plain)
    (hw : (anchor.wrap (.text c.groupId) (.text (Base64.encode (freshKey e).bytes))).result a =
      (.error failure, a')) :
    (c.set (World.adapters suite.provider storage anchor) key (.text t)).result
        ⟨⟨e, m, a⟩, keyId⟩ =
      (.error failure, ⟨⟨spend e, m, a'⟩, keyId⟩) := by
  have hkey := generate_result (hasLeft_of_le hleft (Nat.le_add_right keySize nonceSize))
  have hencrypt := encrypt_fresh suite hleft ht
  have hexport := exportKey_result suite (size_freshKey e) (spend e)
  simp only [Client.set, World.adapters, Provider.on, TrustAnchor.on, generateKey_eq]
  rw [result_bind_of_ok (outside_entropy hkey), result_bind_of_ok (outside_entropy hencrypt),
    result_bind_of_ok (outside_entropy hexport), result_bind_of_error (outside_anchor hw)]

lemma set_of_wrapped {wrapped id : Text} {receipt : Receipt}
    (hleft : e.hasLeft writeCost = true) (ht : Utf8.encode t = .ok plain)
    (hw : (anchor.wrap (.text c.groupId) (.text (Base64.encode (freshKey e).bytes))).result a =
      (.ok ⟨wrapped, id⟩, a'))
    (hs : (storage.set (.text (c.fullKey key))
        (.current wrapped (freshCiphertext e plain) id)).result m = (.ok receipt, m')) :
    (c.set (World.adapters suite.provider storage anchor) key (.text t)).result
        ⟨⟨e, m, a⟩, keyId⟩ =
      (.ok receipt, ⟨⟨spend e, m', a'⟩, keyId.or (some id)⟩) := by
  have hkey := generate_result (hasLeft_of_le hleft (Nat.le_add_right keySize nonceSize))
  have hencrypt := encrypt_fresh suite hleft ht
  have hexport := exportKey_result suite (size_freshKey e) (spend e)
  simp only [Client.set, World.adapters, Provider.on, Storage.on, TrustAnchor.on, generateKey_eq]
  rw [result_bind_of_ok (outside_entropy hkey), result_bind_of_ok (outside_entropy hencrypt),
    result_bind_of_ok (outside_entropy hexport), result_bind_of_ok (outside_anchor hw),
    result_bind_of_ok (learn_result _), outside_store hs]

/-! ### Deleting and listing -/

lemma delete_of {receipt : Receipt}
    (h : (storage.delete (.text (c.fullKey key))).result m = (.ok receipt, m')) :
    (c.delete (World.adapters suite.provider storage anchor) key).result ⟨⟨e, m, a⟩, keyId⟩ =
      (.ok receipt, ⟨⟨e, m', a⟩, keyId⟩) := by
  simp only [Client.delete, World.adapters, Storage.on]
  rw [outside_store h]

lemma ownKey?_of_startsWith {full : Text} (h : full.startsWith c.keyBase = true) :
    c.ownKey? (.text full) = .ok (some (full.drop c.keyBase.length)) := by
  rw [Client.ownKey?, if_pos h]

lemma mapM_ownKey? {fulls : List Text} (h : ∀ full ∈ fulls, full.startsWith c.keyBase = true) :
    (fulls.map Value.text).mapM c.ownKey? =
      .ok (fulls.map fun full => some (full.drop c.keyBase.length)) := by
  induction fulls with
  | nil => rfl
  | cons full rest ih =>
    have hfull := ownKey?_of_startsWith (h full List.mem_cons_self)
    have hrest := ih fun other hother => h other (List.mem_cons_of_mem _ hother)
    rw [List.map_cons, List.mapM_cons, hfull, hrest]
    rfl

lemma list_of {start : Text} {fulls : List Text}
    (h : (storage.list (.text (c.fullKey start))).result m = (.ok (fulls.map .text), m'))
    (hown : ∀ full ∈ fulls, c.fullKey start <+: full) :
    (c.list (World.adapters suite.provider storage anchor) start).result ⟨⟨e, m, a⟩, keyId⟩ =
      (.ok (fulls.map (·.drop c.keyBase.length)), ⟨⟨e, m', a⟩, keyId⟩) := by
  have hstarts : ∀ full ∈ fulls, full.startsWith c.keyBase = true := fun full hfull =>
    startsWith_iff.mpr ((List.prefix_append c.keyBase start).trans (hown full hfull))
  simp only [Client.list, World.adapters, Storage.on]
  rw [result_bind_of_ok (outside_store h), mapM_ownKey? hstarts, Action.ofExcept_ok,
    result_bind_of_ok (result_pure _ _), result_pure, List.filterMap_map]
  simp

end

end EnvelopeStore.Proofs
