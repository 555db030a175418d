import EnvelopeStore.Proofs.Operations
import EnvelopeStore.Proofs.Registry
import EnvelopeStore.Storage.Memory

/-!
# Clients on a store and a trust anchor in process

What an operation of a client does to a world that is a source of entropy, a map in memory and a
registry, told by what it does to each of the three.
-/

namespace EnvelopeStore.Proofs
open Text

/-- The surroundings of clients that use one way of running the cipher. -/
def localAdapters (suite : Suite) : Adapters (World Memory Registry) :=
  World.adapters suite.provider Memory.storage Registry.anchor

/-! ### The map in memory -/

lemma memory_get (m : Memory) (key : Text) :
    (Memory.storage.get (.text key)).result m = (.ok (m.get? (.text key)), m) := by
  simp only [Memory.storage]
  rw [result_bind_of_ok (result_get _), Bindings.lookup_text, Action.ofExcept_ok, result_pure]
  rfl

lemma memory_set (m : Memory) (key : Text) (entry : Entry) :
    (Memory.storage.set (.text key) entry).result m = (.ok {}, m.insert (.text key) entry) := by
  simp only [Memory.storage, Value.checkKey_text, Action.ofExcept_ok]
  rw [result_bind_of_ok (result_pure _ _), result_bind_of_ok (result_modify _ _), result_pure]

lemma memory_delete (m : Memory) (key : Text) :
    (Memory.storage.delete (.text key)).result m = (.ok {}, m.erase (.text key)) := by
  simp only [Memory.storage, Value.checkKey_text, Action.ofExcept_ok]
  rw [result_bind_of_ok (result_get _)]
  by_cases hsize : m.size ≠ 0
  · simp only [if_pos hsize]
    rw [result_bind_of_ok (result_bind_of_ok (result_pure _ _)),
      result_bind_of_ok (result_modify _ _), result_pure]
  · have hempty : m.bindings = [] := by simpa [Memory.size] using hsize
    have herase : m.erase (.text key) = m := by
      rw [Memory.erase, hempty]
      cases m
      simp_all [Bindings.erase]
    simp only [if_neg hsize, herase]
    rw [result_pure]

lemma memory_list {keys : List Text} (h : m.bindings.keys = keys.map .text) (start : Text) :
    (Memory.storage.list (.text start)).result m =
      (.ok ((Text.sort (keys.filter (·.startsWith start))).map .text), m) := by
  simp only [Memory.storage]
  rw [result_bind_of_ok (result_get _), Memory.keysFrom, h, Listing.keysFrom_text]
  rfl

/-! ### Reading -/

section

variable {suite : Suite} {c : Client} {key : Text} {e : Entropy} {m : Memory} {r r' : Registry}
  {keyId : Option Text} {entry : Entry} {failure : Failure}

lemma memory_get_of {found : Option Entry} (h : m.get? (.text key) = found) :
    (Memory.storage.get (.text key)).result m = (.ok found, m) := by
  rw [memory_get, h]

lemma get_absent (h : m.get? (.text (c.fullKey key)) = none) :
    (c.get (localAdapters suite) key).result ⟨⟨e, m, r⟩, keyId⟩ =
      (.ok none, ⟨⟨e, m, r⟩, keyId⟩) :=
  get_of_absent (memory_get_of h)

lemma get_not_unwrapped (h : m.get? (.text (c.fullKey key)) = some entry)
    (hu : (Registry.unwrap (.text c.groupId) entry.wrappedKey).result r = (.error failure, r')) :
    (c.get (localAdapters suite) key).result ⟨⟨e, m, r⟩, keyId⟩ =
      (.error failure, ⟨⟨e, m, r'⟩, keyId⟩) :=
  get_of_not_unwrapped (memory_get_of h) hu

lemma get_not_unwrapped_text {wrapped : Text} (h : m.get? (.text (c.fullKey key)) = some entry)
    (hw : entry.wrappedKey = .text wrapped)
    (hu : (Registry.unwrap (.text c.groupId) (.text wrapped)).result r = (.error failure, r')) :
    (c.get (localAdapters suite) key).result ⟨⟨e, m, r⟩, keyId⟩ =
      (.error failure, ⟨⟨e, m, r'⟩, keyId⟩) := by
  rw [← hw] at hu
  exact get_not_unwrapped h hu

lemma get_unwrapped {u : UnwrappedKey} (h : m.get? (.text (c.fullKey key)) = some entry)
    (hu : (Registry.unwrap (.text c.groupId) entry.wrappedKey).result r = (.ok u, r')) :
    (c.get (localAdapters suite) key).result ⟨⟨e, m, r⟩, keyId⟩ =
      ((opened suite u.plainKey entry.ciphertext e).map some,
        ⟨⟨e, m, r'⟩, keyId.or (some u.keyId)⟩) :=
  get_of_unwrapped (memory_get_of h) hu

lemma get_opened {wrapped ciphertext exported t id : Text}
    (h : m.get? (.text (c.fullKey key)) = some entry) (hw : entry.wrappedKey = .text wrapped)
    (hc : entry.ciphertext = .text ciphertext)
    (hu : (Registry.unwrap (.text c.groupId) (.text wrapped)).result r =
      (.ok ⟨.text exported, id⟩, r'))
    (ho : opened suite (.text exported) (.text ciphertext) e = .ok t) :
    (c.get (localAdapters suite) key).result ⟨⟨e, m, r⟩, keyId⟩ =
      (.ok (some t), ⟨⟨e, m, r'⟩, keyId.or (some id)⟩) := by
  rw [← hw] at hu
  rw [get_unwrapped h hu, hc, ho]
  rfl

end

/-! ### Writing -/

section

variable {suite : Suite} {c : Client} {key t : Text} {e : Entropy} {m : Memory} {r r' : Registry}
  {keyId : Option Text} {plain : Bytes} {failure : Failure}

lemma set_unencodable {fault : EncodeFault} (hleft : e.hasLeft writeCost = true)
    (ht : Utf8.encode t = .error fault) :
    (c.set (localAdapters suite) key (.text t)).result ⟨⟨e, m, r⟩, keyId⟩ =
      (.error (.crypto (.unencodable fault)), ⟨⟨spend e, m, r⟩, keyId⟩) :=
  set_of_unencodable hleft ht

lemma set_not_wrapped (hleft : e.hasLeft writeCost = true) (ht : Utf8.encode t = .ok plain)
    (hw : (Registry.wrap (.text c.groupId) (.text (Base64.encode (freshKey e).bytes))).result r =
      (.error failure, r')) :
    (c.set (localAdapters suite) key (.text t)).result ⟨⟨e, m, r⟩, keyId⟩ =
      (.error failure, ⟨⟨spend e, m, r'⟩, keyId⟩) :=
  set_of_not_wrapped hleft ht hw

lemma set_wrapped {wrapped : WrappedKey} (hleft : e.hasLeft writeCost = true)
    (ht : Utf8.encode t = .ok plain)
    (hw : (Registry.wrap (.text c.groupId) (.text (Base64.encode (freshKey e).bytes))).result r =
      (.ok wrapped, r')) :
    (c.set (localAdapters suite) key (.text t)).result ⟨⟨e, m, r⟩, keyId⟩ =
      (.ok {}, ⟨⟨spend e, m.insert (.text (c.fullKey key))
        (.current wrapped.wrappedKey (freshCiphertext e plain) wrapped.keyId), r'⟩,
        keyId.or (some wrapped.keyId)⟩) :=
  set_of_wrapped hleft ht hw (memory_set m _ _)

/-! ### Deleting, listing and looking up -/

lemma delete_result :
    (c.delete (localAdapters suite) key).result ⟨⟨e, m, r⟩, keyId⟩ =
      (.ok {}, ⟨⟨e, m.erase (.text (c.fullKey key)), r⟩, keyId⟩) :=
  delete_of (memory_delete m _)

lemma list_result {keys : List Text} (h : m.bindings.keys = keys.map .text) (start : Text) :
    (c.list (localAdapters suite) start).result ⟨⟨e, m, r⟩, keyId⟩ =
      (.ok (ownOf c.keyBase start keys), ⟨⟨e, m, r⟩, keyId⟩) :=
  list_of (memory_list h _) fun _ hfull => (mem_sort_filter.mp hfull).2

lemma getKeyId_known {id : Text} :
    (c.getKeyId (localAdapters suite)).result ⟨⟨e, m, r⟩, some id⟩ =
      (.ok id, ⟨⟨e, m, r⟩, some id⟩) := by
  simp only [Client.getKeyId]
  rw [result_bind_of_ok (result_get _), result_pure]

lemma getKeyId_refused
    (hl : (Registry.lookup (.text c.groupId)).result r = (.error failure, r')) :
    (c.getKeyId (localAdapters suite)).result ⟨⟨e, m, r⟩, none⟩ =
      (.error failure, ⟨⟨e, m, r'⟩, none⟩) := by
  simp only [Client.getKeyId]
  rw [result_bind_of_ok (result_get _)]
  simp only [localAdapters, World.adapters, TrustAnchor.on, Registry.anchor, Option.map_some]
  rw [result_bind_of_error (outside_anchor hl)]

lemma getKeyId_found {id : Text}
    (hl : (Registry.lookup (.text c.groupId)).result r = (.ok id, r')) :
    (c.getKeyId (localAdapters suite)).result ⟨⟨e, m, r⟩, none⟩ =
      (.ok id, ⟨⟨e, m, r'⟩, some id⟩) := by
  simp only [Client.getKeyId]
  rw [result_bind_of_ok (result_get _)]
  simp only [localAdapters, World.adapters, TrustAnchor.on, Registry.anchor, Option.map_some]
  rw [result_bind_of_ok (outside_anchor hl), result_bind_of_ok (learn_result _), result_pure]
  rfl

end

end EnvelopeStore.Proofs
