import EnvelopeStore.Proofs.InProcess
import EnvelopeStore.Proofs.Order
import Mathlib.Logic.Function.Basic

/-!
# Clients as a plain map

Any number of clients share a map in memory and a registry. What they see is what a plain map from
full keys to groups and texts shows, together with the groups in the order of first use. One
invariant links the two; every task of every client keeps it.
-/

namespace EnvelopeStore.Proofs
open Text

/-! ### Clients that share a world -/

/-- A client with its way of running the cipher. -/
structure Member where
  client : Client
  suite : Suite
  account_surrogateFree : SurrogateFree client.account
  groupSuffix_surrogateFree : SurrogateFree client.groupSuffix

/-- What a client is asked to do. -/
inductive Task
  | set (key text : Text)
  | get (key : Text)
  | delete (key : Text)
  | list (start : Text)
  | getKeyId

/-- What a client answers. -/
inductive Response
  | receipt (receipt : Receipt)
  | text (text : Option Text)
  | keys (keys : List Text)
  | keyId (keyId : Text)

def Member.perform (member : Member) :
    Task → Action (Client.State (World Memory Registry)) Response
  | .set key text => .receipt <$> member.client.set (localAdapters member.suite) key (.text text)
  | .get key => .text <$> member.client.get (localAdapters member.suite) key
  | .delete key => .receipt <$> member.client.delete (localAdapters member.suite) key
  | .list start => .keys <$> member.client.list (localAdapters member.suite) start
  | .getKeyId => .keyId <$> member.client.getKeyId (localAdapters member.suite)

def Task.cost : Task → Nat
  | .set _ _ => writeCost
  | _ => 0

/-- Clients in a world, each with the key id that it knows. -/
structure Fleet (ι : Type) where
  world : World Memory Registry
  known : ι → Option Text

namespace Fleet

variable {ι : Type} [DecidableEq ι]

/-- Clients that know no key id, with nothing stored and nothing wrapped. -/
def start (denied : List Value) (e : Entropy) : Fleet ι :=
  ⟨⟨e, .empty, .start denied⟩, fun _ => none⟩

def part (i : ι) : Part (Fleet ι) (Client.State (World Memory Registry)) where
  get f := ⟨f.world, f.known i⟩
  put s f := ⟨s.world, Function.update f.known i s.keyId⟩

/-- One of the clients does a task. -/
def step (members : ι → Member) (f : Fleet ι) (i : ι) (task : Task) :
    Except Failure Response × Fleet ι :=
  (((members i).perform task).on (part i)).result f

/-- The clients do tasks one after the other, whether they succeed or fail. -/
def responses (members : ι → Member) : Fleet ι → List (ι × Task) → List (Except Failure Response)
  | _, [] => []
  | f, (i, task) :: rest =>
    (f.step members i task).1 :: responses members (f.step members i task).2 rest

end Fleet

/-! ### The plain map -/

def refused (denied : List Value) (c : Client) : Bool := denied.any (·.isSame (.text c.groupId))

/-- The texts under full keys with the group that each was written for, and the groups in the order
of first use. -/
structure Plain where
  texts : Text → Option (Text × Text)
  groups : List Text

namespace Plain

def empty : Plain := ⟨fun _ => none, []⟩

/-- The plain map after a task. -/
def next (denied : List Value) (c : Client) (plain : Plain) : Task → Plain
  | .set key text =>
    match Utf8.encode text with
    | .error _ => plain
    | .ok _ =>
      if refused denied c then plain
      else ⟨Function.update plain.texts (c.fullKey key) (some (c.groupId, text)),
        enroll plain.groups c.groupId⟩
  | .get _ => plain
  | .delete key => { plain with texts := Function.update plain.texts (c.fullKey key) none }
  | .list _ => plain
  | .getKeyId =>
    if refused denied c then plain else { plain with groups := enroll plain.groups c.groupId }

/-- What the plain map lets a client answer. -/
def Allows (denied : List Value) (c : Client) (plain : Plain) :
    Task → Except Failure Response → Prop
  | .set _ text, r =>
    match Utf8.encode text with
    | .error fault => r = .error (.crypto (.unencodable fault))
    | .ok _ =>
      if refused denied c then r = .error (.groupAuthorization (.notMember (.text c.groupId)))
      else r = .ok (.receipt {})
  | .get key, r =>
    match plain.texts (c.fullKey key) with
    | none => r = .ok (.text none)
    | some (group, text) =>
      if refused denied c then r = .error (.groupAuthorization (.notMember (.text c.groupId)))
      else if group = c.groupId then r = .ok (.text (some text))
      else r = .error (.groupAuthorization (.otherGroup (.text c.groupId)))
  | .delete _, r => r = .ok (.receipt {})
  | .list start, r =>
    ∃ keys, r = .ok (.keys keys) ∧ keys.Pairwise Before ∧
      ∀ key, key ∈ keys ↔ start <+: key ∧ (plain.texts (c.fullKey key)).isSome = true
  | .getKeyId, r =>
    if refused denied c then r = .error (.groupAuthorization (.notMember (.text c.groupId)))
    else r = .ok (.keyId (keyIdOf plain.groups c.groupId))

theorem allows_unique {denied : List Value} {c : Client} {plain : Plain} {task : Task}
    {r r' : Except Failure Response} (h : plain.Allows denied c task r)
    (h' : plain.Allows denied c task r') : r = r' := by
  cases task with
  | list start =>
    obtain ⟨keys, rfl, hsorted, hmem⟩ := h
    obtain ⟨keys', rfl, hsorted', hmem'⟩ := h'
    rw [eq_of_pairwise_before hsorted hsorted' fun key => (hmem key).trans (hmem' key).symm]
  | set key text =>
    unfold Allows at h h'
    cases ht : Utf8.encode text <;> cases hrefused : refused denied c <;> simp_all
  | get key =>
    unfold Allows at h h'
    cases ht : plain.texts (c.fullKey key) with
    | none => simp_all
    | some held =>
      simp only [ht] at h h'
      by_cases hown : held.1 = c.groupId <;> cases hrefused : refused denied c <;> simp_all
  | delete key => exact h.trans h'.symm
  | getKeyId =>
    unfold Allows at h h'
    cases hrefused : refused denied c <;> simp_all

/-- Whether the plain map explains what clients answered to tasks. -/
def Explains {ι : Type} (denied : List Value) (members : ι → Member) :
    Plain → List (ι × Task) → List (Except Failure Response) → Prop
  | _, [], [] => True
  | plain, (i, task) :: tasks, r :: rs =>
    plain.Allows denied (members i).client task r ∧
      Explains denied members (plain.next denied (members i).client task) tasks rs
  | _, _, _ => False

end Plain

/-! ### The invariant -/

/-- An entry holds a text for a group: the key that is wrapped in it opens it. -/
def Holds (r : Registry) : Option Entry → Option (Text × Text) → Prop
  | none, none => True
  | some entry, some (group, text) =>
    ∃ (key : Key) (wrapped : Text) (nonce plain : Bytes),
      entry.wrappedKey = .text wrapped ∧
      r.wrapped.lookup wrapped = some (.text (Base64.encode key.bytes), .text group) ∧
      entry.ciphertext = .text (Payload.toText ⟨nonce, Cipher.Gcm.encrypt key.bytes nonce plain⟩) ∧
      key.bytes.length = keySize ∧ nonce.length = nonceSize ∧ Utf8.encode text = .ok plain
  | _, _ => False

lemma Holds.eq_none {r : Registry} {text : Option (Text × Text)} (h : Holds r none text) :
    text = none := by
  cases text with
  | none => rfl
  | some _ => exact h.elim

lemma Holds.exists_text {r : Registry} {entry : Entry} {text : Option (Text × Text)}
    (h : Holds r (some entry) text) : ∃ group t, text = some (group, t) := by
  cases text with
  | none => exact h.elim
  | some text => exact ⟨text.1, text.2, rfl⟩

lemma Holds.isSome_iff {r : Registry} {entry : Option Entry} {text : Option (Text × Text)}
    (h : Holds r entry text) : text.isSome = true ↔ entry.isSome = true := by
  cases entry with
  | none => simp [h.eq_none]
  | some entry =>
    obtain ⟨group, t, rfl⟩ := h.exists_text
    simp

lemma Holds.mono {r r' : Registry} {entry : Option Entry} {text : Option (Text × Text)}
    (h : Holds r entry text)
    (hr : ∀ w v, r.wrapped.lookup w = some v → r'.wrapped.lookup w = some v) :
    Holds r' entry text := by
  match entry, text, h with
  | none, none, _ => trivial
  | some entry, some (group, text), ⟨key, wrapped, nonce, plain, hw, hlookup, hrest⟩ =>
    exact ⟨key, wrapped, nonce, plain, hw, hr _ _ hlookup, hrest⟩

/-- The world of clients and the plain map agree. -/
structure Linked {ι : Type} (denied : List Value) (members : ι → Member) (plain : Plain)
    (f : Fleet ι) : Prop where
  refuses : f.world.anchor.denied = denied
  orderly : Orderly f.world.anchor plain.groups
  keyed : ∃ keys, TextKeyed f.world.store.bindings keys
  holds : ∀ key, Holds f.world.anchor (f.world.store.get? (.text key)) (plain.texts key)
  known : ∀ i id, f.known i = some id → refused denied (members i).client = false ∧
    (members i).client.groupId ∈ plain.groups ∧
    id = keyIdOf plain.groups (members i).client.groupId

section

variable {ι : Type} {denied : List Value} {members : ι → Member} {plain : Plain}
  {e : Entropy} {m : Memory} {r : Registry} {known : ι → Option Text} {i : ι}

lemma member_groupId_surrogateFree (member : Member) : SurrogateFree member.client.groupId :=
  surrogateFree_append
    (surrogateFree_append member.account_surrogateFree (surrogateFree_ofString _))
    member.groupSuffix_surrogateFree

lemma linked_start (denied : List Value) (members : ι → Member) (e : Entropy) :
    Linked denied members .empty (Fleet.start denied e) := by
  refine ⟨rfl, orderly_start denied, ⟨[], rfl, List.nodup_nil⟩, fun _ => trivial, ?_⟩
  intro i id h
  simp [Fleet.start] at h

lemma linked_isDenied (h : Linked denied members plain ⟨⟨e, m, r⟩, known⟩) (c : Client) :
    r.isDenied (.text c.groupId) = refused denied c := by
  rw [Registry.isDenied, refused, ← h.refuses]

lemma linked_calls (h : Linked denied members plain ⟨⟨e, m, r⟩, known⟩) (e' : Entropy)
    (calls : CallCount) :
    Linked denied members plain ⟨⟨e', m, { r with calls := calls }⟩, known⟩ :=
  ⟨h.refuses, orderly_calls calls h.orderly, h.keyed, fun key => (h.holds key).mono fun _ _ => id,
    h.known⟩

lemma linked_enroll (h : Linked denied members plain ⟨⟨e, m, r⟩, known⟩) (group : Text)
    (calls : CallCount) :
    Linked denied members { plain with groups := enroll plain.groups group }
      ⟨⟨e, m, { r with keyIds := groupKeyIds (enroll plain.groups group), calls := calls }⟩,
        known⟩ := by
  refine ⟨h.refuses, orderly_enroll calls h.orderly, h.keyed,
    fun key => (h.holds key).mono fun _ _ => id, ?_⟩
  intro j id hid
  obtain ⟨hallowed, hmem, heq⟩ := h.known j id hid
  exact ⟨hallowed, mem_enroll_of_mem hmem, by rw [heq, keyIdOf_enroll hmem]⟩

lemma linked_learn [DecidableEq ι] (h : Linked denied members plain ⟨⟨e, m, r⟩, known⟩)
    (hallowed : refused denied (members i).client = false)
    (hmem : (members i).client.groupId ∈ plain.groups) :
    Linked denied members plain ⟨⟨e, m, r⟩, Function.update known i ((known i).or
      (some (keyIdOf plain.groups (members i).client.groupId)))⟩ := by
  refine ⟨h.refuses, h.orderly, h.keyed, h.holds, ?_⟩
  intro j id hid
  dsimp only at hid
  by_cases hj : j = i
  · subst hj
    rw [Function.update_self] at hid
    refine ⟨hallowed, hmem, ?_⟩
    cases hk : known j with
    | none =>
      rw [hk] at hid
      exact (Option.some.inj hid).symm
    | some id' =>
      rw [hk] at hid
      obtain rfl := Option.some.inj hid
      exact (h.known j _ hk).2.2
  · rw [Function.update_of_ne hj] at hid
    exact h.known j id hid

lemma linked_store {text wrapped : Text} {valueKey : Key} {nonce bytes : Bytes} {group : Text}
    (h : Linked denied members plain ⟨⟨e, m, r⟩, known⟩) (key : Text) (calls : CallCount)
    (hw : wrapping (Base64.encode valueKey.bytes) group (keyIdOf plain.groups group) = .ok wrapped)
    (hkey : valueKey.bytes.length = keySize) (hnonce : nonce.length = nonceSize)
    (ht : Utf8.encode text = .ok bytes) (id : Text) :
    Linked denied members
      ⟨Function.update plain.texts key (some (group, text)), enroll plain.groups group⟩
      ⟨⟨e, m.insert (.text key) (.current wrapped
        (Payload.toText ⟨nonce, Cipher.Gcm.encrypt valueKey.bytes nonce bytes⟩) id),
        { r with
          wrapped := (wrapped, (.text (Base64.encode valueKey.bytes), .text group)) :: r.wrapped
          keyIds := groupKeyIds (enroll plain.groups group)
          calls := calls }⟩, known⟩ := by
  have henroll := linked_enroll h group calls
  obtain ⟨keys, hkeys⟩ := h.keyed
  refine ⟨h.refuses, orderly_record calls h.orderly hw, ⟨_, textKeyed_insert hkeys _⟩, ?_,
    henroll.known⟩
  intro other
  dsimp only
  rw [Memory.insert, Memory.get?, Bindings.get?_insert_text]
  by_cases hother : key = other
  · rw [if_pos hother, ← hother, Function.update_self]
    exact ⟨valueKey, wrapped, nonce, bytes, rfl, List.lookup_cons_self, rfl, hkey, hnonce, ht⟩
  · rw [if_neg hother, Function.update_of_ne (Ne.symm hother)]
    exact (h.holds other).mono fun _ _ hv => lookup_record h.orderly hw hv

lemma linked_erase (h : Linked denied members plain ⟨⟨e, m, r⟩, known⟩) (key : Text) :
    Linked denied members { plain with texts := Function.update plain.texts key none }
      ⟨⟨e, m.erase (.text key), r⟩, known⟩ := by
  obtain ⟨keys, hkeys⟩ := h.keyed
  refine ⟨h.refuses, h.orderly, ⟨_, textKeyed_erase hkeys⟩, ?_, h.known⟩
  intro other
  dsimp only
  rw [Memory.erase, Memory.get?, Bindings.get?_erase_text]
  by_cases hother : key = other
  · rw [if_pos hother, ← hother, Function.update_self]
    trivial
  · rw [if_neg hother, Function.update_of_ne (Ne.symm hother)]
    exact h.holds other

/-! ### One task -/

variable [DecidableEq ι]

/-- A client does a task as the plain map allows, and the two still agree afterwards. -/
structure Follows (denied : List Value) (members : ι → Member) (plain : Plain) (f : Fleet ι) (i : ι)
    (task : Task) : Prop where
  allows : plain.Allows denied (members i).client task (f.step members i task).1
  linked : Linked denied members (plain.next denied (members i).client task)
    (f.step members i task).2
  entropy : (f.step members i task).2.world.entropy =
    { f.world.entropy with position := f.world.entropy.position + task.cost }

lemma follows_of_run {f : Fleet ι} {task : Task} {response : Except Failure Response}
    {w : World Memory Registry} {id : Option Text}
    (hrun : ((members i).perform task).result ⟨f.world, f.known i⟩ = (response, ⟨w, id⟩))
    (hallows : plain.Allows denied (members i).client task response)
    (hlinked : Linked denied members (plain.next denied (members i).client task)
      ⟨w, Function.update f.known i id⟩)
    (hentropy : w.entropy =
      { f.world.entropy with position := f.world.entropy.position + task.cost }) :
    Follows denied members plain f i task := by
  have hstep : f.step members i task = (response, ⟨w, Function.update f.known i id⟩) := by
    rw [Fleet.step, result_on]
    change ((((members i).perform task).result ⟨f.world, f.known i⟩).1,
      (Fleet.part i).put (((members i).perform task).result ⟨f.world, f.known i⟩).2 f) = _
    rw [hrun]
    rfl
  exact ⟨by rwa [hstep], by rwa [hstep], by rwa [hstep]⟩

lemma follows_set (h : Linked denied members plain ⟨⟨e, m, r⟩, known⟩)
    (hleft : e.hasLeft writeCost = true) (key text : Text) :
    Follows denied members plain ⟨⟨e, m, r⟩, known⟩ i (.set key text) := by
  have hdenied := linked_isDenied h (members i).client
  cases ht : Utf8.encode text with
  | error fault =>
    refine follows_of_run (result_map_of Response.receipt (set_unencodable hleft ht)) ?_ ?_ rfl
    · simp only [Plain.Allows, ht, Except.map]
    · simp only [Plain.next, ht, Function.update_eq_self]
      exact linked_calls h (spend e) r.calls
  | ok bytes =>
    cases hrefused : refused denied (members i).client with
    | true =>
      refine follows_of_run (result_map_of Response.receipt
        (set_not_wrapped hleft ht (wrap_denied (hdenied.trans hrefused)))) ?_ ?_ rfl
      · simp only [Plain.Allows, ht, hrefused, if_true, Except.map]
      · simp only [Plain.next, ht, hrefused, if_true, Function.update_eq_self]
        exact linked_calls h (spend e) _
    | false =>
      have hw := wrapping_of_surrogateFree (surrogateFree_base64 (freshKey e).bytes)
        (member_groupId_surrogateFree (members i))
        (plain.groups.idxOf (members i).client.groupId)
      refine follows_of_run (result_map_of Response.receipt
        (set_wrapped hleft ht (wrap_encodable h.orderly (hdenied.trans hrefused) hw))) ?_ ?_ rfl
      · simp only [Plain.Allows, ht, hrefused, Bool.false_eq_true, if_false, Except.map]
      · simp only [Plain.next, ht, hrefused, Bool.false_eq_true, if_false]
        have hstored := linked_store (linked_calls h (spend e) r.calls)
          ((members i).client.fullKey key) { r.calls with wrap := r.calls.wrap + 1 } hw
          (size_freshKey e) (size_freshNonce e) ht (keyIdOf plain.groups (members i).client.groupId)
        have hlearned := linked_learn hstored hrefused mem_enroll
        rwa [keyIdOf_enroll_self] at hlearned

lemma follows_get_entry (h : Linked denied members plain ⟨⟨e, m, r⟩, known⟩) {key : Text}
    {entry : Entry} (hm : m.get? (.text ((members i).client.fullKey key)) = some entry) :
    Follows denied members plain ⟨⟨e, m, r⟩, known⟩ i (.get key) := by
  have hdenied := linked_isDenied h (members i).client
  have hholds := h.holds ((members i).client.fullKey key)
  dsimp only at hholds
  rw [hm] at hholds
  obtain ⟨group, text, ht⟩ := hholds.exists_text
  rw [ht] at hholds
  obtain ⟨valueKey, wrapped, nonce, bytes, hwrapped, hlookup, hciphertext, hkey, hnonce, hencode⟩ :=
    hholds
  cases hrefused : refused denied (members i).client with
  | true =>
    refine follows_of_run (result_map_of Response.text
      (get_not_unwrapped_text hm hwrapped (unwrap_denied (hdenied.trans hrefused)))) ?_ ?_ rfl
    · simp only [Plain.Allows, ht, hrefused, if_true, Except.map]
    · simp only [Plain.next, Function.update_eq_self]
      exact linked_calls h e _
  | false =>
    have hallowed := hdenied.trans hrefused
    by_cases hown : group = (members i).client.groupId
    · subst hown
      have hopened := opened_of_sealed (members i).suite hkey hnonce hencode e
      refine follows_of_run (result_map_of Response.text (get_opened hm hwrapped hciphertext
        (unwrap_own h.orderly hallowed hlookup) hopened)) ?_ ?_ rfl
      · simp only [Plain.Allows, ht, hrefused, Bool.false_eq_true, if_false, if_true, Except.map]
      · simp only [Plain.next]
        obtain ⟨_, _, hv, hmem, -⟩ := h.orderly.wrapped _ _ (mem_of_lookup hlookup)
        simp only [Prod.mk.injEq, Value.text.injEq] at hv
        rw [← hv.2] at hmem
        exact linked_learn (linked_calls h e _) hrefused hmem
    · refine follows_of_run (result_map_of Response.text
        (get_not_unwrapped_text hm hwrapped (unwrap_other hallowed hlookup hown))) ?_ ?_ rfl
      · simp only [Plain.Allows, ht, hrefused, Bool.false_eq_true, if_false, if_neg hown,
          Except.map]
      · simp only [Plain.next, Function.update_eq_self]
        exact linked_calls h e _

lemma follows_get (h : Linked denied members plain ⟨⟨e, m, r⟩, known⟩) (key : Text) :
    Follows denied members plain ⟨⟨e, m, r⟩, known⟩ i (.get key) := by
  cases hm : m.get? (.text ((members i).client.fullKey key)) with
  | none =>
    have hholds := h.holds ((members i).client.fullKey key)
    dsimp only at hholds
    rw [hm] at hholds
    refine follows_of_run (result_map_of Response.text (get_absent hm)) ?_ ?_ rfl
    · simp only [Plain.Allows, hholds.eq_none, Except.map]
    · simp only [Plain.next, Function.update_eq_self]
      exact h
  | some entry => exact follows_get_entry h hm

lemma follows_delete (h : Linked denied members plain ⟨⟨e, m, r⟩, known⟩) (key : Text) :
    Follows denied members plain ⟨⟨e, m, r⟩, known⟩ i (.delete key) := by
  refine follows_of_run (result_map_of Response.receipt delete_result) rfl ?_ rfl
  simp only [Plain.next, Function.update_eq_self]
  exact linked_erase h _

lemma follows_getKeyId (h : Linked denied members plain ⟨⟨e, m, r⟩, known⟩) :
    Follows denied members plain ⟨⟨e, m, r⟩, known⟩ i .getKeyId := by
  have hdenied := linked_isDenied h (members i).client
  cases hk : known i with
  | some id =>
    obtain ⟨hallowed, hmem, hid⟩ := h.known i id hk
    have hrun : ((members i).client.getKeyId (localAdapters (members i).suite)).result
        ⟨⟨e, m, r⟩, known i⟩ = (.ok id, ⟨⟨e, m, r⟩, known i⟩) := by
      rw [hk, getKeyId_known]
    have henrolled : enroll plain.groups (members i).client.groupId = plain.groups := if_pos hmem
    refine follows_of_run (result_map_of Response.keyId hrun) ?_ ?_ rfl
    · simp only [Plain.Allows, hallowed, Bool.false_eq_true, if_false, hid, Except.map]
    · simp only [Plain.next, hallowed, Bool.false_eq_true, if_false, henrolled,
        Function.update_eq_self]
      exact h
  | none =>
    cases hrefused : refused denied (members i).client with
    | true =>
      have hrun : ((members i).client.getKeyId (localAdapters (members i).suite)).result
          ⟨⟨e, m, r⟩, known i⟩ =
          (.error (.groupAuthorization (.notMember (.text (members i).client.groupId))),
            ⟨⟨e, m, { r with calls := { r.calls with lookup := r.calls.lookup + 1 } }⟩,
              known i⟩) := by
        rw [hk, getKeyId_refused (lookup_denied (hdenied.trans hrefused))]
      refine follows_of_run (result_map_of Response.keyId hrun) ?_ ?_ rfl
      · simp only [Plain.Allows, hrefused, if_true, Except.map]
      · simp only [Plain.next, hrefused, if_true, Function.update_eq_self]
        exact linked_calls h e _
    | false =>
      have hlookup := lookup_allowed h.orderly (hdenied.trans hrefused)
      have hrun : ((members i).client.getKeyId (localAdapters (members i).suite)).result
          ⟨⟨e, m, r⟩, known i⟩ = _ := hk ▸ getKeyId_found hlookup
      refine follows_of_run (result_map_of Response.keyId hrun) ?_ ?_ rfl
      · simp only [Plain.Allows, hrefused, Bool.false_eq_true, if_false, Except.map]
      · simp only [Plain.next, hrefused, Bool.false_eq_true, if_false]
        have hlearned := linked_learn
          (linked_enroll h (members i).client.groupId { r.calls with lookup := r.calls.lookup + 1 })
          hrefused mem_enroll
        rwa [keyIdOf_enroll_self, hk, Option.none_or] at hlearned

lemma follows_list (h : Linked denied members plain ⟨⟨e, m, r⟩, known⟩) (start : Text) :
    Follows denied members plain ⟨⟨e, m, r⟩, known⟩ i (.list start) := by
  obtain ⟨keys, hkeys⟩ := h.keyed
  refine follows_of_run (result_map_of Response.keys (list_result hkeys.keys start)) ?_ ?_ rfl
  · refine ⟨_, rfl, ownOf_pairwise_before hkeys.nodup _ _, ?_⟩
    intro key
    rw [mem_ownOf, (h.holds _).isSome_iff]
    exact and_congr_right fun _ => (get?_isSome_iff hkeys.keys).symm
  · simp only [Plain.next, Function.update_eq_self]
    exact h

lemma follows_task {f : Fleet ι} (h : Linked denied members plain f) (i : ι) (task : Task)
    (hleft : f.world.entropy.hasLeft task.cost = true) : Follows denied members plain f i task := by
  obtain ⟨⟨e, m, r⟩, known⟩ := f
  cases task with
  | set key text => exact follows_set h hleft key text
  | get key => exact follows_get h key
  | delete key => exact follows_delete h key
  | list start => exact follows_list h start
  | getKeyId => exact follows_getKeyId h

/-! ### Any tasks -/

def totalCost : List (ι × Task) → Nat
  | [] => 0
  | (_, task) :: rest => task.cost + totalCost rest

lemma responses_explained {f : Fleet ι} (h : Linked denied members plain f)
    (tasks : List (ι × Task)) (hleft : f.world.entropy.hasLeft (totalCost tasks) = true) :
    plain.Explains denied members tasks (f.responses members tasks) := by
  induction tasks generalizing f plain with
  | nil => trivial
  | cons head rest ih =>
    obtain ⟨i, task⟩ := head
    rw [totalCost] at hleft
    have hstep := follows_task h i task (hasLeft_of_le hleft (Nat.le_add_right _ _))
    have hrest := hasLeft_advance hleft
    rw [← hstep.entropy] at hrest
    exact ⟨hstep.allows, ih hstep.linked hrest⟩

/-- Clients that share a map in memory and a registry are a plain map. Whatever any number of them
are asked to do, in any order, and however often they are refused, the plain map explains each of
their answers, as long as there are enough random bytes for what is written. -/
theorem clients_refine_plain_map (denied : List Value) (members : ι → Member)
    (tasks : List (ι × Task)) (e : Entropy) (hleft : e.hasLeft (totalCost tasks) = true) :
    Plain.empty.Explains denied members tasks
      ((Fleet.start denied e).responses members tasks) :=
  responses_explained (linked_start denied members e) tasks hleft

end

/-- Two clients with the same names read each other's texts, each with its own way of running the
cipher. -/
theorem clients_share_texts :
    let alice : Client := ⟨"alice", "privatekv", "private", by decide, by decide, by decide⟩
    let members : Suite → Member := fun suite => ⟨alice, suite, by decide, by decide⟩
    let tasks : List (Suite × Task) := [(.oneShot, .set "k" "hi"), (.streaming, .get "k")]
    let e := Entropy.seeded 7 (some 44)
    e.hasLeft (totalCost tasks) = true ∧
      ((Fleet.start [] e).responses members tasks)[1]? =
        some (.ok (.text (some (ofString "hi")))) := by
  intro alice members tasks e
  have hleft : e.hasLeft (totalCost tasks) = true := by decide
  obtain ⟨-, hread, -⟩ := clients_refine_plain_map [] members tasks e hleft
  have hencode : Utf8.encode (ofString "hi") = .ok [104, 105] := by decide
  have hnext : Plain.empty.next [] alice (.set "k" "hi") =
      ⟨Function.update (fun _ => none) (alice.fullKey "k") (some (alice.groupId, ofString "hi")),
        [alice.groupId]⟩ := by
    simp only [Plain.next, hencode]
    rfl
  rw [hnext] at hread
  simp only [Plain.Allows] at hread
  exact ⟨hleft, congrArg some hread⟩

end EnvelopeStore.Proofs
