import EnvelopeStore.Proofs.Backend
import EnvelopeStore.Proofs.KeyService
import EnvelopeStore.Proofs.Operations
import EnvelopeStore.Proofs.Tasks

/-!
# Clients far from their store and their trust anchor

A client keeps its texts with a service that keeps rows, under keys that a key manager wraps. As long
as both keep their word, the client never fails, and what it reads is what it wrote: its store is a
map from its keys to texts, whatever forms a text passes through on its way there and back.
-/

namespace EnvelopeStore.Proofs
open Text Service

/-- A task that writes only texts that can be encoded, and names keys in characters. -/
def Task.IsProper : Task → Prop
  | .set key t => SurrogateFree key ∧ SurrogateFree t
  | .get key | .delete key => SurrogateFree key
  | .list start => SurrogateFree start
  | .getKeyId => False

/-- The texts under the keys of a client after a task. -/
def Task.next (texts : Text → Option Text) : Task → Text → Option Text
  | .set key t => Function.update texts key (some t)
  | .delete key => Function.update texts key none
  | _ => texts

/-- What is answered to a task by one who keeps these texts. -/
def Answers (texts : Text → Option Text) : Task → Except Failure Response → Prop
  | .set _ _, r | .delete _, r => ∃ receipt, r = .ok (.receipt receipt)
  | .get key, r => r = .ok (.text (texts key))
  | .list start, r =>
    ∃ keys, r = .ok (.keys keys) ∧ keys.Nodup ∧
      ∀ key, key ∈ keys ↔ start <+: key ∧ (texts key).isSome = true
  | .getKeyId, _ => False

def AnswersAll : (Text → Option Text) → List Task → List (Except Failure Response) → Prop
  | _, [], responses => responses = []
  | texts, task :: tasks, responses =>
    ∃ r rest, responses = r :: rest ∧ Answers texts task r ∧ AnswersAll (task.next texts) tasks rest

def costOf : List Task → Nat
  | [] => 0
  | task :: rest => task.cost + costOf rest

def responsesOf {σ : Type} (a : Adapters σ) (c : Client) :
    Client.State σ → List Task → List (Except Failure Response)
  | _, [] => []
  | s, task :: rest => ((doTask a c task).result s).1 :: responsesOf a c (afterTask a c s task) rest

section

variable {σ τ : Type} {handle : KeyManager.Handle σ} {transport : Transport τ} {account : Account}
  {suite : Suite} {c : Client} {texts : Text → Option Text}

/-! ### Rows that hold texts -/

/-- A row that holds an entry whose key is wrapped, and whose ciphertext is opened to a text. -/
structure RowHolds (keys : KeyService handle.signer) (suite : Suite) (c : Client) (s : σ)
    (row : Option Row) (t wrapped ciphertext id exported : Text) : Prop where
  row_eq : row = some ⟨.text (documentFor wrapped ciphertext id), false⟩
  wrapped_surrogateFree : SurrogateFree wrapped
  ciphertext_surrogateFree : SurrogateFree ciphertext
  id_surrogateFree : SurrogateFree id
  exported_ne_nil : exported ≠ []
  holds : keys.holds s c.groupId wrapped exported
  opens : ∀ e, opened suite (.text exported) (.text ciphertext) e = .ok t

/-- What the row under a key of a client is for the text that the client keeps there. -/
def RowFor (keys : KeyService handle.signer) (suite : Suite) (c : Client) (s : σ) (row : Option Row) :
    Option Text → Prop
  | none => ¬IsLive row
  | some t => ∃ wrapped ciphertext id exported,
      RowHolds keys suite c s row t wrapped ciphertext id exported

lemma rowFor_lasts {keys : KeyService handle.signer} {s s' : σ} {row : Option Row} {t : Option Text}
    (h : RowFor keys suite c s row t)
    (hlasts : ∀ g w k, keys.holds s g w k → keys.holds s' g w k) :
    RowFor keys suite c s' row t := by
  cases t with
  | none => exact h
  | some t =>
    obtain ⟨wrapped, ciphertext, id, exported, h⟩ := h
    exact ⟨wrapped, ciphertext, id, exported, { h with holds := hlasts _ _ _ h.holds }⟩

lemma isLive_iff_of_rowFor {keys : KeyService handle.signer} {s : σ} {row : Option Row}
    {t : Option Text} (h : RowFor keys suite c s row t) : IsLive row ↔ t.isSome = true := by
  cases t with
  | none =>
    have hdead : ¬IsLive row := h
    simp [hdead]
  | some t =>
    obtain ⟨wrapped, ciphertext, id, exported, h⟩ := h
    exact ⟨fun _ => rfl, fun _ => ⟨_, h.row_eq, rfl⟩⟩

abbrev Remote (σ τ : Type) := World (Connection τ) (KeyManager.State σ)

/-- Key manager and service are at work, and the rows of a client hold its texts. -/
structure Kept (keys : KeyService handle.signer) (rows : RowService transport account)
    (suite : Suite) (c : Client) (texts : Text → Option Text) (w : Remote σ τ) : Prop where
  keys_ready : keys.ready w.anchor.signer
  rows_ready : rows.ready w.store.peer
  keeps : ∀ key, RowFor keys suite c w.anchor.signer (rows.row w.store.peer (c.fullKey key))
    (texts key)

/-- A client whose names are all in characters. -/
structure Spelled (c : Client) : Prop where
  account : SurrogateFree c.account
  area : SurrogateFree c.area
  groupSuffix : SurrogateFree c.groupSuffix

lemma surrogateFree_groupId (h : Spelled c) : SurrogateFree c.groupId :=
  surrogateFree_append (surrogateFree_append h.account (surrogateFree_ofString "/")) h.groupSuffix

lemma surrogateFree_fullKey (h : Spelled c) {key : Text} (hkey : SurrogateFree key) :
    SurrogateFree (c.fullKey key) := by
  have hslash := surrogateFree_ofString "/"
  exact surrogateFree_append (surrogateFree_append (surrogateFree_append
    (surrogateFree_append h.area hslash) h.account) hslash) hkey

lemma fullKey_injective (c : Client) {key key' : Text} (h : c.fullKey key = c.fullKey key') :
    key = key' :=
  List.append_cancel_left h

/-- Where the row under one key changes, the rows under other keys still hold what they held. -/
lemma rowFor_update {keys : KeyService handle.signer} {s s' : σ} {row : Text → Option Row}
    {key : Text} {left : Option Row} {t : Option Text}
    (h : ∀ other, RowFor keys suite c s (row (c.fullKey other)) (texts other))
    (hlasts : ∀ g w k, keys.holds s g w k → keys.holds s' g w k)
    (hnew : RowFor keys suite c s' left t) (other : Text) :
    RowFor keys suite c s' (Function.update row (c.fullKey key) left (c.fullKey other))
      (Function.update texts key t other) := by
  by_cases hother : other = key
  · rw [hother, Function.update_self, Function.update_self]
    exact hnew
  · have hfull : c.fullKey other ≠ c.fullKey key := fun heq => hother (fullKey_injective c heq)
    rw [Function.update_of_ne hfull, Function.update_of_ne hother]
    exact rowFor_lasts (h other) hlasts

/-! ### Steps -/

def remoteAdapters (suite : Suite) (transport : Transport τ) (account : Account)
    (handle : KeyManager.Handle σ) : Adapters (Remote σ τ) :=
  World.adapters suite.provider (storage transport account) (KeyManager.anchor handle)

/-- A task is answered by one who keeps the texts, and leaves the texts as it should. -/
def Serves (keys : KeyService handle.signer) (rows : RowService transport account) (suite : Suite)
    (c : Client) (texts : Text → Option Text) (s : Client.State (Remote σ τ)) (task : Task) : Prop :=
  let a := remoteAdapters suite transport account handle
  Answers texts task ((doTask a c task).result s).1 ∧
    Kept keys rows suite c (task.next texts) (afterTask a c s task).world ∧
    (afterTask a c s task).world.entropy =
      { s.world.entropy with position := s.world.entropy.position + task.cost }

variable {keys : KeyService handle.signer} {rows : RowService transport account} {e : Entropy}
  {conn : Connection τ} {st : KeyManager.State σ} {keyId : Option Text}

lemma serves_of_run {task : Task} {s : Client.State (Remote σ τ)} {r : Except Failure Response}
    {w : Remote σ τ} {known : Option Text}
    (h : (doTask (remoteAdapters suite transport account handle) c task).result s = (r, ⟨w, known⟩))
    (hanswers : Answers texts task r) (hkept : Kept keys rows suite c (task.next texts) w)
    (hentropy : w.entropy =
      { s.world.entropy with position := s.world.entropy.position + task.cost }) :
    Serves keys rows suite c texts s task := by
  simp only [Serves, afterTask, h]
  exact ⟨hanswers, hkept, hentropy⟩

lemma rowFor_fresh {s : σ} {t wrapped id : Text} {plain : Bytes} (ht : Utf8.encode t = .ok plain)
    (hwrapped : SurrogateFree wrapped) (hid : SurrogateFree id)
    (hholds : keys.holds s c.groupId wrapped (Base64.encode (freshKey e).bytes)) :
    RowFor keys suite c s (some ⟨.text (documentFor wrapped (freshCiphertext e plain) id), false⟩)
      (some t) := by
  have hlength : (Base64.encode (freshKey e).bytes).length = 44 := by
    rw [length_base64_encode, size_freshKey]
    rfl
  refine ⟨wrapped, freshCiphertext e plain, id, Base64.encode (freshKey e).bytes, ?_⟩
  exact {
    row_eq := rfl
    wrapped_surrogateFree := hwrapped
    ciphertext_surrogateFree := surrogateFree_base64 _
    id_surrogateFree := hid
    exported_ne_nil := List.ne_nil_of_length_pos (by omega)
    holds := hholds
    opens := opened_of_sealed suite (size_freshKey e) (size_freshNonce e) ht }

lemma serves_set (hc : Spelled c) (h : Kept keys rows suite c texts ⟨e, conn, st⟩) {key t : Text}
    (hkey : SurrogateFree key) (ht : SurrogateFree t) (hleft : e.hasLeft writeCost = true) :
    Serves keys rows suite c texts ⟨⟨e, conn, st⟩, keyId⟩ (.set key t) := by
  obtain ⟨plain, hplain⟩ : ∃ plain, Utf8.encode t = .ok plain :=
    ⟨_, utf8_encode_eq_ok_iff.mpr ⟨ht, rfl⟩⟩
  obtain ⟨wrapped, id, st', hwrap, hwrapped, hid, hkeys, hholds, hlasts⟩ :=
    wrap_result keys h.keys_ready (surrogateFree_groupId hc)
      (surrogateFree_base64 (freshKey e).bytes)
  obtain ⟨receipt, conn', hstore, hrows, hrow⟩ :=
    storage_set rows h.rows_ready (surrogateFree_fullKey hc hkey) wrapped (freshCiphertext e plain)
      id
  have hrun : (c.set (remoteAdapters suite transport account handle) key (.text t)).result
      ⟨⟨e, conn, st⟩, keyId⟩ = (.ok receipt, ⟨⟨spend e, conn', st'⟩, keyId.or (some id)⟩) :=
    set_of_wrapped hleft hplain hwrap hstore
  refine serves_of_run (result_map_of Response.receipt hrun) ⟨receipt, rfl⟩
    ⟨hkeys, hrows, ?_⟩ rfl
  intro other
  rw [hrow]
  exact rowFor_update h.keeps hlasts (rowFor_fresh hplain hwrapped hid hholds) other

lemma serves_get_absent (hc : Spelled c) (h : Kept keys rows suite c texts ⟨e, conn, st⟩)
    {key : Text} (hkey : SurrogateFree key) (ht : texts key = none) :
    Serves keys rows suite c texts ⟨⟨e, conn, st⟩, keyId⟩ (.get key) := by
  obtain ⟨conn', hload, hrows, hrow⟩ :=
    storage_get rows h.rows_ready (surrogateFree_fullKey hc hkey)
  have hdead : ¬IsLive (rows.row conn.peer (c.fullKey key)) := by
    have hrowFor := h.keeps key
    rwa [ht] at hrowFor
  rw [shown_of_not_isLive hdead] at hload
  have hrun : (c.get (remoteAdapters suite transport account handle) key).result
      ⟨⟨e, conn, st⟩, keyId⟩ = (.ok none, ⟨⟨e, conn', st⟩, keyId⟩) := get_of_absent hload
  refine serves_of_run (result_map_of Response.text hrun) ?_ ⟨h.keys_ready, hrows, ?_⟩ rfl
  · rw [Answers, ht]
    rfl
  · rw [hrow]
    exact h.keeps

lemma serves_get_present (hc : Spelled c) (h : Kept keys rows suite c texts ⟨e, conn, st⟩)
    {key t : Text} (hkey : SurrogateFree key) (ht : texts key = some t) :
    Serves keys rows suite c texts ⟨⟨e, conn, st⟩, keyId⟩ (.get key) := by
  obtain ⟨conn', hload, hrows, hrow⟩ :=
    storage_get rows h.rows_ready (surrogateFree_fullKey hc hkey)
  obtain ⟨wrapped, ciphertext, id, exported, hheld⟩ :
      ∃ wrapped ciphertext id exported, RowHolds keys suite c st.signer
        (rows.row conn.peer (c.fullKey key)) t wrapped ciphertext id exported := by
    have hrowFor := h.keeps key
    rwa [ht] at hrowFor
  have hentry := ofJson_documentFor hheld.wrapped_surrogateFree hheld.ciphertext_surrogateFree
    hheld.id_surrogateFree
  rw [hheld.row_eq, shown_documentFor] at hload
  dsimp only at hload
  rw [hentry] at hload
  obtain ⟨known, st', hunwrap, hkeys, hlasts⟩ :=
    unwrap_result keys h.keys_ready (surrogateFree_groupId hc) hheld.wrapped_surrogateFree
      hheld.holds hheld.exported_ne_nil
  have hrun : (c.get (remoteAdapters suite transport account handle) key).result
      ⟨⟨e, conn, st⟩, keyId⟩ =
      ((opened suite (.text exported) (.text ciphertext) e).map some,
        ⟨⟨e, conn', st'⟩, keyId.or (some known)⟩) := get_of_unwrapped hload hunwrap
  rw [hheld.opens] at hrun
  refine serves_of_run (result_map_of Response.text hrun) ?_ ⟨hkeys, hrows, ?_⟩ rfl
  · rw [Answers, ht]
    rfl
  · rw [hrow]
    exact fun other => rowFor_lasts (h.keeps other) hlasts

lemma serves_delete (hc : Spelled c) (h : Kept keys rows suite c texts ⟨e, conn, st⟩) {key : Text}
    (hkey : SurrogateFree key) :
    Serves keys rows suite c texts ⟨⟨e, conn, st⟩, keyId⟩ (.delete key) := by
  obtain ⟨receipt, conn', left, herase, hrows, hdead, hrow⟩ :=
    storage_delete rows h.rows_ready (surrogateFree_fullKey hc hkey)
  have hrun : (c.delete (remoteAdapters suite transport account handle) key).result
      ⟨⟨e, conn, st⟩, keyId⟩ = (.ok receipt, ⟨⟨e, conn', st⟩, keyId⟩) := delete_of herase
  refine serves_of_run (result_map_of Response.receipt hrun) ⟨receipt, rfl⟩
    ⟨h.keys_ready, hrows, ?_⟩ rfl
  have hnew : RowFor keys suite c st.signer left none := hdead
  intro other
  rw [hrow]
  exact rowFor_update h.keeps (fun _ _ _ hholds => hholds) hnew other

lemma serves_list (hc : Spelled c) (h : Kept keys rows suite c texts ⟨e, conn, st⟩) {start : Text}
    (hstart : SurrogateFree start) :
    Serves keys rows suite c texts ⟨⟨e, conn, st⟩, keyId⟩ (.list start) := by
  obtain ⟨fulls, conn', hlist, hrows, hrow, hnodup, hmem⟩ :=
    storage_list rows h.rows_ready (surrogateFree_fullKey hc hstart)
  have hown : ∀ full ∈ fulls, c.fullKey start <+: full := fun full hfull => ((hmem full).mp hfull).1
  have hbase : ∀ full ∈ fulls, c.keyBase <+: full := fun full hfull =>
    (List.prefix_append c.keyBase start).trans (hown full hfull)
  have hrun : (c.list (remoteAdapters suite transport account handle) start).result
      ⟨⟨e, conn, st⟩, keyId⟩ =
      (.ok (fulls.map (·.drop c.keyBase.length)), ⟨⟨e, conn', st⟩, keyId⟩) := list_of hlist hown
  refine serves_of_run (result_map_of Response.keys hrun) ?_ ⟨h.keys_ready, hrows, ?_⟩ rfl
  · refine ⟨_, rfl, nodup_map_drop hbase hnodup, ?_⟩
    intro key
    have hfull : c.fullKey start <+: c.fullKey key ↔ start <+: key :=
      List.prefix_append_right_inj c.keyBase
    rw [mem_map_drop hbase, ← isLive_iff_of_rowFor (h.keeps key), ← hfull]
    exact hmem (c.fullKey key)
  · rw [hrow]
    exact h.keeps

lemma serves_task (hc : Spelled c) {s : Client.State (Remote σ τ)}
    (h : Kept keys rows suite c texts s.world) {task : Task} (htask : task.IsProper)
    (hleft : s.world.entropy.hasLeft task.cost = true) : Serves keys rows suite c texts s task := by
  obtain ⟨⟨e, conn, st⟩, keyId⟩ := s
  cases task with
  | set key t => exact serves_set hc h htask.1 htask.2 hleft
  | get key =>
    cases ht : texts key with
    | none => exact serves_get_absent hc h htask ht
    | some t => exact serves_get_present hc h htask ht
  | delete key => exact serves_delete hc h htask
  | list start => exact serves_list hc h htask
  | getKeyId => exact htask.elim

/-! ### Runs -/

lemma answersAll_of_kept (hc : Spelled c) {s : Client.State (Remote σ τ)}
    (h : Kept keys rows suite c texts s.world) (tasks : List Task)
    (htasks : ∀ task ∈ tasks, task.IsProper)
    (hleft : s.world.entropy.hasLeft (costOf tasks) = true) :
    AnswersAll texts tasks
      (responsesOf (remoteAdapters suite transport account handle) c s tasks) := by
  -- Each task leaves other texts, a world that keeps these, and enough entropy for those to come.
  induction tasks generalizing s texts with
  | nil => rfl
  | cons task rest ih =>
    rw [costOf] at hleft
    obtain ⟨hanswers, hkept, hentropy⟩ := serves_task hc h (htasks task List.mem_cons_self)
      (hasLeft_of_le hleft (Nat.le_add_right _ _))
    have hrest := hasLeft_advance hleft
    rw [← hentropy] at hrest
    exact ⟨_, _, rfl, hanswers,
      ih hkept (fun other hother => htasks other (List.mem_cons_of_mem _ hother)) hrest⟩

/-- A client whose key manager and whose service keep their word never fails, and keeps its texts: it
reads under each key what it wrote there last, nothing where it wrote nothing or has deleted, and it
lists the keys that it reads a text under, each once. -/
theorem remote_client_keeps_texts (keys : KeyService handle.signer)
    (rows : RowService transport account) (suite : Suite) (c : Client)
    (hc : Spelled c) (s : Client.State (Remote σ τ)) (hkeys : keys.ready s.world.anchor.signer)
    (hrows : rows.ready s.world.store.peer)
    (hnone : ∀ key, ¬IsLive (rows.row s.world.store.peer (c.fullKey key))) (tasks : List Task)
    (htasks : ∀ task ∈ tasks, task.IsProper)
    (hleft : s.world.entropy.hasLeft (costOf tasks) = true) :
    AnswersAll (fun _ => none) tasks
      (responsesOf (remoteAdapters suite transport account handle) c s tasks) :=
  have hkept : Kept keys rows suite c (fun _ => none) s.world := ⟨hkeys, hrows, hnone⟩
  answersAll_of_kept hc hkept tasks htasks hleft

end

/-- A text is read until it is deleted, from a backend that keeps rows, with a key manager that marks
what it wraps. -/
theorem remote_text_is_read_until_deleted :
    let alice : Client := ⟨"alice", "privatekv", "private", by decide, by decide, by decide⟩
    let account : Account := ⟨"https://kv.example", .text "alice", .text defaultContract, .int 30⟩
    let config : KeyManager.Config :=
      ⟨.text "outlayer.near", .null, .null, .null, .null, .null, .null⟩
    let a := remoteAdapters .streaming Backend.transport account ⟨config, markedSigner⟩
    let s : Client.State (Remote Unit Backend) :=
      ⟨⟨Entropy.seeded 7 (some 44), .idle (.start (.rows .empty)), ⟨(), []⟩⟩, none⟩
    let tasks : List Task := [.set "k" "hi", .get "k", .delete "k", .get "k"]
    (responsesOf a alice s tasks)[1]? = some (.ok (.text (some (ofString "hi")))) ∧
      (responsesOf a alice s tasks)[3]? = some (.ok (.text none)) := by
  intro alice account config a s tasks
  have hspelled : Spelled alice := ⟨by decide, by decide, by decide⟩
  have htasks : ∀ task ∈ tasks, task.IsProper := by
    simp only [tasks, List.forall_mem_cons, Task.IsProper, surrogateFree_ofString, and_self,
      List.not_mem_nil, false_implies, implies_true]
  have hall : AnswersAll (fun _ => none) tasks (responsesOf a alice s tasks) :=
    remote_client_keeps_texts markedService (backendService account) .streaming alice hspelled s
      trivial (ready_start account) (fun key => not_isLive_start account _) tasks htasks (by decide)
  obtain ⟨_, _, hfirst, -, r, _, rfl, hread, _, _, rfl, -, r', _, rfl, hreadAgain, -⟩ := hall
  rw [hfirst]
  rw [Answers] at hread hreadAgain
  rw [hread, hreadAgain]
  exact ⟨rfl, rfl⟩

end EnvelopeStore.Proofs
