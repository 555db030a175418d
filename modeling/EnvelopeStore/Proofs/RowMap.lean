import EnvelopeStore.Proofs.Backend
import EnvelopeStore.Proofs.StoreMaps

/-!
# A map of records behind a web service

A service that keeps a row for each key, marks the rows of deleted keys and lists the others in an
order of its own makes the store in front of it a map of records. A key that has no row may be
answered with an empty row or as not found.
-/

namespace EnvelopeStore.Proofs
open Service

/-- A service that answers a request for a row: it shows what there is, or says that there is
nothing. -/
def AnswersRow (row : Option Row) (r : Except Failure Reply) : Prop :=
  (∃ fields data, Replied r fields ∧ fields.get? "data" = some data ∧ ShowsRow row data) ∨
    (row = none ∧ ∃ reply, r = .ok reply ∧ reply.status = 404)

/-- A service that keeps a `row` for each key, while it is `ready`, and lists the keys of the live ones in
an order of its own. A row that is deleted stays, empty and with a mark. Only requests in characters
reach it. -/
structure RowServer {σ : Type} (transport : Transport σ) (account : Account) where
  ready : σ → Prop
  row : σ → Text → Option Row
  listing : σ → Text → List Text
  nodup_listing : ∀ {s} start, ready s → (listing s start).Nodup
  mem_listing : ∀ {s start key}, ready s →
    (key ∈ listing s start ↔ start <+: key ∧ IsLive (row s key))
  sets : ∀ {s request key document}, ready s → SurrogateFree key → SurrogateFree document →
    Carries account request .post "/v1/kv/set"
      [("key", .text key), ("value", .text document)] →
    ready ((transport request).result s).2 ∧
    (∃ fields, Replied ((transport request).result s).1 fields) ∧
    row ((transport request).result s).2 =
      Function.update (row s) key (some ⟨.text document, false⟩)
  deletes : ∀ {s request key}, ready s → SurrogateFree key →
    Carries account request .post "/v1/kv/delete" [("key", .text key)] →
    ready ((transport request).result s).2 ∧
    (∃ fields, Replied ((transport request).result s).1 fields) ∧
    row ((transport request).result s).2 =
      Function.update (row s) key ((row s key).map fun _ => ⟨.text [], true⟩)
  gets : ∀ {s request key}, ready s → SurrogateFree key →
    Carries account request .get "/v1/kv/get"
      [("key", .text key), ("fields", .text "value,isDeleted")] →
    ready ((transport request).result s).2 ∧ row ((transport request).result s).2 = row s ∧
    AnswersRow (row s key) ((transport request).result s).1
  queries : ∀ {s request start}, ready s → SurrogateFree start →
    Carries account request .get "/v1/kv/query"
      [("key_prefix", .text start), ("exclude_deleted", .text "true"), ("fields", .text "key")] →
    ready ((transport request).result s).2 ∧ row ((transport request).result s).2 = row s ∧
    ∃ fields items, Replied ((transport request).result s).1 fields ∧
      fields.get? "data" = some (.list items) ∧ List.Forall₂ ShowsKey items (listing s start)

/-! ### Rows for records -/

/-- A row stands for a record: it holds the document of one that can be read again, and is not live
where there is none. -/
def RowStands : Option Record → Option Row → Prop
  | none, row => ¬IsLive row
  | some record, row => record.Unpaired ∧ row = some ⟨.text record.document, false⟩

section

variable {record : Option Record} {row : Option Row}

lemma isLive_iff_of_rowStands (h : RowStands record row) : IsLive row ↔ record.isSome = true := by
  cases record with
  | none => exact iff_of_false h (by simp)
  | some record =>
    obtain ⟨-, rfl⟩ := h
    exact iff_of_true ⟨_, rfl, rfl⟩ rfl

lemma read_of_rowStands (h : RowStands record row) :
    (match shown row with
      | none => (.ok none : Except Failure (Option Entry))
      | some document => (Entry.ofJson document).map some) = .ok (record.map Record.entry) := by
  cases record with
  | none => rw [shown_of_not_isLive h, Option.map_none]
  | some record =>
    obtain ⟨hunpaired, rfl⟩ := h
    rw [shown_document]
    simp only [ofJson_text, (joined_entry_eq_iff record).mpr hunpaired]
    rfl

end

section

variable {σ : Type} {transport : Transport σ} {account : Account}

/-- The rows of a service stand for records. -/
def ServerKeeps (server : RowServer transport account) (kept : Contents) (conn : Connection σ) :
    Prop :=
  server.ready conn.peer ∧ ∀ key, RowStands (kept key) (server.row conn.peer key)

def ListedBy (server : RowServer transport account) (conn : Connection σ) (start : Text)
    (keys : List Text) : Prop :=
  keys = server.listing conn.peer start

variable {server : RowServer transport account} {kept : Contents} {conn conn' : Connection σ}

lemma serverKeeps_update (h : ServerKeeps server kept conn) (hready : server.ready conn'.peer)
    {key : Text} {record : Option Record} {row : Option Row} (hrow : RowStands record row)
    (hrows : server.row conn'.peer = Function.update (server.row conn.peer) key row) :
    ServerKeeps server (Function.update kept key record) conn' := by
  refine ⟨hready, ?_⟩
  intro other
  rw [hrows]
  by_cases heq : other = key
  · subst heq
    rwa [Function.update_self, Function.update_self]
  · rw [Function.update_of_ne heq, Function.update_of_ne heq]
    exact h.2 other

lemma get_of_answersRow {key : Text} {record : Option Record} {row : Option Row}
    (h : AnswersRow row ((transport (getRequest account key)).result conn.peer).1)
    (hrow : RowStands record row) :
    ∃ conn', ((storage transport account).get (.text key)).result conn =
        (.ok (record.map Record.entry), conn') ∧
      conn'.peer = ((transport (getRequest account key)).result conn.peer).2 := by
  obtain ⟨fields, data, hreplied, hdata, hshows⟩ | ⟨rfl, reply, hreply, hmissing⟩ := h
  · obtain ⟨conn', hget, hpeer⟩ := get_replied hreplied hdata hshows
    exact ⟨conn', hget.trans (Prod.ext (read_of_rowStands hrow) rfl), hpeer⟩
  · have hnone : record = none := by
      cases record with
      | none => rfl
      | some record => simp [RowStands] at hrow
    obtain ⟨conn', hsend, hpeer⟩ := send_result transport account .get
      [("key", .text key), ("fields", .text "value,isDeleted")] conn
    have hreply' : ((transport (getRequest account key)).result conn.peer).1 = .ok reply := hreply
    refine ⟨conn', ?_, hpeer⟩
    simp only [storage]
    rw [getRequest] at hreply'
    rw [hreply'] at hsend
    rw [result_bind_of_ok hsend, hnone]
    simp only [if_pos hmissing]
    rfl

theorem rows_act_as_map (h : ServerKeeps server kept conn) {task : StoreTask}
    (htask : task.Names SurrogateFree) :
    ActsAsMap (ServerKeeps server) (ListedBy server) kept task (task.on (storage transport account))
      conn := by
  cases task with
  | set key record =>
    obtain ⟨hkey, hunpaired⟩ := htask
    obtain ⟨hready, ⟨fields, hreplied⟩, hrows⟩ :=
      server.sets h.1 hkey (surrogateFree_document record) carries_setRequest
    obtain ⟨receipt, conn', hset, hpeer⟩ := set_replied (toJson_record record) hreplied
    rw [← hpeer] at hready hrows
    exact ⟨_, conn', result_map_of _ hset, .set key record,
      serverKeeps_update h hready ⟨hunpaired, rfl⟩ hrows⟩
  | get key =>
    obtain ⟨hready, hrows, hanswer⟩ := server.gets h.1 htask carries_getRequest
    obtain ⟨conn', hget, hpeer⟩ := get_of_answersRow hanswer (h.2 key)
    rw [← hpeer] at hready hrows
    refine ⟨_, conn', result_map_of _ hget, .get key, hready, ?_⟩
    rw [hrows]
    exact h.2
  | delete key =>
    obtain ⟨hready, ⟨fields, hreplied⟩, hrows⟩ := server.deletes h.1 htask carries_deleteRequest
    obtain ⟨receipt, conn', hdelete, hpeer⟩ := delete_replied hreplied
    rw [← hpeer] at hready hrows
    have hdead : RowStands none ((server.row conn.peer key).map fun _ => ⟨.text [], true⟩) := by
      rintro ⟨r, hr, hlive⟩
      obtain ⟨_, -, rfl⟩ := Option.map_eq_some_iff.mp hr
      simp at hlive
    exact ⟨_, conn', result_map_of _ hdelete, .delete key,
      serverKeeps_update h hready hdead hrows⟩
  | list start =>
    obtain ⟨hready, hrows, fields, items, hreplied, hdata, hshows⟩ :=
      server.queries h.1 htask carries_queryRequest
    obtain ⟨conn', hlist, hpeer⟩ := list_replied hreplied hdata hshows
    rw [← hpeer] at hready hrows
    refine ⟨_, conn', result_map_of _ hlist,
      .list start _ rfl (server.nodup_listing start h.1) ?_, hready, ?_⟩
    · intro key
      rw [server.mem_listing h.1, isLive_iff_of_rowStands (h.2 key)]
    · rw [hrows]
      exact h.2

lemma serverKeeps_after (h : ServerKeeps server kept conn) {tasks : List StoreTask}
    (htasks : ∀ task ∈ tasks, task.Names SurrogateFree) :
    ServerKeeps server (tasks.foldl Contents.next kept)
      (afterAll (·.on (storage transport account)) conn tasks) := by
  induction tasks generalizing kept conn with
  | nil => exact h
  | cons task rest ih =>
    obtain ⟨answer, conn', hrun, -, hkeeps⟩ := rows_act_as_map h (htasks task List.mem_cons_self)
    rw [List.foldl_cons, afterAll, List.foldl_cons, hrun]
    exact ih hkeeps fun other hother => htasks other (List.mem_cons_of_mem _ hother)

/-- The store in front of a service that has no live row is a map of records: after any tasks, the
next one succeeds, and answers as the map does that the tasks have led to. -/
theorem rows_are_a_map (server : RowServer transport account) {conn : Connection σ}
    (hready : server.ready conn.peer) (hnone : ∀ key, ¬IsLive (server.row conn.peer key))
    {tasks : List StoreTask} (htasks : ∀ task ∈ tasks, task.Names SurrogateFree)
    {task : StoreTask} (htask : task.Names SurrogateFree) :
    let now := afterAll (·.on (storage transport account)) conn tasks
    ∃ answer, ((task.on (storage transport account)).result now).1 = .ok answer ∧
      (tasks.foldl Contents.next .empty).Answers (ListedBy server now) task answer := by
  intro now
  have hstart : ServerKeeps server .empty conn := ⟨hready, hnone⟩
  have hkeeps : ServerKeeps server (tasks.foldl Contents.next .empty) now :=
    serverKeeps_after hstart htasks
  obtain ⟨answer, conn', hrun, hanswers, -⟩ := rows_act_as_map hkeeps htask
  exact ⟨answer, congrArg Prod.fst hrun, hanswers⟩

end

/-! ### A backend that keeps rows -/

def listingOfBackend (b : Backend) (start : Text) : List Text :=
  match b.behaviour with
  | .rows r => liveFrom r (r.rows.keys.filterMap Value.text?) start
  | .scripted _ => []

lemma listingOfBackend_keeping {b : Backend} {r : Rows} {keys : List Text} (h : Keeping b r keys)
    (start : Text) : listingOfBackend b start = liveFrom r keys start := by
  rw [listingOfBackend, h.behaviour]
  exact congrArg (liveFrom r · start) (filterMap_text?_keys h.keyed.keys)

def backendServer (account : Account) : RowServer Backend.transport account where
  ready := (backendService account).ready
  row := rowOf
  listing := listingOfBackend
  nodup_listing := by
    rintro b start ⟨r, keys, h⟩
    rw [listingOfBackend_keeping h]
    exact nodup_liveFrom h start
  mem_listing := by
    rintro b start key ⟨r, keys, h⟩
    rw [listingOfBackend_keeping h]
    exact mem_liveFrom h
  sets := (backendService account).sets
  deletes := by
    rintro b request key ⟨r, keys, h⟩ hkey hcarries
    exact delete_keeping h hkey hcarries
  gets := by
    intro b request key hready hkey hcarries
    obtain ⟨hready', hrows, fields, data, hreplied, hdata, hshows⟩ :=
      (backendService account).gets hready hkey hcarries
    exact ⟨hready', hrows, .inl ⟨fields, data, hreplied, hdata, hshows⟩⟩
  queries := by
    rintro b request start ⟨r, keys, h⟩ hstart hcarries
    rw [transport_result h (serve_query h List.mem_cons_self hcarries), listingOfBackend_keeping h]
    exact ⟨⟨_, _, keeping_rows h rfl h.up _⟩, rowOf_rows h rfl _, _, _,
      replied_items fun _ => surrogateFree_of_mem_liveFrom h, rfl, forall₂_showsKey_itemOf _⟩

/-- A key that is stored, deleted and stored again is read as it was stored last, also where a text of
the record is half of a pair of surrogates. -/
theorem revived_key_is_read :
    let account : Account := ⟨"https://kv.example", .text "alice", .text defaultContract, .int 30⟩
    let store := storage Backend.transport account
    let old : Record := ⟨"old", "old", "id", .int 1, rfl⟩
    let new : Record := ⟨[CodePoint.ofNat 0xD834], [], "id", .float floatOne,
      equalsInt_one_iff.mpr (.inr (.inr rfl))⟩
    let tasks : List StoreTask := [.set "k" old, .delete "k", .set "k" new]
    (((StoreTask.get "k").on store).result
        (afterAll (·.on store) (.idle (.start (.rows .empty))) tasks)).1 =
      .ok (.found (some new.entry)) := by
  intro account store old new tasks
  let conn : Connection Backend := .idle (.start (.rows .empty))
  have hready : (backendServer account).ready conn.peer := ready_start account
  have hnone : ∀ key, ¬IsLive ((backendServer account).row conn.peer key) := not_isLive_start account
  have hplain : ∀ s : String, ¬HasPair s := fun s =>
    not_hasPair_of_surrogateFree (surrogateFree_ofString s)
  have hold : old.Unpaired := ⟨hplain _, hplain _, hplain _⟩
  have hnew : new.Unpaired := ⟨joinPairs_eq_self_iff.mp rfl, joinPairs_eq_self_iff.mp rfl, hplain _⟩
  have htasks : ∀ task ∈ tasks, task.Names SurrogateFree := by
    simp only [tasks, List.forall_mem_cons, StoreTask.Names, surrogateFree_ofString, hold, hnew,
      and_self, List.not_mem_nil, false_implies, implies_true]
  have htask : (StoreTask.get "k").Names SurrogateFree := surrogateFree_ofString "k"
  obtain ⟨answer, hrun, hanswers⟩ :=
    rows_are_a_map (backendServer account) hready hnone htasks htask
  cases hanswers
  exact hrun

end EnvelopeStore.Proofs
