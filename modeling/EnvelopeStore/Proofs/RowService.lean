import EnvelopeStore.Proofs.Actions
import EnvelopeStore.Proofs.Documents
import EnvelopeStore.Proofs.Order
import EnvelopeStore.Proofs.Pairs
import EnvelopeStore.Proofs.Records
import EnvelopeStore.Service.Backend
import EnvelopeStore.Service.Store
import Mathlib.Logic.Function.Basic

/-!
# A service that keeps rows

What a service does is told by the rows that it keeps and by what it replies to the four requests, as
they are sent.
The store in front of it is then a map from keys to entries that never fails: an entry that is read
is the one that was written.
-/

namespace EnvelopeStore.Proofs
open Service

/-! ### Replies -/

/-- A reply of success whose body is an object. -/
def Replied (r : Except Failure Reply) (fields : Fields) : Prop :=
  ∃ reply, r = .ok reply ∧ reply.isOk = true ∧ reply.value = .ok (.object fields)

/-- What is shown of a key: the row with its value and its mark, or nothing. -/
def ShowsRow : Option Row → Value → Prop
  | none, v => v = .null
  | some row, v => ∃ fields : Fields, v = .object fields ∧
      fields.get? "value" = some row.value ∧ fields.get? "isDeleted" = some (.bool row.isDeleted)

/-- An item of a listing shows a key. -/
def ShowsKey (item : Value) (key : Text) : Prop :=
  ∃ fields : Fields, item = .object fields ∧ fields.get? "key" = some (.text key)

/-- A row that is not deleted. -/
def IsLive (row : Option Row) : Prop := ∃ r, row = some r ∧ r.isDeleted = false

/-- A request to a place below the address of the service, whatever slashes that ends with, with these
parameters and those that name the account. -/
structure Carries (account : Account) (request : Request) (verb : Method) (place : Text)
    (params : Fields) : Prop where
  method : request.method = verb
  url : request.url = account.apiUrl.dropWhileEnd (· = CodePoint.ofChar '/') ++ place
  accountId : request.data.get? "accountId" = some account.accountId
  contractId : request.data.get? "contractId" = some account.contractId
  data : ∀ name v, (name, v) ∈ params → request.data.get? name = some v

/-- A service that keeps a `row` for each key of an account, while it is `ready`. Only requests in
characters reach it. -/
structure RowService {σ : Type} (transport : Transport σ) (account : Account) where
  ready : σ → Prop
  row : σ → Text → Option Row
  sets : ∀ {s request key document}, ready s → SurrogateFree key → SurrogateFree document →
    Carries account request .post "/v1/kv/set"
      [("key", .text key), ("value", .text document)] →
    ready ((transport request).result s).2 ∧
    (∃ fields, Replied ((transport request).result s).1 fields) ∧
    row ((transport request).result s).2 =
      Function.update (row s) key (some ⟨.text document, false⟩)
  gets : ∀ {s request key}, ready s → SurrogateFree key →
    Carries account request .get "/v1/kv/get"
      [("key", .text key), ("fields", .text "value,isDeleted")] →
    ready ((transport request).result s).2 ∧ row ((transport request).result s).2 = row s ∧
    ∃ fields data, Replied ((transport request).result s).1 fields ∧
      fields.get? "data" = some data ∧ ShowsRow (row s key) data
  deletes : ∀ {s request key}, ready s → SurrogateFree key →
    Carries account request .post "/v1/kv/delete" [("key", .text key)] →
    ready ((transport request).result s).2 ∧
    (∃ fields, Replied ((transport request).result s).1 fields) ∧
    ∃ left, (∀ r, left = some r → r = ⟨.text [], true⟩) ∧
      row ((transport request).result s).2 = Function.update (row s) key left
  queries : ∀ {s request start}, ready s → SurrogateFree start →
    Carries account request .get "/v1/kv/query"
      [("key_prefix", .text start), ("exclude_deleted", .text "true"), ("fields", .text "key")] →
    ready ((transport request).result s).2 ∧ row ((transport request).result s).2 = row s ∧
    ∃ fields items keys, Replied ((transport request).result s).1 fields ∧
      fields.get? "data" = some (.list items) ∧ List.Forall₂ ShowsKey items keys ∧ keys.Nodup ∧
      ∀ key, key ∈ keys ↔ start <+: key ∧ IsLive (row s key)

/-! ### Requests -/

section

variable {σ : Type} {transport : Transport σ} {account : Account} {call : ServiceCall}
  {data fields : Fields} {conn : Connection σ}

def requestFor (account : Account) (call : ServiceCall) (params : Fields) : Request :=
  ⟨method call, account.base ++ path call, parameters account params, account.timeout⟩

lemma send_result (transport : Transport σ) (account : Account) (call : ServiceCall)
    (params : Fields) (conn : Connection σ) :
    ∃ conn', (send transport account call (parameters account params)).result conn =
        (((transport (requestFor account call params)).result conn.peer).1, conn') ∧
      conn'.peer = ((transport (requestFor account call params)).result conn.peer).2 := by
  obtain ⟨opened, hready, hpeer⟩ : ∃ opened : Connection σ,
      (Connection.ready account.timeout).result conn = (.ok ⟨⟩, opened) ∧
        opened.peer = conn.peer := by
    refine ⟨_, result_modify _ _, ?_⟩
    cases conn.current <;> rfl
  refine ⟨{ opened with peer := ((transport (requestFor account call params)).result
    conn.peer).2 }, ?_, rfl⟩
  rw [send, result_bind_of_ok hready, result_on, ← hpeer]
  rfl

lemma carries_requestFor {params : Fields} (h : ((parameters account params).map Prod.fst).Nodup) :
    Carries account (requestFor account call params) (method call) (path call) params :=
  ⟨rfl, rfl, rfl, rfl, fun _ _ hmem =>
    lookup_of_mem h (List.mem_cons_of_mem _ (List.mem_cons_of_mem _ hmem))⟩

lemma send_replied {params : Fields}
    (h : Replied ((transport (requestFor account call params)).result conn.peer).1 fields) :
    ∃ reply conn', (send transport account call (parameters account params)).result conn =
        (.ok reply, conn') ∧
      conn'.peer = ((transport (requestFor account call params)).result conn.peer).2 ∧
      reply.status ≠ 404 ∧ accept call reply = .ok (.object fields) := by
  obtain ⟨reply, hreply, hok, hvalue⟩ := h
  obtain ⟨conn', hsend, hpeer⟩ := send_result transport account call params conn
  rw [hreply] at hsend
  refine ⟨reply, conn', hsend, hpeer, ?_, ?_⟩
  · rw [Reply.isOk, decide_eq_true_eq] at hok
    omega
  · rw [accept, if_pos hok, hvalue]

lemma orEmpty_object (fields : Fields) : orEmpty (.object fields) = .object fields := by
  cases fields <;> rfl

lemma receiptOf_object (fields : Fields) : ∃ receipt, receiptOf (.object fields) = .ok receipt := by
  rw [receiptOf, orEmpty_object]
  exact ⟨_, rfl⟩

/-- The document that is found in a row: its value, unless it is deleted or empty. -/
def shown : Option Row → Option Value
  | none => none
  | some row => if row.isDeleted = true ∨ row.value.isGiven = false then none else some row.value

lemma shown_of_not_isLive {row : Option Row} (h : ¬IsLive row) : shown row = none := by
  cases row with
  | none => rfl
  | some row =>
    have hdeleted : row.isDeleted = true := by
      by_contra hlive
      exact h ⟨row, rfl, by simpa using hlive⟩
    rw [shown, if_pos (.inl hdeleted)]

lemma documentOf_showsRow {row : Option Row} {data : Value} (hdata : fields.get? "data" = some data)
    (h : ShowsRow row data) : documentOf (.object fields) = .ok (shown row) := by
  have hfield : fieldOf "data" (orEmpty (.object fields)) = .ok data := by
    rw [orEmpty_object, fieldOf, hdata]
    rfl
  rw [documentOf, hfield]
  cases row with
  | none =>
    obtain rfl : data = .null := h
    rfl
  | some r =>
    obtain ⟨parts, rfl, hvalue, hdeleted⟩ := h
    have hgiven : (Value.object parts).isGiven = true := by
      cases parts with
      | nil => simp [Fields.get?] at hvalue
      | cons => rfl
    have hmark : fieldOf "isDeleted" (.object parts) = .ok (.bool r.isDeleted) := by
      rw [fieldOf, hdeleted]
      rfl
    have hshown : fieldOf "value" (.object parts) = .ok r.value := by
      rw [fieldOf, hvalue]
      rfl
    have hbool : (Value.bool r.isDeleted).isGiven = r.isDeleted := rfl
    simp only [bind, Except.bind, hgiven, hmark, hshown, hbool, shown]
    cases r.isDeleted <;> cases r.value.isGiven <;> rfl

end

/-! ### Entries -/

/-- What is written into a row for an entry in the current format. -/
def documentFor (wrappedKey ciphertext keyId : Text) : Text :=
  Json.write (Entry.current wrappedKey ciphertext keyId).toValue

def currentRecord (wrappedKey ciphertext keyId : Text) : Record :=
  ⟨wrappedKey, ciphertext, keyId, .int formatVersion, rfl⟩

lemma shown_document (record : Record) :
    shown (some ⟨.text record.document, false⟩) = some (.text record.document) := by
  have hgiven : (Value.text record.document).isGiven = true := by
    rw [Record.document, Entry.toValue, Json.write, List.append_assoc]
    rfl
  rw [shown, if_neg (by simp [hgiven])]

section

variable {wrappedKey ciphertext keyId : Text}

lemma toJson_current :
    (Entry.current wrappedKey ciphertext keyId).toJson =
      .ok (documentFor wrappedKey ciphertext keyId) := rfl

theorem ofJson_documentFor (hwrapped : SurrogateFree wrappedKey)
    (hciphertext : SurrogateFree ciphertext) (hid : SurrogateFree keyId) :
    Entry.ofJson (.text (documentFor wrappedKey ciphertext keyId)) =
      .ok (Entry.current wrappedKey ciphertext keyId) := by
  have hunpaired : (currentRecord wrappedKey ciphertext keyId).Unpaired :=
    ⟨not_hasPair_of_surrogateFree hwrapped, not_hasPair_of_surrogateFree hciphertext,
      not_hasPair_of_surrogateFree hid⟩
  have hread := ofJson_text (currentRecord wrappedKey ciphertext keyId)
  rwa [(joined_entry_eq_iff _).mpr hunpaired] at hread

lemma shown_documentFor :
    shown (some ⟨.text (documentFor wrappedKey ciphertext keyId), false⟩) =
      some (.text (documentFor wrappedKey ciphertext keyId)) :=
  shown_document (currentRecord wrappedKey ciphertext keyId)

lemma surrogateFree_documentFor : SurrogateFree (documentFor wrappedKey ciphertext keyId) :=
  surrogateFree_document (currentRecord wrappedKey ciphertext keyId)

end

/-! ### Operations that are answered -/

def setRequest (account : Account) (key document : Text) : Request :=
  requestFor account .set [("key", .text key), ("value", .text document)]

def getRequest (account : Account) (key : Text) : Request :=
  requestFor account .get [("key", .text key), ("fields", .text "value,isDeleted")]

def deleteRequest (account : Account) (key : Text) : Request :=
  requestFor account .delete [("key", .text key)]

def queryRequest (account : Account) (start : Text) : Request :=
  requestFor account .query [("key_prefix", .text start), ("exclude_deleted", .text "true"),
    ("fields", .text "key")]

section

variable {σ : Type} {transport : Transport σ} {account : Account} {conn : Connection σ}
  {key document start : Text} {fields : Fields}

lemma carries_setRequest : Carries account (setRequest account key document) .post "/v1/kv/set"
    [("key", .text key), ("value", .text document)] :=
  carries_requestFor (by decide : [Text.ofString "accountId", "contractId", "key", "value"].Nodup)

lemma carries_getRequest : Carries account (getRequest account key) .get "/v1/kv/get"
    [("key", .text key), ("fields", .text "value,isDeleted")] :=
  carries_requestFor (by decide : [Text.ofString "accountId", "contractId", "key", "fields"].Nodup)

lemma carries_deleteRequest : Carries account (deleteRequest account key) .post "/v1/kv/delete"
    [("key", .text key)] :=
  carries_requestFor (by decide : [Text.ofString "accountId", "contractId", "key"].Nodup)

lemma carries_queryRequest : Carries account (queryRequest account start) .get "/v1/kv/query"
    [("key_prefix", .text start), ("exclude_deleted", .text "true"), ("fields", .text "key")] :=
  carries_requestFor (by decide :
    [Text.ofString "accountId", "contractId", "key_prefix", "exclude_deleted", "fields"].Nodup)

lemma set_replied {e : Entry} (hjson : e.toJson = .ok document)
    (h : Replied ((transport (setRequest account key document)).result conn.peer).1 fields) :
    ∃ receipt conn', ((storage transport account).set (.text key) e).result conn =
        (.ok receipt, conn') ∧
      conn'.peer = ((transport (setRequest account key document)).result conn.peer).2 := by
  obtain ⟨reply, conn', hsend, hpeer, -, haccept⟩ := send_replied h
  obtain ⟨receipt, hreceipt⟩ := receiptOf_object fields
  refine ⟨receipt, conn', ?_, hpeer⟩
  simp only [storage, hjson, Action.ofExcept_ok]
  rw [result_bind_of_ok (result_pure _ _), result_bind_of_ok hsend, haccept, Action.ofExcept_ok,
    result_bind_of_ok (result_pure _ _), hreceipt]
  rfl

lemma delete_replied
    (h : Replied ((transport (deleteRequest account key)).result conn.peer).1 fields) :
    ∃ receipt conn', ((storage transport account).delete (.text key)).result conn =
        (.ok receipt, conn') ∧
      conn'.peer = ((transport (deleteRequest account key)).result conn.peer).2 := by
  obtain ⟨reply, conn', hsend, hpeer, -, haccept⟩ := send_replied h
  obtain ⟨receipt, hreceipt⟩ := receiptOf_object fields
  refine ⟨receipt, conn', ?_, hpeer⟩
  simp only [storage]
  rw [result_bind_of_ok hsend, haccept, Action.ofExcept_ok, result_bind_of_ok (result_pure _ _),
    hreceipt]
  rfl

lemma get_replied {row : Option Row} {data : Value}
    (h : Replied ((transport (getRequest account key)).result conn.peer).1 fields)
    (hdata : fields.get? "data" = some data) (hshows : ShowsRow row data) :
    ∃ conn', ((storage transport account).get (.text key)).result conn =
        ((match shown row with
          | none => .ok none
          | some document => (Entry.ofJson document).map some), conn') ∧
      conn'.peer = ((transport (getRequest account key)).result conn.peer).2 := by
  obtain ⟨reply, conn', hsend, hpeer, hfound, haccept⟩ := send_replied h
  refine ⟨conn', ?_, hpeer⟩
  simp only [storage]
  rw [result_bind_of_ok hsend]
  simp only [if_neg hfound]
  rw [haccept, Action.ofExcept_ok, result_bind_of_ok (result_pure _ _),
    documentOf_showsRow hdata hshows]
  simp only [shaped, Action.ofExcept_ok]
  rw [result_bind_of_ok (result_pure _ _)]
  cases shown row with
  | none => rfl
  | some document =>
    dsimp only
    rw [result_map, result_ofExcept]

lemma keysOf_showsKey {items : List Value} {keys : List Text}
    (h : List.Forall₂ ShowsKey items keys) : keysOf items = .ok (keys.map .text) := by
  induction h with
  | nil => rfl
  | cons hhead _ ih =>
    obtain ⟨fields, rfl, hkey⟩ := hhead
    simp only [keysOf, keyOf?, hkey, ih, List.map_cons]

lemma listingOf_showsKey {fields : Fields} {items : List Value} {keys : List Text}
    (hdata : fields.get? "data" = some (.list items)) (h : List.Forall₂ ShowsKey items keys) :
    listingOf (.object fields) = .ok (keys.map .text) := by
  have hfield : fieldOf "data" (orEmpty (.object fields)) = .ok (.list items) := by
    rw [orEmpty_object, fieldOf, hdata]
    rfl
  rw [listingOf, hfield]
  cases h with
  | nil => rfl
  | cons hhead htail => exact keysOf_showsKey (.cons hhead htail)

lemma list_replied {items : List Value} {keys : List Text}
    (h : Replied ((transport (queryRequest account start)).result conn.peer).1 fields)
    (hdata : fields.get? "data" = some (.list items)) (hshows : List.Forall₂ ShowsKey items keys) :
    ∃ conn', ((storage transport account).list (.text start)).result conn =
        (.ok (keys.map .text), conn') ∧
      conn'.peer = ((transport (queryRequest account start)).result conn.peer).2 := by
  obtain ⟨reply, conn', hsend, hpeer, -, haccept⟩ := send_replied h
  refine ⟨conn', ?_, hpeer⟩
  simp only [storage]
  rw [result_bind_of_ok hsend, haccept, Action.ofExcept_ok, result_bind_of_ok (result_pure _ _),
    listingOf_showsKey hdata hshows]
  rfl

end

/-! ### The store -/

section

variable {σ : Type} {transport : Transport σ} {account : Account} {conn : Connection σ} {key : Text}

theorem storage_set (service : RowService transport account) (hready : service.ready conn.peer)
    (hkey : SurrogateFree key) (wrappedKey ciphertext keyId : Text) :
    ∃ receipt conn', ((storage transport account).set (.text key)
        (.current wrappedKey ciphertext keyId)).result conn = (.ok receipt, conn') ∧
      service.ready conn'.peer ∧
      service.row conn'.peer = Function.update (service.row conn.peer) key
        (some ⟨.text (documentFor wrappedKey ciphertext keyId), false⟩) := by
  obtain ⟨hready', ⟨fields, hreplied⟩, hrow⟩ :=
    service.sets hready hkey surrogateFree_documentFor carries_setRequest
  obtain ⟨receipt, conn', hset, hpeer⟩ := set_replied toJson_current hreplied
  exact ⟨receipt, conn', hset, by rwa [hpeer], by rw [hpeer, hrow]⟩

theorem storage_delete (service : RowService transport account) (hready : service.ready conn.peer)
    (hkey : SurrogateFree key) :
    ∃ receipt conn' left, ((storage transport account).delete (.text key)).result conn =
        (.ok receipt, conn') ∧ service.ready conn'.peer ∧ ¬IsLive left ∧
      service.row conn'.peer = Function.update (service.row conn.peer) key left := by
  obtain ⟨hready', ⟨fields, hreplied⟩, left, hleft, hrow⟩ :=
    service.deletes hready hkey carries_deleteRequest
  obtain ⟨receipt, conn', hdelete, hpeer⟩ := delete_replied hreplied
  have hdead : ¬IsLive left := by
    rintro ⟨r, hr, hlive⟩
    rw [hleft r hr] at hlive
    simp at hlive
  exact ⟨receipt, conn', left, hdelete, by rwa [hpeer], hdead, by rw [hpeer, hrow]⟩

theorem storage_get (service : RowService transport account) (hready : service.ready conn.peer)
    (hkey : SurrogateFree key) :
    ∃ conn', ((storage transport account).get (.text key)).result conn =
        ((match shown (service.row conn.peer key) with
          | none => .ok none
          | some document => (Entry.ofJson document).map some), conn') ∧
      service.ready conn'.peer ∧ service.row conn'.peer = service.row conn.peer := by
  obtain ⟨hready', hrow, fields, data, hreplied, hdata, hshows⟩ :=
    service.gets hready hkey carries_getRequest
  obtain ⟨conn', hget, hpeer⟩ := get_replied hreplied hdata hshows
  exact ⟨conn', hget, by rwa [hpeer], by rw [hpeer, hrow]⟩

theorem storage_list (service : RowService transport account) (hready : service.ready conn.peer)
    {start : Text} (hstart : SurrogateFree start) :
    ∃ (keys : List Text) (conn' : Connection σ),
      ((storage transport account).list (.text start)).result conn =
        (.ok (keys.map .text), conn') ∧
      service.ready conn'.peer ∧ service.row conn'.peer = service.row conn.peer ∧ keys.Nodup ∧
      ∀ key, key ∈ keys ↔ start <+: key ∧ IsLive (service.row conn.peer key) := by
  obtain ⟨hready', hrow, fields, items, keys, hreplied, hdata, hshows, hnodup, hmem⟩ :=
    service.queries hready hstart carries_queryRequest
  obtain ⟨conn', hlist, hpeer⟩ := list_replied hreplied hdata hshows
  exact ⟨keys, conn', hlist, by rwa [hpeer], by rw [hpeer, hrow], hnodup, hmem⟩

end

end EnvelopeStore.Proofs
