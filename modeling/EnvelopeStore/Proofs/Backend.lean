import EnvelopeStore.Proofs.Bindings
import EnvelopeStore.Proofs.RowService

/-!
# The backend that keeps rows

A backend that keeps rows, and is not out of order, is a service that keeps a row for each key of any
account.
-/

namespace EnvelopeStore.Proofs
open Service

/-! ### Bodies -/

lemma strip_write_object (fields : Fields) :
    (Json.write (.object fields)).strip Text.isAsciiSpace = Json.write (.object fields) := by
  obtain ⟨t, ht⟩ : ∃ t, Json.write (.object fields) =
      CodePoint.ofChar '\x7b' :: (t ++ [CodePoint.ofChar '\x7d']) := by
    rw [Json.write, List.append_assoc]
    exact ⟨_, rfl⟩
  have hopen : Text.isAsciiSpace (CodePoint.ofChar '\x7b') = false := by decide
  have hclose : Text.isAsciiSpace (CodePoint.ofChar '\x7d') = false := by decide
  rw [ht, Text.strip, List.dropWhile_cons_of_neg (by simp [hopen]), Text.dropWhileEnd,
    ← List.cons_append, List.reverse_append, List.reverse_singleton, List.singleton_append,
    List.dropWhile_cons_of_neg (by simp [hclose])]
  simp

lemma replied_answer {fields : Fields} (h : isTold (.object fields) = true)
    (hdepth : height (.object fields) ≤ Json.maxDepth) (hsettled : Settled (.object fields)) :
    Replied (.ok (Rows.answer (.object fields))) fields := by
  refine ⟨_, rfl, rfl, ?_⟩
  have hne : Json.write (.object fields) ≠ [] := by
    obtain ⟨c, t, ht, -⟩ := opens_write h
    simp [ht]
  rw [Reply.value, Rows.answer, strip_write_object]
  split
  · next hnil => exact absurd hnil hne
  · exact read_write_settled h hdepth hsettled

lemma settled_field {name : String} {v : Value} (h : Settled v) :
    Settled (.object [(Text.ofString name, v)]) :=
  ⟨by simp, joinPairs_surrogateFree (surrogateFree_ofString name), h, trivial⟩

lemma settled_text {t : Text} (h : SurrogateFree t) : Settled (.text t) :=
  joinPairs_surrogateFree h

lemma replied_field {name : String} {v : Value} (h : isTold v = true)
    (hdepth : height v < Json.maxDepth) (hsettled : Settled v) :
    Replied (.ok (Rows.answer (.object [(Text.ofString name, v)]))) [(Text.ofString name, v)] := by
  refine replied_answer ?_ ?_ (settled_field hsettled)
  · simp [isTold, areToldFields, h]
  · rw [height, heightOfFields, heightOfFields, Nat.max_zero]
    exact hdepth

/-! ### Rows -/

/-- A backend keeps rows under texts, and all of them are characters. -/
structure Keeping (b : Backend) (r : Rows) (keys : List Text) : Prop where
  behaviour : b.behaviour = .rows r
  up : r.down = false
  keyed : TextKeyed r.rows keys
  key_surrogateFree : ∀ key ∈ keys, SurrogateFree key
  value_surrogateFree : ∀ key row, r.rows.get? (.text key) = some row →
    ∃ document, row.value = .text document ∧ SurrogateFree document

def rowOf (b : Backend) (key : Text) : Option Row :=
  match b.behaviour with
  | .rows r => r.rows.get? (.text key)
  | .scripted _ => none

section

variable {b : Backend} {r r' : Rows} {keys : List Text} {account : Account} {request : Request}
  {reply : Reply} {key document : Text}

lemma rowOf_keeping (h : Keeping b r keys) (key : Text) :
    rowOf b key = r.rows.get? (.text key) := by
  rw [rowOf, h.behaviour]

lemma transport_result (h : Keeping b r keys) (hserve : r.serve request = .ok (reply, r')) :
    (Backend.transport request).result b =
      (.ok reply, ⟨.rows r', b.requests ++ [request]⟩) := by
  simp only [Backend.transport]
  rw [result_bind_of_ok (result_get _)]
  simp only [h.behaviour]
  rw [result_bind_of_ok (result_set _ _), hserve, Action.ofExcept_ok,
    result_bind_of_ok (result_pure _ _)]
  rfl

lemma field_carries {verb : Method} {place : Text} {params : Fields}
    (h : Carries account request verb place params) {name : Text} {v : Value}
    (hmem : (name, v) ∈ params) : Rows.field name request.data = v := by
  rw [Rows.field, h.data name v hmem]
  rfl

lemma isSuffixOf_path (base : Text) (call other : ServiceCall) :
    (path other).isSuffixOf (base ++ path call) = decide (other = call) := by
  rw [List.isSuffixOf, List.reverse_append]
  cases call <;> cases other <;> rfl

lemma call?_of_carries {call : ServiceCall} {params : Fields}
    (h : Carries account request (method call) (path call) params) :
    request.call? = some call := by
  simp only [Request.call?, h.method, h.url, isSuffixOf_path]
  cases call <;> rfl

lemma replied_acknowledge (r : Rows) : ∃ fields, Replied (.ok r.acknowledge) fields :=
  ⟨_, replied_field rfl (by decide : 0 < Json.maxDepth) <| settled_text <|
    surrogateFree_append (surrogateFree_ofString _)
      (surrogateFree_of_printable (printable_ofNat r.writes))⟩

def putRow (r : Rows) (key : Text) (row : Row) : Rows :=
  { r with rows := r.rows.insert (.text key) row, writes := r.writes + 1 }

lemma keeping_putRow (h : Keeping b r keys) (hkey : SurrogateFree key)
    (hdocument : SurrogateFree document) (isDeleted : Bool) (requests : List Request) :
    Keeping ⟨.rows (putRow r key ⟨.text document, isDeleted⟩), requests⟩
      (putRow r key ⟨.text document, isDeleted⟩) (enroll keys key) := by
  refine ⟨rfl, h.up, textKeyed_insert h.keyed _, ?_, ?_⟩
  · intro other hother
    obtain hmem | rfl := mem_or_eq_of_mem_enroll hother
    · exact h.key_surrogateFree other hmem
    · exact hkey
  · intro other row hrow
    simp only [putRow, Bindings.get?_insert_text] at hrow
    split at hrow
    · obtain rfl := Option.some.inj hrow
      exact ⟨document, rfl, hdocument⟩
    · exact h.value_surrogateFree other row hrow

lemma rowOf_putRow (h : Keeping b r keys) (row : Row) (requests : List Request) :
    rowOf ⟨.rows (putRow r key row), requests⟩ = Function.update (rowOf b) key (some row) := by
  funext other
  rw [Function.update_apply, rowOf_keeping h]
  simp only [rowOf, putRow, Bindings.get?_insert_text, eq_comm]

lemma keeping_rows (h : Keeping b r keys) (hrows : r'.rows = r.rows) (hup : r'.down = false)
    (requests : List Request) : Keeping ⟨.rows r', requests⟩ r' keys := by
  refine ⟨rfl, hup, hrows ▸ h.keyed, h.key_surrogateFree, ?_⟩
  rw [hrows]
  exact h.value_surrogateFree

lemma rowOf_rows (h : Keeping b r keys) (hrows : r'.rows = r.rows) (requests : List Request) :
    rowOf ⟨.rows r', requests⟩ = rowOf b := by
  funext key
  rw [rowOf_keeping h, ← hrows, rowOf]

/-! ### Requests -/

lemma serve_set (h : Keeping b r keys)
    (hcarries : Carries account request .post "/v1/kv/set"
      [("key", .text key), ("value", .text document)]) :
    r.serve request =
      .ok ((putRow r key ⟨.text document, false⟩).acknowledge,
        putRow r key ⟨.text document, false⟩) := by
  have hcall : request.call? = some .set := call?_of_carries hcarries
  have hkey : Rows.field "key" request.data = .text key := field_carries hcarries (by simp)
  have hvalue : Rows.field "value" request.data = .text document := field_carries hcarries (by simp)
  rw [Rows.serve, if_neg (by simp [h.up])]
  simp only [hcall, hkey, hvalue]
  rfl

lemma serve_delete (h : Keeping b r keys)
    (hcarries : Carries account request .post "/v1/kv/delete" [("key", .text key)]) :
    r.serve request =
      .ok (match r.rows.get? (.text key) with
        | some _ => ((putRow r key ⟨.text [], true⟩).acknowledge, putRow r key ⟨.text [], true⟩)
        | none => ({ r with writes := r.writes + 1 }.acknowledge,
          { r with writes := r.writes + 1 })) := by
  have hcall : request.call? = some .delete := call?_of_carries hcarries
  have hkey : Rows.field "key" request.data = .text key := field_carries hcarries (by simp)
  rw [Rows.serve, if_neg (by simp [h.up])]
  simp only [hcall, hkey, Bindings.lookup_text]
  cases r.rows.get? (.text key) <;> rfl

lemma serve_get (h : Keeping b r keys) {params : Fields}
    (hmem : (Text.ofString "key", Value.text key) ∈ params)
    (hcarries : Carries account request .get "/v1/kv/get" params) :
    r.serve request = .ok (Rows.answer (.object [("data",
      .ofOption ((r.rows.get? (.text key)).map Rows.Row.toValue))]), r) := by
  have hcall : request.call? = some .get := call?_of_carries hcarries
  have hkey : Rows.field "key" request.data = .text key := field_carries hcarries hmem
  rw [Rows.serve, if_neg (by simp [h.up])]
  simp only [hcall, hkey, Bindings.lookup_text]
  rfl

def liveFrom (r : Rows) (keys : List Text) (start : Text) : List Text :=
  (Text.sort (keys.filter (·.startsWith start))).filter fun key => r.isLive (.text key)

lemma isLive_iff (h : Keeping b r keys) : r.isLive (.text key) = true ↔ IsLive (rowOf b key) := by
  rw [rowOf_keeping h, Rows.isLive]
  cases r.rows.get? (.text key) with
  | none => simp [IsLive]
  | some row => simp [IsLive]

lemma mem_liveFrom (h : Keeping b r keys) {start : Text} :
    key ∈ liveFrom r keys start ↔ start <+: key ∧ IsLive (rowOf b key) := by
  rw [liveFrom, List.mem_filter, mem_sort_filter, isLive_iff h]
  constructor
  · rintro ⟨⟨-, hstarts⟩, hlive⟩
    exact ⟨hstarts, hlive⟩
  · rintro ⟨hstarts, hlive⟩
    have hkept : key ∈ keys := by
      obtain ⟨row, hrow, -⟩ := hlive
      rw [rowOf_keeping h] at hrow
      rw [← get?_isSome_iff h.keyed.keys, hrow]
      rfl
    exact ⟨⟨hkept, hstarts⟩, hlive⟩

lemma nodup_liveFrom (h : Keeping b r keys) (start : Text) : (liveFrom r keys start).Nodup := by
  have hsorted : (Text.sort (keys.filter (·.startsWith start))).Nodup :=
    (List.mergeSort_perm _ _).nodup_iff.mpr (h.keyed.nodup.filter _)
  exact hsorted.filter _

lemma surrogateFree_of_mem_liveFrom (h : Keeping b r keys) {start : Text}
    (hmem : key ∈ liveFrom r keys start) : SurrogateFree key :=
  h.key_surrogateFree key (mem_sort_filter.mp (List.mem_filter.mp hmem).1).1

def itemOf (key : Text) : Value := .object [("key", .text key)]

lemma serve_query (h : Keeping b r keys) {start : Text} {params : Fields}
    (hmem : (Text.ofString "key_prefix", Value.text start) ∈ params)
    (hcarries : Carries account request .get "/v1/kv/query" params) :
    r.serve request = .ok (Rows.answer (.object [("data",
        .list ((liveFrom r keys start).map itemOf))]), r) := by
  have hcall : request.call? = some .query := call?_of_carries hcarries
  have hstart : Rows.field "key_prefix" request.data = .text start := field_carries hcarries hmem
  have hlive : r.liveKeys (.text start) = .ok ((liveFrom r keys start).map .text) := by
    rw [Rows.liveKeys, h.keyed.keys, Listing.keysFrom_text, liveFrom, Except.map, List.filter_map]
    rfl
  rw [Rows.serve, if_neg (by simp [h.up])]
  simp only [hcall, hstart, hlive, bind, Except.bind, List.map_map]
  rfl

/-! ### Replies that show rows -/

lemma replied_row (row : Option Row)
    (h : ∀ r, row = some r → ∃ document, r.value = .text document ∧ SurrogateFree document) :
    Replied (.ok (Rows.answer (.object [("data", .ofOption (row.map Rows.Row.toValue))])))
      [("data", .ofOption (row.map Rows.Row.toValue))] := by
  cases row with
  | none => exact replied_field rfl (by decide : 0 < Json.maxDepth) trivial
  | some r =>
    obtain ⟨value, isDeleted⟩ := r
    obtain ⟨document, rfl, hdocument⟩ := h _ rfl
    refine replied_field rfl (by decide : 1 < Json.maxDepth) ?_
    have hnames : [Text.ofString "value", "isDeleted"].Nodup := by decide
    refine ⟨hnames, ?_⟩
    simp only [SettledFields, Settled, joinPairs_surrogateFree hdocument,
      joinPairs_surrogateFree (surrogateFree_ofString _), and_self]

lemma showsRow_toValue (row : Option Row) :
    ShowsRow row (.ofOption (row.map Rows.Row.toValue)) := by
  cases row with
  | none => rfl
  | some r => exact ⟨_, rfl, rfl, rfl⟩

lemma replied_items {live : List Text} (h : ∀ key ∈ live, SurrogateFree key) :
    Replied (.ok (Rows.answer (.object [("data", .list (live.map itemOf))])))
      [("data", .list (live.map itemOf))] := by
  have htold : areTold (live.map itemOf) = true := by
    induction live with
    | nil => rfl
    | cons key rest ih => exact ih fun other hother => h other (List.mem_cons_of_mem _ hother)
  have hheight : heightOfItems (live.map itemOf) ≤ 1 := by
    clear h htold
    induction live with
    | nil => exact Nat.zero_le _
    | cons key rest ih => exact Nat.max_le.mpr ⟨le_refl 1, ih⟩
  have hsettled : SettledItems (live.map itemOf) := by
    clear htold hheight
    induction live with
    | nil => trivial
    | cons key rest ih =>
      have hkey : Settled (itemOf key) := settled_field (settled_text (h key List.mem_cons_self))
      exact ⟨hkey, ih fun other hother => h other (List.mem_cons_of_mem _ hother)⟩
  have hdepth : 2 < Json.maxDepth := by decide
  refine replied_field htold ?_ hsettled
  rw [height]
  omega

lemma forall₂_showsKey_itemOf (live : List Text) :
    List.Forall₂ ShowsKey (live.map itemOf) live := by
  induction live with
  | nil => exact .nil
  | cons key rest ih => exact .cons ⟨_, rfl, rfl⟩ ih

lemma delete_keeping (h : Keeping b r keys) (hkey : SurrogateFree key)
    (hcarries : Carries account request .post "/v1/kv/delete" [("key", .text key)]) :
    (∃ r' keys', Keeping ((Backend.transport request).result b).2 r' keys') ∧
      (∃ fields, Replied ((Backend.transport request).result b).1 fields) ∧
      rowOf ((Backend.transport request).result b).2 =
        Function.update (rowOf b) key ((rowOf b key).map fun _ => ⟨.text [], true⟩) := by
  have hserve := serve_delete h hcarries
  rw [rowOf_keeping h]
  cases hrow : r.rows.get? (.text key) with
  | none =>
    have hunchanged : rowOf b = Function.update (rowOf b) key none := by
      rw [← hrow, ← rowOf_keeping h, Function.update_eq_self]
    have hrows : ({ r with writes := r.writes + 1 } : Rows).rows = r.rows := rfl
    rw [hrow] at hserve
    rw [transport_result h hserve]
    exact ⟨⟨_, _, keeping_rows h hrows h.up _⟩, replied_acknowledge _,
      (rowOf_rows h hrows _).trans hunchanged⟩
  | some row =>
    rw [hrow] at hserve
    rw [transport_result h hserve]
    exact ⟨⟨_, _, keeping_putRow h hkey (by decide) true _⟩, replied_acknowledge _,
      rowOf_putRow h _ _⟩

end

/-! ### The service -/

/-- A backend that keeps rows and is not out of order is the service that stores rely on. -/
def backendService (account : Account) : RowService Backend.transport account where
  ready b := ∃ r keys, Keeping b r keys
  row := rowOf
  sets := by
    rintro b request key document ⟨r, keys, h⟩ hkey hdocument hcarries
    rw [transport_result h (serve_set h hcarries)]
    exact ⟨⟨_, _, keeping_putRow h hkey hdocument false _⟩, replied_acknowledge _,
      rowOf_putRow h _ _⟩
  gets := by
    rintro b request key ⟨r, keys, h⟩ hkey hcarries
    rw [transport_result h (serve_get h List.mem_cons_self hcarries), rowOf_keeping h]
    exact ⟨⟨_, _, keeping_rows h rfl h.up _⟩, rowOf_rows h rfl _, _, _,
      replied_row _ fun row hrow => h.value_surrogateFree key row hrow, rfl, showsRow_toValue _⟩
  deletes := by
    rintro b request key ⟨r, keys, h⟩ hkey hcarries
    obtain ⟨hready, hreplied, hrow⟩ := delete_keeping h hkey hcarries
    refine ⟨hready, hreplied, _, ?_, hrow⟩
    intro left hleft
    obtain ⟨_, -, rfl⟩ := Option.map_eq_some_iff.mp hleft
    rfl
  queries := by
    rintro b request start ⟨r, keys, h⟩ hstart hcarries
    rw [transport_result h (serve_query h List.mem_cons_self hcarries)]
    exact ⟨⟨_, _, keeping_rows h rfl h.up _⟩, rowOf_rows h rfl _, _, _, liveFrom r keys start,
      replied_items fun _ => surrogateFree_of_mem_liveFrom h, rfl, forall₂_showsKey_itemOf _,
      nodup_liveFrom h start, fun _ => mem_liveFrom h⟩

lemma ready_start (account : Account) :
    (backendService account).ready (.start (.rows .empty)) :=
  ⟨.empty, [], rfl, rfl, ⟨rfl, .nil⟩, by simp, by simp [Rows.empty, Bindings.get?]⟩

lemma not_isLive_start (account : Account) (key : Text) :
    ¬IsLive ((backendService account).row (.start (.rows .empty)) key) := by
  rintro ⟨row, hrow, -⟩
  cases hrow

end EnvelopeStore.Proofs
