import EnvelopeStore.Proofs.Actions
import EnvelopeStore.Proofs.Documents
import EnvelopeStore.TrustAnchor.KeyManager

/-!
# A key manager that keeps its word

What a key manager does is told by what its signer answers to transactions that ask for something.
Its state is its own business; all that is known of it is which wrapped keys stand for which keys,
and that this lasts. The trust anchor then wraps and unwraps without fail.
-/

namespace EnvelopeStore.Proofs
open KeyManager

/-! ### Questions and answers -/

/-- A transaction asks for an action, with these fields in the document of its input. -/
def Asks (t : Transaction) (action : Text) (params : Fields) : Prop :=
  ∃ request : Fields, Json.read t.input = .ok (.object request) ∧
    request.get? "action" = some (.text action) ∧
    ∀ name v, (name, v) ∈ params → request.get? name = some v

/-- A value says what the fields of an object say: it is the object, or its document in text or in
UTF-8. -/
inductive Says (fields : Fields) : Value → Prop
  | object : Says fields (.object fields)
  | text (t : Text) (h : Json.read t = .ok (.object fields)) : Says fields (.text t)
  | bytes (t : Text) (b : Bytes) (h : Json.read t = .ok (.object fields))
      (hb : Text.Utf8.encode t = .ok b) : Says fields (.bytes b)
  | buffer (t : Text) (b : Bytes) (h : Json.read t = .ok (.object fields))
      (hb : Text.Utf8.encode t = .ok b) : Says fields (.buffer b)

/-- A field holds a text with something in it. -/
def HasText (fields : Fields) (name t : Text) : Prop :=
  fields.get? name = some (.text t) ∧ t ≠ []

/-- A signer returns an answer that reports no error, and that says what the fields say. -/
def Answered (r : Except Failure Value) (fields : Fields) : Prop :=
  ∃ answer, r = .ok answer ∧ Says fields answer ∧ fields.get? "error" = none

/-- A signer in front of a key manager that keeps its word while it is `ready`: what a wrapped key holds
for a group lasts. -/
structure KeyService {σ : Type} (signer : Signer σ) where
  ready : σ → Prop
  holds : σ → (group wrapped key : Text) → Prop
  wraps : ∀ {s t group key}, ready s → SurrogateFree group → SurrogateFree key →
    Asks t "wrap_key" [("group_id", .text group), ("plaintext_key_b64", .text key)] →
    ready ((signer t).result s).2 ∧
    ∃ fields wrapped id, Answered ((signer t).result s).1 fields ∧
      HasText fields "wrapped_key_b64" wrapped ∧ SurrogateFree wrapped ∧
      HasText fields "key_id" id ∧ SurrogateFree id ∧
      holds ((signer t).result s).2 group wrapped key
  unwraps : ∀ {s t group wrapped key}, ready s → holds s group wrapped key →
    Asks t "unwrap_key" [("group_id", .text group), ("wrapped_key_b64", .text wrapped)] →
    ready ((signer t).result s).2 ∧
    ∃ fields id, Answered ((signer t).result s).1 fields ∧
      fields.get? "plaintext_key_b64" = some (.text key) ∧ HasText fields "key_id" id
  lasts : ∀ {s group wrapped key} t, ready s → holds s group wrapped key →
    holds ((signer t).result s).2 group wrapped key

/-! ### Reading answers -/

lemma fieldsOf_says {fields : Fields} {answer : Value} (h : Says fields answer) :
    fieldsOf answer = .ok fields := by
  cases h with
  | object => rfl
  | text t h => simp only [fieldsOf, h]
  | bytes t b h hb | buffer t b h hb => simp only [fieldsOf, readBytes_of_encode h hb]

lemma required_hasText {fields : Fields} {name t : Text} (h : HasText fields name t) :
    required name fields = .ok t := by
  obtain ⟨hfield, hne⟩ := h
  obtain ⟨c, u, rfl⟩ := List.exists_cons_of_ne_nil hne
  rw [required, hfield]

/-! ### Asking -/

def question (action group name v : Text) : Fields :=
  [("action", .text action), ("group_id", .text group), (name, .text v)]

def asking (config : Config) (action group name v : Text) : Transaction :=
  ⟨config, Json.write (.object (question action group name v))⟩

def answerTo {σ : Type} (handle : Handle σ) (action group name v : Text) (st : State σ) :
    Except Failure Value × σ :=
  (handle.signer (asking handle.config action group name v)).result st.signer

/-- The names under which a question may hold its key. -/
structure KeyField (name : Text) : Prop where
  takes : Form.transaction.takes name = true
  ne_action : name ≠ "action"
  ne_group : name ≠ "group_id"
  surrogateFree : SurrogateFree name

section

variable {σ : Type} {handle : Handle σ} {action group name v key wrapped : Text}

lemma transaction_eq (config : Config) (hname : KeyField name) :
    transaction config (.text action) [("group_id", .text group), (name, .text v)] =
      .ok (asking config action group name v) := by
  have hgroup : Form.transaction.takes "group_id" = true := by decide
  have hparts : Form.transaction.partsOf (.object [("group_id", .text group), (name, .text v)]) =
      .ok [("group_id", .text group), (name, .text v)] := by
    simp [Form.partsOf, Form.misfit?, hname.takes, hgroup]
  rw [transaction, hparts]
  rfl

lemma asks_asking (config : Config) (haction : SurrogateFree action) (hgroup : SurrogateFree group)
    (hname : KeyField name) (hv : SurrogateFree v) :
    Asks (asking config action group name v) action [("group_id", .text group), (name, .text v)] := by
  have hnames : ((question action group name v).map Prod.fst).Nodup := by
    have hne : Text.ofString "action" ≠ "group_id" := by decide
    simp [question, hne, hname.ne_action.symm, hname.ne_group.symm]
  have hsettled : Settled (.object (question action group name v)) := by
    refine ⟨hnames, ?_⟩
    simp only [question, SettledFields, Settled, joinPairs_surrogateFree haction,
      joinPairs_surrogateFree hgroup, joinPairs_surrogateFree hname.surrogateFree,
      joinPairs_surrogateFree hv, joinPairs_surrogateFree (surrogateFree_ofString _), and_self]
  have hdepth : 1 ≤ Json.maxDepth := by decide
  refine ⟨question action group name v, read_write_settled rfl hdepth hsettled, rfl, ?_⟩
  intro field value hmem
  obtain hfield | hfield : (field, value) = (("group_id" : Text), Value.text group) ∨
      (field, value) = (name, .text v) := by simpa using hmem
  · obtain ⟨rfl, rfl⟩ := Prod.mk.inj hfield
    rfl
  · obtain ⟨rfl, rfl⟩ := Prod.mk.inj hfield
    have haction : (field == Text.ofString "action") = false := beq_false_of_ne hname.ne_action
    have hgroup : (field == Text.ofString "group_id") = false := beq_false_of_ne hname.ne_group
    simp only [question, Fields.get?, List.lookup_cons, haction, hgroup, beq_self_eq_true]

lemma call_result {fields : Fields} {st : State σ} (hname : KeyField name)
    (h : Answered (answerTo handle action group name v st).1 fields) :
    (call handle action (.text group) [(name, .text v)]).result st =
      (.ok fields, { st with signer := (answerTo handle action group name v st).2 }) := by
  obtain ⟨answer, hanswer, hsays, herror⟩ := h
  have hcheck : checkError action (.text group) fields = .ok () := by
    rw [checkError, herror]
  have hsigned : ((handle.signer (asking handle.config action group name v)).on signerPart).result
      st = (.ok answer, { st with signer := (answerTo handle action group name v st).2 }) := by
    rw [result_on, ← hanswer]
    rfl
  simp only [call, transaction_eq handle.config hname, Action.ofExcept_ok]
  rw [result_bind_of_ok (result_pure _ _), result_bind_of_ok hsigned, fieldsOf_says hsays,
    Action.ofExcept_ok, result_bind_of_ok (result_pure _ _), hcheck, Action.ofExcept_ok,
    result_bind_of_ok (result_pure _ _), result_pure]

/-- The known key ids when one more is told: the first one of a group stays. -/
def remember (known : Bindings Text) (group id : Text) : Bindings Text :=
  if (known.get? (.text group)).isSome then known else known.insert (.text group) id

lemma learn_remembers (group id : Text) (st : State σ) :
    (KeyManager.learn (.text group) id).result st =
      (.ok ⟨⟩, { st with known := remember st.known group id }) := by
  simp only [KeyManager.learn]
  rw [result_bind_of_ok (result_get _)]
  simp only [Bindings.lookup_text, Action.ofExcept_ok]
  rw [result_bind_of_ok (result_pure _ _), remember]
  cases st.known.get? (.text group) <;> rfl

lemma learn_keeps_signer (group id : Text) (st : State σ) :
    ∃ known, (KeyManager.learn (.text group) id).result st = (.ok ⟨⟩, { st with known := known }) :=
  ⟨_, learn_remembers group id st⟩

lemma plaintextField : KeyField "plaintext_key_b64" :=
  ⟨by decide, by decide, by decide, by decide⟩

lemma wrappedField : KeyField "wrapped_key_b64" := ⟨by decide, by decide, by decide, by decide⟩

/-! ### Wrapping and unwrapping -/

theorem wrap_result (service : KeyService handle.signer) {st : State σ}
    (hready : service.ready st.signer) (hgroup : SurrogateFree group) (hkey : SurrogateFree key) :
    ∃ wrapped id st', (wrap handle (.text group) (.text key)).result st = (.ok ⟨wrapped, id⟩, st') ∧
      SurrogateFree wrapped ∧ SurrogateFree id ∧ service.ready st'.signer ∧
      service.holds st'.signer group wrapped key ∧
      ∀ g w k, service.holds st.signer g w k → service.holds st'.signer g w k := by
  have hasks := asks_asking handle.config (surrogateFree_ofString "wrap_key") hgroup plaintextField
    hkey
  obtain ⟨hready', fields, wrapped, id, hanswer, hwrapped, hwrappedFree, hid, hidFree, hholds⟩ :=
    service.wraps hready hgroup hkey hasks
  let signer := (answerTo handle "wrap_key" group "plaintext_key_b64" key st).2
  obtain ⟨known, hlearn⟩ := learn_keeps_signer group id { st with signer := signer }
  have hrun : (wrap handle (.text group) (.text key)).result st =
      (.ok ⟨wrapped, id⟩, ⟨signer, known⟩) := by
    rw [wrap, result_bind_of_ok (call_result plaintextField hanswer), required_hasText hwrapped,
      required_hasText hid, Action.ofExcept_ok, result_bind_of_ok (result_pure _ _),
      Action.ofExcept_ok, result_bind_of_ok (result_pure _ _), result_bind_of_ok hlearn,
      result_pure]
  exact ⟨wrapped, id, _, hrun, hwrappedFree, hidFree, hready', hholds,
    fun _ _ _ h => service.lasts _ hready h⟩

theorem unwrap_result (service : KeyService handle.signer) {st : State σ}
    (hready : service.ready st.signer) (hgroup : SurrogateFree group)
    (hwrapped : SurrogateFree wrapped) (hholds : service.holds st.signer group wrapped key)
    (hne : key ≠ []) :
    ∃ id st', (unwrap handle (.text group) (.text wrapped)).result st =
        (.ok ⟨.text key, id⟩, st') ∧ service.ready st'.signer ∧
      ∀ g w k, service.holds st.signer g w k → service.holds st'.signer g w k := by
  have hasks := asks_asking handle.config (surrogateFree_ofString "unwrap_key") hgroup wrappedField
    hwrapped
  obtain ⟨hready', fields, id, hanswer, hkey, hid⟩ := service.unwraps hready hholds hasks
  have hrun : (unwrap handle (.text group) (.text wrapped)).result st = (.ok ⟨.text key, id⟩,
      { st with signer := (answerTo handle "unwrap_key" group "wrapped_key_b64" wrapped st).2 }) := by
    rw [unwrap, result_bind_of_ok (call_result wrappedField hanswer),
      required_hasText ⟨hkey, hne⟩, required_hasText hid, Action.ofExcept_ok,
      result_bind_of_ok (result_pure _ _), Action.ofExcept_ok, result_bind_of_ok (result_pure _ _),
      result_pure]
  exact ⟨id, _, hrun, hready', fun _ _ _ h => service.lasts _ hready h⟩

end

/-! ### A key manager that does -/

def textIn (fields : Fields) (name : Text) : Text :=
  ((fields.get? name).bind Value.text?).getD []

def mark : Text := "wrapped:"

/-- A key manager that wraps a key by marking it. It answers with an object when it wraps, and with
a document when it unwraps. -/
def markedAnswer (request : Fields) : Value :=
  if textIn request "action" = "wrap_key" then
    .object [("wrapped_key_b64", .text (mark ++ textIn request "plaintext_key_b64")),
      ("key_id", .text "group-key")]
  else
    .text (Json.write (.object [
      ("plaintext_key_b64", .text ((textIn request "wrapped_key_b64").drop mark.length)),
      ("key_id", .text "group-key")]))

def markedSigner : Signer Unit := fun t =>
  match Json.read t.input with
  | .ok (.object request) => return markedAnswer request
  | _ => return .null

lemma markedSigner_of_asks {t : Transaction} {action : Text} {params : Fields}
    (h : Asks t action params) :
    ∃ request : Fields, ((markedSigner t).result ()).1 = .ok (markedAnswer request) ∧
      textIn request "action" = action ∧
      ∀ name v, (name, .text v) ∈ params → textIn request name = v := by
  obtain ⟨request, hread, haction, hparams⟩ := h
  refine ⟨request, ?_, ?_, ?_⟩
  · rw [markedSigner, hread, result_pure]
  · rw [textIn, haction]
    rfl
  · intro name v hmem
    rw [textIn, hparams name _ hmem]
    rfl

def markedService : KeyService markedSigner where
  ready _ := True
  holds _ _ wrapped key := wrapped = mark ++ key ∧ SurrogateFree key
  wraps := by
    intro s t group key _ _ hkey hasks
    obtain ⟨request, hanswer, haction, hparams⟩ := markedSigner_of_asks hasks
    rw [markedAnswer, if_pos haction, hparams "plaintext_key_b64" key (by simp)] at hanswer
    exact ⟨trivial, _, mark ++ key, "group-key", ⟨_, hanswer, .object, rfl⟩,
      ⟨rfl, by simp [mark, Text.ofString]⟩, surrogateFree_append (by decide) hkey,
      ⟨rfl, by decide⟩, by decide, rfl, hkey⟩
  unwraps := by
    rintro s t group wrapped key _ ⟨rfl, hkey⟩ hasks
    obtain ⟨request, hanswer, haction, hparams⟩ := markedSigner_of_asks hasks
    rw [markedAnswer, if_neg (by rw [haction]; decide),
      hparams "wrapped_key_b64" (mark ++ key) (by simp), List.drop_left] at hanswer
    have hsettled : Settled (.object [("plaintext_key_b64", .text key),
        ("key_id", .text "group-key")]) := by
      have hnames : [Text.ofString "plaintext_key_b64", "key_id"].Nodup := by decide
      refine ⟨hnames, ?_⟩
      simp only [SettledFields, Settled, joinPairs_surrogateFree hkey,
        joinPairs_surrogateFree (surrogateFree_ofString _), and_self]
    have hdepth : 1 ≤ Json.maxDepth := by decide
    exact ⟨trivial, _, "group-key",
      ⟨_, hanswer, .text _ (read_write_settled rfl hdepth hsettled), rfl⟩, rfl, rfl, by decide⟩
  lasts _ _ h := h

end EnvelopeStore.Proofs
