import EnvelopeStore.Proofs.Answers
import EnvelopeStore.Proofs.Records

/-!
# What is exchanged with a key manager

The signer is watched: each transaction is noted down with the reply to it. A call whose key id is
known exchanges nothing; any other one hands over its transaction, once, and what it ends with is
made of the reply alone. What the caller named is in the input of the transaction, in the caller's
words, and nowhere else.
-/

namespace EnvelopeStore.Proofs
open KeyManager

/-! ### What a call makes of its reply -/

namespace AnchorCall

def given (c : AnchorCall) (fields : Fields) : Except Failure AnchorResult :=
  match c with
  | .wrap _ _ => do
    let wrapped ← required "wrapped_key_b64" fields
    let id ← required "key_id" fields
    return .wrapped ⟨wrapped, id⟩
  | .unwrap _ _ => do
    let key ← required "plaintext_key_b64" fields
    let id ← required "key_id" fields
    return .unwrapped ⟨.text key, id⟩
  | .lookup _ => do
    let id ← required "key_id" fields
    return .keyId id

/-- What a call ends with when this is the reply to its transaction. -/
def outcome (c : AnchorCall) (reply : Except Failure Value) : Except Failure AnchorResult :=
  reply >>= accepted c >>= c.given

end AnchorCall

/-- The key id that a result tells for later use. Unwrapping tells none. -/
def AnchorResult.taught? : AnchorResult → Option Text
  | .wrapped w => some w.keyId
  | .keyId id => some id
  | .unwrapped _ => none

def knownAfter (known : Bindings Text) (group : Text) (outcome : Except Failure AnchorResult) :
    Bindings Text :=
  match outcome.toOption.bind AnchorResult.taught? with
  | some id => remember known group id
  | none => known

section

variable {σ : Type} {handle : Handle σ} {st : State σ} {c : AnchorCall}
  {reply : Except Failure Value} {signer : σ} {id : Text}

lemma take_result (c : AnchorCall) (fields : Fields) (st : State σ) :
    (c.take fields).result st =
      (c.given fields, { st with known := knownAfter st.known c.group (c.given fields) }) := by
  cases c with
  | wrap group key =>
    unfold AnchorCall.take AnchorCall.given
    cases required "wrapped_key_b64" fields with
    | error failure => rfl
    | ok wrapped =>
      cases required "key_id" fields with
      | error failure => rfl
      | ok id =>
        simp only [Action.ofExcept_ok, pure_bind]
        rw [result_bind_of_ok (learn_remembers group id st)]
        rfl
  | unwrap group wrapped =>
    unfold AnchorCall.take AnchorCall.given
    cases required "plaintext_key_b64" fields with
    | error failure => rfl
    | ok key => cases required "key_id" fields <;> rfl
  | lookup group =>
    unfold AnchorCall.take AnchorCall.given
    cases required "key_id" fields with
    | error failure => rfl
    | ok id =>
      simp only [Action.ofExcept_ok, pure_bind]
      rw [result_bind_of_ok (learn_remembers group id st)]
      rfl

lemma given_eq_ok_iff {fields : Fields} {given : AnchorResult} :
    c.given fields = .ok given ↔ Provides fields c given := by
  have hsettles := take_settles c fields (⟨(), []⟩ : State Unit)
  rw [take_result] at hsettles
  exact settles_ok_iff hsettles

lemma fieldsOf_eq_ok_iff {answer : Value} {fields : Fields} :
    fieldsOf answer = .ok fields ↔ Denotes answer fields := by
  refine ⟨fun h => ?_, fieldsOf_denotes⟩
  cases hdocument : documentIn? answer with
  | none =>
    cases answer with
    | object => exact .inl (congrArg Value.object (Except.ok.inj h))
    | text | bytes | buffer => simp [documentIn?] at hdocument
    | _ => cases h
  | some read =>
    rw [fieldsOf_document hdocument] at h
    unfold fieldsIn at h
    split at h
    · cases h
    · cases h
    · exact .inr (Except.ok.inj h ▸ hdocument)
    · cases h

lemma checkError_eq_ok_iff {action : Text} {group : Value} {fields : Fields} {u : Unit} :
    checkError action group fields = .ok u ↔ fields.get? "error" = none := by
  unfold checkError
  split
  · next h => exact iff_of_true rfl h
  · next error h =>
    refine iff_of_false ?_ (by simp [h])
    dsimp only
    split <;> exact nofun

/-- What is accepted of an answer is what it denotes, unless that reports an error. -/
lemma accepted_eq_ok_iff {answer : Value} {fields : Fields} :
    accepted c answer = .ok fields ↔ Denotes answer fields ∧ fields.get? "error" = none := by
  rw [accepted, bind_eq_ok_iff]
  simp only [bind_eq_ok_iff, fieldsOf_eq_ok_iff, checkError_eq_ok_iff, pure, Except.pure,
    Except.ok.injEq]
  constructor
  · rintro ⟨fields', hdenotes, -, hnone, rfl⟩
    exact ⟨hdenotes, hnone⟩
  · rintro ⟨hdenotes, hnone⟩
    exact ⟨fields, hdenotes, ⟨⟩, hnone, rfl⟩

/-- A reply gives a result: it is an answer, reports no error and has all that the call needs. -/
def Gives (reply : Except Failure Value) (c : AnchorCall) (given : AnchorResult) : Prop :=
  ∃ answer fields, reply = .ok answer ∧ Denotes answer fields ∧ fields.get? "error" = none ∧
    Provides fields c given

lemma outcome_eq_ok_iff {given : AnchorResult} :
    c.outcome reply = .ok given ↔ Gives reply c given := by
  rw [AnchorCall.outcome, bind_eq_ok_iff]
  simp only [bind_eq_ok_iff, accepted_eq_ok_iff, given_eq_ok_iff]
  constructor
  · rintro ⟨fields, ⟨answer, hreply, hdenotes, hnone⟩, hprovides⟩
    exact ⟨answer, fields, hreply, hdenotes, hnone, hprovides⟩
  · rintro ⟨answer, fields, hreply, hdenotes, hnone, hprovides⟩
    exact ⟨fields, ⟨answer, hreply, hdenotes, hnone⟩, hprovides⟩

/-- A call that has to ask ends with what is made of the reply, and remembers what that tells. -/
lemma ask_replied (hunknown : c.known? st = none)
    (h : (handle.signer (c.transaction handle.config)).result st.signer = (reply, signer)) :
    (c.ask handle).result st =
      (c.outcome reply, ⟨signer, knownAfter st.known c.group (c.outcome reply)⟩) := by
  have hcall := call_replied h
  rw [ask_eq hunknown, AnchorCall.outcome]
  cases haccepted : reply >>= accepted c with
  | error failure =>
    rw [haccepted] at hcall
    exact result_bind_of_error hcall
  | ok fields =>
    rw [haccepted] at hcall
    rw [result_bind_of_ok hcall, take_result]
    rfl

lemma known?_eq_some_iff : c.known? st = some id ↔
    ∃ group, c = .lookup group ∧ st.known.get? (.text group) = some id := by
  cases c <;> simp [AnchorCall.known?]

lemma ask_known (hknown : c.known? st = some id) :
    (c.ask handle).result st = (.ok (.keyId id), st) := by
  obtain ⟨group, rfl, hsome⟩ := known?_eq_some_iff.mp hknown
  rw [AnchorCall.ask, result_map, KeyManager.lookup, result_bind_of_ok (result_get _),
    Bindings.lookup_text, hsome]
  rfl

end

/-! ### A signer that is watched -/

structure Exchange where
  sent : Transaction
  reply : Except Failure Value

structure Logged (σ : Type) where
  signer : σ
  exchanges : List Exchange

/-- A signer that notes down what it is handed and what it replies. -/
def logged {σ : Type} (signer : Signer σ) : Signer (Logged σ) := fun t s =>
  match signer t s.signer with
  | .ok answer s' => .ok answer ⟨s', s.exchanges ++ [⟨t, .ok answer⟩]⟩
  | .error failure s' => .error failure ⟨s', s.exchanges ++ [⟨t, .error failure⟩]⟩

/-- All that can be seen of a call. -/
structure Episode where
  call : AnchorCall
  exchanges : List Exchange
  outcome : Except Failure AnchorResult

section

variable {σ : Type}

/-- Makes a call while the signer is watched. -/
def AnchorCall.make (handle : Handle σ) (st : State σ) (c : AnchorCall) : Episode × State σ :=
  let (outcome, st') := (c.ask ⟨handle.config, logged handle.signer⟩).result
    ⟨⟨st.signer, []⟩, st.known⟩
  (⟨c, st'.signer.exchanges, outcome⟩, ⟨st'.signer.signer, st'.known⟩)

def episodes (handle : Handle σ) (st : State σ) : List AnchorCall → List Episode
  | [] => []
  | c :: rest => (c.make handle st).1 :: episodes handle (c.make handle st).2 rest

def stateAfter (handle : Handle σ) (st : State σ) : List AnchorCall → State σ
  | [] => st
  | c :: rest => stateAfter handle (c.make handle st).2 rest

variable {handle : Handle σ} {st : State σ} {c : AnchorCall} {reply : Except Failure Value}
  {signer : σ} {id : Text}

lemma logged_result {s : Logged σ} {t : Transaction}
    (h : (handle.signer t).result s.signer = (reply, signer)) :
    (logged handle.signer t).result s = (reply, ⟨signer, s.exchanges ++ [⟨t, reply⟩]⟩) := by
  unfold Action.result logged at *
  cases hrun : handle.signer t s.signer with
  | ok answer s' | error failure s' =>
    simp only [hrun, Prod.mk.injEq] at h
    obtain ⟨rfl, rfl⟩ := h
    rfl

lemma known?_logged (c : AnchorCall) (st : State σ) :
    c.known? (⟨⟨st.signer, []⟩, st.known⟩ : State (Logged σ)) = c.known? st := by
  cases c <;> rfl

lemma make_known (hknown : c.known? st = some id) :
    c.make handle st = (⟨c, [], .ok (.keyId id)⟩, st) := by
  have hrun : (c.ask ⟨handle.config, logged handle.signer⟩).result ⟨⟨st.signer, []⟩, st.known⟩ =
      (.ok (.keyId id), ⟨⟨st.signer, []⟩, st.known⟩) :=
    ask_known ((known?_logged c st).trans hknown)
  rw [AnchorCall.make, hrun]

lemma make_replied (hunknown : c.known? st = none)
    (h : (handle.signer (c.transaction handle.config)).result st.signer = (reply, signer)) :
    c.make handle st = (⟨c, [⟨c.transaction handle.config, reply⟩], c.outcome reply⟩,
      ⟨signer, knownAfter st.known c.group (c.outcome reply)⟩) := by
  have hlogged : (logged handle.signer (c.transaction handle.config)).result ⟨st.signer, []⟩ =
      (reply, ⟨signer, [⟨c.transaction handle.config, reply⟩]⟩) := logged_result h
  have hrun : (c.ask ⟨handle.config, logged handle.signer⟩).result ⟨⟨st.signer, []⟩, st.known⟩ = _ :=
    ask_replied ((known?_logged c st).trans hunknown) hlogged
  rw [AnchorCall.make, hrun]

theorem make_eq (handle : Handle σ) (st : State σ) (c : AnchorCall) :
    ((c.make handle st).1.outcome, (c.make handle st).2) = (c.ask handle).result st := by
  cases hknown : c.known? st with
  | some id => rw [make_known hknown, ask_known hknown]
  | none => rw [make_replied hknown rfl, ask_replied hknown rfl]

end

/-! ### The input of a transaction -/

namespace AnchorCall

def request (c : AnchorCall) : Fields :=
  ("action", .text c.action) :: ("group_id", .text c.group) :: c.params

def texts : AnchorCall → List Text
  | .wrap group key => [group, key]
  | .unwrap group wrapped => [group, wrapped]
  | .lookup group => [group]

end AnchorCall

/-- The input in the object that stands for a transaction. -/
def inputIn (transaction : Value) : Option Text :=
  (transaction.fields.get? "args").bind fun args =>
    (args.fields.get? "input_data").bind Value.text?

def withoutInput (transaction : Value) : Value :=
  .object (transaction.fields.map fun (name, part) =>
    if name = "args" then (name, .object (part.fields.filter fun field => field.1 ≠ "input_data"))
    else (name, part))

section

variable {c c' : AnchorCall}

lemma inputIn_toValue (t : Transaction) : inputIn t.toValue = some t.input := rfl

/-- A transaction is made of the configuration and the input; no other part of it is the call's. -/
lemma withoutInput_toValue (config : Config) (input input' : Text) :
    withoutInput (Transaction.toValue ⟨config, input⟩) =
      withoutInput (Transaction.toValue ⟨config, input'⟩) := by
  unfold withoutInput Transaction.toValue
  cases config.gas <;> rfl

lemma nodup_request (c : AnchorCall) : (c.request.map Prod.fst).Nodup := by
  cases c with
  | wrap => exact (by decide : [Text.ofString "action", "group_id", "plaintext_key_b64"].Nodup)
  | unwrap => exact (by decide : [Text.ofString "action", "group_id", "wrapped_key_b64"].Nodup)
  | lookup => exact (by decide : [Text.ofString "action", "group_id"].Nodup)

lemma settled_request (hpairs : ∀ t ∈ c.texts, ¬HasPair t) : Settled (.object c.request) := by
  have hown : ∀ name : String, Text.joinPairs (Text.ofString name) = Text.ofString name :=
    fun name => joinPairs_surrogateFree (surrogateFree_ofString name)
  have hnamed : ∀ t ∈ c.texts, Text.joinPairs t = t :=
    fun t ht => joinPairs_eq_self_iff.mpr (hpairs t ht)
  refine ⟨nodup_request c, ?_⟩
  cases c with
  | wrap group key | unwrap group key =>
    have hgroup : Text.joinPairs group = group := hnamed group (by simp [AnchorCall.texts])
    have hkey : Text.joinPairs key = key := hnamed key (by simp [AnchorCall.texts])
    simp only [AnchorCall.request, AnchorCall.action, AnchorCall.group, AnchorCall.params,
      SettledFields, Settled, hown, hgroup, hkey, and_self]
  | lookup group =>
    have hgroup : Text.joinPairs group = group := hnamed group (by simp [AnchorCall.texts])
    simp only [AnchorCall.request, AnchorCall.action, AnchorCall.group, AnchorCall.params,
      SettledFields, Settled, hown, hgroup, and_self]

lemma read_input (config : Config) (hpairs : ∀ t ∈ c.texts, ¬HasPair t) :
    Json.read (c.transaction config).input = .ok (.object c.request) := by
  have htold : isTold (.object c.request) = true := by cases c <;> rfl
  have hdepth : 1 ≤ Json.maxDepth := by decide
  have hheight : height (.object c.request) = 1 := by cases c <;> rfl
  exact read_write_settled htold (hheight ▸ hdepth) (settled_request hpairs)

lemma request_injective (h : c.request = c'.request) : c = c' := by
  have haction : c.action = c'.action := by
    simpa [AnchorCall.request] using congrArg List.head? h
  have hgroup : c.group = c'.group := by
    simpa [AnchorCall.request] using congrArg (fun fields => fields.tail.head?) h
  have hparams : c.params = c'.params := congrArg (List.drop 2) h
  have hwrap_unwrap : Text.ofString "wrap_key" ≠ "unwrap_key" := by decide
  have hwrap_lookup : Text.ofString "wrap_key" ≠ "get_group_key_id" := by decide
  have hunwrap_lookup : Text.ofString "unwrap_key" ≠ "get_group_key_id" := by decide
  cases c with
  | wrap group key =>
    cases c' with
    | wrap group' key' => simp_all [AnchorCall.group, AnchorCall.params]
    | unwrap => exact absurd haction hwrap_unwrap
    | lookup => exact absurd haction hwrap_lookup
  | unwrap group wrapped =>
    cases c' with
    | wrap => exact absurd haction.symm hwrap_unwrap
    | unwrap group' wrapped' => simp_all [AnchorCall.group, AnchorCall.params]
    | lookup => exact absurd haction hunwrap_lookup
  | lookup group =>
    cases c' with
    | wrap => exact absurd haction.symm hwrap_lookup
    | unwrap => exact absurd haction.symm hunwrap_lookup
    | lookup group' => simp_all [AnchorCall.group]

/-- A call that has to ask hands over one transaction. Its input is read as just what the call is
about, so no two calls have one input; all else in it is the same for every call, in whatever state
and about whatever group and key. -/
theorem requests_are_faithful_and_confined {σ : Type} (handle : Handle σ) (st : State σ)
    (c : AnchorCall) (hunknown : c.known? st = none) (hpairs : ∀ t ∈ c.texts, ¬HasPair t) :
    ∃ exchange input, (c.make handle st).1.exchanges = [exchange] ∧
      inputIn exchange.sent.toValue = some input ∧
      Json.read input = .ok (.object c.request) ∧
      ∀ c' st', ∀ other ∈ (c'.make handle st').1.exchanges,
        withoutInput other.sent.toValue = withoutInput exchange.sent.toValue ∧
        ((∀ t ∈ c'.texts, ¬HasPair t) → inputIn other.sent.toValue = some input → c' = c) := by
  have hread := read_input handle.config hpairs
  obtain ⟨reply, signer, hsigned⟩ : ∃ reply signer,
      (handle.signer (c.transaction handle.config)).result st.signer = (reply, signer) :=
    ⟨_, _, rfl⟩
  refine ⟨⟨c.transaction handle.config, reply⟩, (c.transaction handle.config).input, ?_,
    inputIn_toValue _, hread, ?_⟩
  · rw [make_replied hunknown hsigned]
  intro c' st' other hother
  cases hknown : c'.known? st' with
  | some id =>
    rw [make_known hknown] at hother
    exact absurd hother List.not_mem_nil
  | none =>
    rw [make_replied hknown rfl] at hother
    obtain rfl := List.mem_singleton.mp hother
    refine ⟨withoutInput_toValue handle.config _ _, ?_⟩
    intro hpairs' hinput
    have hsame : (c'.transaction handle.config).input = (c.transaction handle.config).input :=
      Option.some.inj hinput
    have hread' := read_input handle.config hpairs'
    rw [hsame, hread] at hread'
    exact request_injective (Value.object.inj (Except.ok.inj hread')).symm

/-- A group whose name looks like the end of a text and another action, with a character of two
units and a lone surrogate in it, is told as it is. -/
theorem quotes_do_not_leave_their_text :
    let group : Text := Text.ofString "\",\n\"action\":\"unwrap_key\\" ++
      [CodePoint.ofNat 0x1F600, CodePoint.ofNat 0xD800]
    let handle : Handle Script := ⟨⟨.text "outlayer.near", .text "repository", .text "v0.3.0",
      .text "wasm32-wasip1", .null, .null, .null⟩, Script.sign⟩
    let st : State Script := ⟨Script.start [], []⟩
    let inputs := fun c : AnchorCall =>
      (c.make handle st).1.exchanges.map fun exchange => inputIn exchange.sent.toValue
    ∃ input, inputs (.wrap group "key") = [some input] ∧
      Json.read input = .ok (.object [("action", .text "wrap_key"), ("group_id", .text group),
        ("plaintext_key_b64", .text "key")]) ∧
      inputs (.unwrap group "key") ≠ [some input] := by
  intro group handle st inputs
  have hpairs : ∀ t ∈ [group, Text.ofString "key"], ¬HasPair t := by
    intro t ht
    apply joinPairs_eq_self_iff.mp
    obtain rfl | rfl : t = group ∨ t = "key" := by simpa using ht
    · decide +kernel
    · decide +kernel
  obtain ⟨exchange, input, hexchanges, hinput, hread, hothers⟩ :=
    requests_are_faithful_and_confined handle st (.wrap group "key") rfl hpairs
  refine ⟨input, ?_, hread, ?_⟩
  · simp only [inputs, hexchanges, List.map_cons, List.map_nil, hinput]
  · intro hsame
    have hmem : some input ∈ inputs (.unwrap group "key") := by
      rw [hsame]
      exact List.mem_singleton.mpr rfl
    obtain ⟨other, hother, hinput'⟩ := List.mem_map.mp hmem
    exact nomatch (hothers _ st other hother).2 hpairs hinput'

end

end EnvelopeStore.Proofs
