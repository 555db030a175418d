import EnvelopeStore.Proofs.Integrity
import EnvelopeStore.Proofs.KeyService
import EnvelopeStore.Proofs.WholeNumbers

/-!
# What is made of answers

Nothing is known of what a signer answers but that it is a value. Whatever it is, each operation of
the key manager ends in one of three ways, and which one is told by the fields that the answer
denotes: with what it was asked for, with a fault of the trust anchor, or with a refusal to the group.
-/

namespace EnvelopeStore.Proofs
open KeyManager

/-! ### What an answer denotes -/

/-- The document that an answer is, in text or in bytes. -/
def documentIn? : Value → Option (Except Json.Fault Value)
  | .text t => some (Json.read t)
  | .bytes b | .buffer b => some (Json.readBytes b)
  | _ => none

/-- An answer denotes the fields of an object: it is the object, or a document of it. -/
def Denotes (answer : Value) (fields : Fields) : Prop :=
  answer = .object fields ∨ documentIn? answer = some (.ok (.object fields))

def Shallow (answer : Value) : Prop :=
  ∀ container, documentIn? answer ≠ some (.error (.tooDeep container))

section

variable {answer : Value} {fields fields' : Fields}

def fieldsIn : Except Json.Fault Value → Except Failure Fields
  | .error (.tooDeep container) => .error (.document (.tooDeep container))
  | .error fault => .error (.trustAnchor (.invalidJson fault))
  | .ok (.object fields) => .ok fields
  | .ok v => .error (.trustAnchor (.unexpectedKind v.kind))

lemma fieldsOf_document {read : Except Json.Fault Value} (h : documentIn? answer = some read) :
    fieldsOf answer = fieldsIn read := by
  cases answer <;> simp only [documentIn?, Option.some.injEq, reduceCtorEq] at h <;> subst h <;> rfl

lemma fieldsOf_denotes (h : Denotes answer fields) : fieldsOf answer = .ok fields := by
  obtain rfl | h := h
  · rfl
  · rw [fieldsOf_document h, fieldsIn]

lemma denotes_unique (h : Denotes answer fields) (h' : Denotes answer fields') :
    fields = fields' :=
  Except.ok.inj ((fieldsOf_denotes h).symm.trans (fieldsOf_denotes h'))

lemma fieldsOf_of_not_denotes (hshallow : Shallow answer) (h : ∀ fields, ¬Denotes answer fields) :
    ∃ fault, fieldsOf answer = .error (.trustAnchor fault) := by
  cases hdocument : documentIn? answer with
  | none =>
    cases answer with
    | object fields => exact absurd (.inl rfl) (h fields)
    | text | bytes | buffer => simp [documentIn?] at hdocument
    | _ => exact ⟨_, rfl⟩
  | some read =>
    rw [fieldsOf_document hdocument]
    match read with
    | .error (.tooDeep container) => exact absurd hdocument (hshallow container)
    | .error (.malformed ..) | .error (.tooManyDigits _) | .error (.undecodable _) =>
      exact ⟨_, rfl⟩
    | .ok (.object fields) => exact absurd (.inr hdocument) (h fields)
    | .ok .null | .ok (.bool _) | .ok (.int _) | .ok (.float _) | .ok (.text _) | .ok (.bytes _)
    | .ok (.buffer _) | .ok (.list _) => exact ⟨_, rfl⟩

end

/-! ### Reported errors -/

def float403 : Binary64 := ⟨false, ⟨1031, by decide⟩, ⟨2586051348529152, by decide⟩⟩

/-- A code is the number 403, as an integer or in double precision. -/
def IsForbidden (code : Option Value) : Prop :=
  code = some (.int 403) ∨ code = some (.float float403)

lemma equalsInt_forbidden_iff {code : Option Value} :
    (Value.ofOption code).equalsInt forbidden = true ↔ IsForbidden code := by
  have hfloat : float403.equalsInt 403 = true := by decide +kernel
  rw [forbidden, equalsInt_iff (by decide) hfloat]
  cases code <;> simp [IsForbidden, Value.ofOption]

section

variable {fields : Fields} {action : Text} {group error : Value}

lemma checkError_forbidden (herror : fields.get? "error" = some error)
    (hcode : IsForbidden (fields.get? "code")) :
    checkError action group fields =
      .error (.groupAuthorization (.refused group error.display)) := by
  rw [checkError, herror]
  exact if_pos (equalsInt_forbidden_iff.mpr hcode)

lemma checkError_failed (herror : fields.get? "error" = some error)
    (hcode : ¬IsForbidden (fields.get? "code")) :
    checkError action group fields = .error (.trustAnchor (.actionFailed action error.display)) := by
  rw [checkError, herror]
  exact if_neg fun h => hcode (equalsInt_forbidden_iff.mp h)

lemma checkError_none (herror : fields.get? "error" = none) :
    checkError action group fields = .ok () := by
  rw [checkError, herror]

end

/-! ### What a call asks for -/

/-- What a call gives its caller. -/
inductive AnchorResult
  | wrapped (w : WrappedKey)
  | unwrapped (u : UnwrappedKey)
  | keyId (id : Text)

namespace AnchorCall

def action : AnchorCall → Text
  | .wrap _ _ => "wrap_key"
  | .unwrap _ _ => "unwrap_key"
  | .lookup _ => "get_group_key_id"

def group : AnchorCall → Text
  | .wrap group _ | .unwrap group _ | .lookup group => group

def params : AnchorCall → Fields
  | .wrap _ key => [("plaintext_key_b64", .text key)]
  | .unwrap _ wrapped => [("wrapped_key_b64", .text wrapped)]
  | .lookup _ => []

def transaction (config : Config) (c : AnchorCall) : Transaction :=
  ⟨config, Json.write
    (.object (("action", .text c.action) :: ("group_id", .text c.group) :: c.params))⟩

def needed : AnchorCall → List Text
  | .wrap _ _ => ["wrapped_key_b64", "key_id"]
  | .unwrap _ _ => ["plaintext_key_b64", "key_id"]
  | .lookup _ => ["key_id"]

/-- The key id with which a call can be answered without asking. -/
def known? {σ : Type} (st : State σ) : AnchorCall → Option Text
  | .lookup group => st.known.get? (.text group)
  | _ => none

def ask {σ : Type} (handle : Handle σ) : AnchorCall → Action (State σ) AnchorResult
  | .wrap group key => .wrapped <$> KeyManager.wrap handle (.text group) (.text key)
  | .unwrap group wrapped => .unwrapped <$> KeyManager.unwrap handle (.text group) (.text wrapped)
  | .lookup group => .keyId <$> KeyManager.lookup handle (.text group)

end AnchorCall

/-- Fields hold all that a call needs, and this is what it gives. -/
inductive Provides (fields : Fields) : AnchorCall → AnchorResult → Prop
  | wrapped {group key wrapped id : Text} (hwrapped : HasText fields "wrapped_key_b64" wrapped)
      (hid : HasText fields "key_id" id) :
      Provides fields (.wrap group key) (.wrapped ⟨wrapped, id⟩)
  | unwrapped {group wrapped key id : Text} (hkey : HasText fields "plaintext_key_b64" key)
      (hid : HasText fields "key_id" id) :
      Provides fields (.unwrap group wrapped) (.unwrapped ⟨.text key, id⟩)
  | keyId {group id : Text} (hid : HasText fields "key_id" id) :
      Provides fields (.lookup group) (.keyId id)

section

variable {σ : Type} {handle : Handle σ} {st st' : State σ} {c : AnchorCall} {fields : Fields}
  {answer : Value} {given given' : AnchorResult} {failure : Failure} {name t u : Text}

lemma hasText_unique (h : HasText fields name t) (h' : HasText fields name u) : t = u := by
  simpa using h.1.symm.trans h'.1

lemma provides_unique (h : Provides fields c given) (h' : Provides fields c given') :
    given = given' := by
  cases h with
  | wrapped hwrapped hid =>
    cases h' with
    | wrapped hwrapped' hid' =>
      rw [hasText_unique hwrapped hwrapped', hasText_unique hid hid']
  | unwrapped hkey hid =>
    cases h' with
    | unwrapped hkey' hid' => rw [hasText_unique hkey hkey', hasText_unique hid hid']
  | keyId hid =>
    cases h' with
    | keyId hid' => rw [hasText_unique hid hid']

lemma hasText_of_provides (h : Provides fields c given) :
    ∀ name ∈ c.needed, ∃ t, HasText fields name t := by
  cases h <;> simp only [AnchorCall.needed, List.forall_mem_cons, List.not_mem_nil, false_implies,
    implies_true, and_true]
  case wrapped hwrapped hid => exact ⟨⟨_, hwrapped⟩, _, hid⟩
  case unwrapped hkey hid => exact ⟨⟨_, hkey⟩, _, hid⟩
  case keyId hid => exact ⟨_, hid⟩

lemma required_cases (name : Text) (fields : Fields) :
    (∃ t, HasText fields name t ∧ required name fields = .ok t) ∨
      (∀ t, ¬HasText fields name t) ∧
        required name fields = .error (.trustAnchor (.missingField name)) := by
  by_cases h : ∃ t, HasText fields name t
  · obtain ⟨t, ht⟩ := h
    exact .inl ⟨t, ht, required_hasText ht⟩
  · refine .inr ⟨not_exists.mp h, ?_⟩
    unfold required
    split
    · next c t hfield => exact absurd ⟨c :: t, hfield, by simp⟩ h
    · rfl

/-! ### What a call ends with -/

/-- A call that takes these fields gives what they provide, or names a field that is not there. -/
def Settles (fields : Fields) (c : AnchorCall) (r : Except Failure AnchorResult) : Prop :=
  (∃ given, Provides fields c given ∧ r = .ok given) ∨
    ∃ name ∈ c.needed, (∀ t, ¬HasText fields name t) ∧
      r = .error (.trustAnchor (.missingField name))

lemma settles_ok_iff {r : Except Failure AnchorResult} (h : Settles fields c r) :
    r = .ok given ↔ Provides fields c given := by
  constructor
  · intro hr
    obtain ⟨given', hprovides, hr'⟩ | ⟨name, -, -, hr'⟩ := h
    · rwa [Except.ok.inj (hr.symm.trans hr')]
    · simp [hr] at hr'
  · intro hgiven
    obtain ⟨given', hprovides, hr⟩ | ⟨name, hname, hmissing, -⟩ := h
    · rw [hr, provides_unique hprovides hgiven]
    · obtain ⟨t, ht⟩ := hasText_of_provides hgiven name hname
      exact absurd ht (hmissing t)

/-- The fields of an answer that reports no error, which is all that the rest of a call sees. -/
def accepted (c : AnchorCall) (answer : Value) : Except Failure Fields := do
  let fields ← fieldsOf answer
  checkError c.action (.text c.group) fields
  return fields

lemma transaction_call (config : Config) (c : AnchorCall) :
    KeyManager.transaction config (.text c.action) (("group_id", .text c.group) :: c.params) =
      .ok (c.transaction config) := by
  have hparts : Form.transaction.partsOf (.object (("group_id", .text c.group) :: c.params)) =
      .ok (("group_id", .text c.group) :: c.params) := by
    cases c <;> rfl
  rw [KeyManager.transaction, hparts]
  cases c <;> rfl

/-- A call submits its transaction once, and ends with what is made of the reply to it. -/
lemma call_replied {reply : Except Failure Value} {signer : σ}
    (h : (handle.signer (c.transaction handle.config)).result st.signer = (reply, signer)) :
    (call handle c.action (.text c.group) c.params).result st =
      (reply >>= accepted c, { st with signer := signer }) := by
  have hsigned : ((handle.signer (c.transaction handle.config)).on signerPart).result st =
      (reply, { st with signer := signer }) := by
    have hpart : (handle.signer (c.transaction handle.config)).result (signerPart.get st) =
        (reply, signer) := h
    rw [result_on, hpart]
    rfl
  simp only [call, transaction_call, Action.ofExcept_ok]
  rw [result_bind_of_ok (result_pure _ _)]
  cases reply with
  | error failure => exact result_bind_of_error hsigned
  | ok answer =>
    have haccepted : (Except.ok answer >>= accepted c) = accepted c answer := rfl
    rw [result_bind_of_ok hsigned, haccepted, accepted]
    cases fieldsOf answer with
    | error failure => rfl
    | ok fields =>
      rw [Action.ofExcept_ok, result_bind_of_ok (result_pure _ _)]
      cases hcheck : checkError c.action (.text c.group) fields <;>
        simp only [bind, Except.bind, hcheck] <;> rfl

lemma call_answered
    (h : ((handle.signer (c.transaction handle.config)).result st.signer).1 = .ok answer) :
    ∃ signer, (call handle c.action (.text c.group) c.params).result st =
      (accepted c answer, { st with signer := signer }) :=
  ⟨_, call_replied (Prod.ext h rfl)⟩

/-- What a call does with the fields of its answer. -/
def AnchorCall.take (c : AnchorCall) (fields : Fields) : Action (State σ) AnchorResult :=
  match c with
  | .wrap group _ => do
    let wrapped ← Action.ofExcept (required "wrapped_key_b64" fields)
    let id ← Action.ofExcept (required "key_id" fields)
    learn (.text group) id
    return .wrapped ⟨wrapped, id⟩
  | .unwrap _ _ => do
    let key ← Action.ofExcept (required "plaintext_key_b64" fields)
    let id ← Action.ofExcept (required "key_id" fields)
    return .unwrapped ⟨.text key, id⟩
  | .lookup group => do
    let id ← Action.ofExcept (required "key_id" fields)
    learn (.text group) id
    return .keyId id

lemma ask_eq (hunknown : c.known? st = none) :
    (c.ask handle).result st =
      (call handle c.action (.text c.group) c.params >>= c.take).result st := by
  cases c with
  | wrap group key =>
    simp only [AnchorCall.ask, KeyManager.wrap, map_bind, map_pure]
    rfl
  | unwrap group wrapped =>
    simp only [AnchorCall.ask, KeyManager.unwrap, map_bind, map_pure]
    rfl
  | lookup group =>
    have hnone : st.known.get? (.text group) = none := hunknown
    simp only [AnchorCall.ask, KeyManager.lookup, map_bind]
    rw [result_bind_of_ok (result_get _), Bindings.lookup_text, hnone, Action.ofExcept_ok,
      result_bind_of_ok (result_pure _ _)]
    simp only [map_bind, map_pure]
    rfl

lemma settles_required (hname : name ∈ c.needed) {rest : Text → Action (State σ) AnchorResult}
    (hrest : ∀ t, HasText fields name t → Settles fields c ((rest t).result st).1) :
    Settles fields c ((Action.ofExcept (required name fields) >>= rest).result st).1 := by
  obtain ⟨t, ht, hrun⟩ | ⟨hmissing, hrun⟩ := required_cases name fields
  · rw [hrun, Action.ofExcept_ok, pure_bind]
    exact hrest t ht
  · rw [hrun, Action.ofExcept_error, result_bind_of_error (result_throw _ _)]
    exact .inr ⟨name, hname, hmissing, rfl⟩

lemma take_settles (c : AnchorCall) (fields : Fields) (st : State σ) :
    Settles fields c ((c.take fields).result st).1 := by
  cases c with
  | wrap group key =>
    refine settles_required (by simp [AnchorCall.needed]) fun wrapped hwrapped => ?_
    refine settles_required (by simp [AnchorCall.needed]) fun id hid => ?_
    obtain ⟨known, hlearn⟩ := learn_keeps_signer group id st
    rw [result_bind_of_ok hlearn]
    exact .inl ⟨_, .wrapped hwrapped hid, rfl⟩
  | unwrap group wrapped =>
    refine settles_required (by simp [AnchorCall.needed]) fun key hkey => ?_
    refine settles_required (by simp [AnchorCall.needed]) fun id hid => ?_
    exact .inl ⟨_, .unwrapped hkey hid, rfl⟩
  | lookup group =>
    refine settles_required (by simp [AnchorCall.needed]) fun id hid => ?_
    obtain ⟨known, hlearn⟩ := learn_keeps_signer group id st
    rw [result_bind_of_ok hlearn]
    exact .inl ⟨_, .keyId hid, rfl⟩

lemma ask_of_error (hunknown : c.known? st = none)
    (hanswer : ((handle.signer (c.transaction handle.config)).result st.signer).1 = .ok answer)
    (h : accepted c answer = .error failure) :
    ((c.ask handle).result st).1 = .error failure := by
  obtain ⟨signer, hcall⟩ := call_answered hanswer
  rw [h] at hcall
  rw [ask_eq hunknown, result_bind_of_error hcall]

lemma ask_of_fields (hunknown : c.known? st = none)
    (hanswer : ((handle.signer (c.transaction handle.config)).result st.signer).1 = .ok answer)
    (h : accepted c answer = .ok fields) :
    Settles fields c ((c.ask handle).result st).1 := by
  obtain ⟨signer, hcall⟩ := call_answered hanswer
  rw [h] at hcall
  rw [ask_eq hunknown, result_bind_of_ok hcall]
  exact take_settles c fields _

lemma accepted_of_denotes (h : Denotes answer fields) :
    accepted c answer = (checkError c.action (.text c.group) fields).map fun _ => fields := by
  rw [accepted, fieldsOf_denotes h]
  cases hcheck : checkError c.action (.text c.group) fields <;>
    simp only [bind, Except.bind, hcheck] <;> rfl

end

/-- How a call that is answered has to end. -/
structure Classified (c : AnchorCall) (answer : Value) (r : Except Failure AnchorResult) : Prop where
  family : ∀ failure, r = .error failure →
    failure.family? = some .trustAnchor ∨ failure.family? = some .groupAuthorization
  nothing : (∀ fields, ¬Denotes answer fields) → ∃ fault, r = .error (.trustAnchor fault)
  refused : ∀ fields error, Denotes answer fields → fields.get? "error" = some error →
    IsForbidden (fields.get? "code") →
    r = .error (.groupAuthorization (.refused (.text c.group) error.display))
  failed : ∀ fields error, Denotes answer fields → fields.get? "error" = some error →
    ¬IsForbidden (fields.get? "code") →
    r = .error (.trustAnchor (.actionFailed c.action error.display))
  given : ∀ fields, Denotes answer fields → fields.get? "error" = none →
    ∀ given, r = .ok given ↔ Provides fields c given
  missing : ∀ fields, Denotes answer fields → fields.get? "error" = none →
    (¬∃ given, Provides fields c given) →
    ∃ name ∈ c.needed, (∀ t, ¬HasText fields name t) ∧ r = .error (.trustAnchor (.missingField name))

section

variable {c : AnchorCall} {answer error : Value} {r : Except Failure AnchorResult} {fields : Fields}

lemma classified_of_not_denotes {fault : AnchorFault} (h : ∀ fields, ¬Denotes answer fields)
    (hr : r = .error (.trustAnchor fault)) : Classified c answer r where
  family failure hfailure := by
    rw [hr, Except.error.injEq] at hfailure
    exact .inl (hfailure ▸ rfl)
  nothing _ := ⟨fault, hr⟩
  refused fields _ hd := absurd hd (h fields)
  failed fields _ hd := absurd hd (h fields)
  given fields hd := absurd hd (h fields)
  missing fields hd := absurd hd (h fields)

lemma classified_of_error (hd : Denotes answer fields) (herror : fields.get? "error" = some error)
    (hrefused : IsForbidden (fields.get? "code") →
      r = .error (.groupAuthorization (.refused (.text c.group) error.display)))
    (hfailed : ¬IsForbidden (fields.get? "code") →
      r = .error (.trustAnchor (.actionFailed c.action error.display))) :
    Classified c answer r where
  family failure hfailure := by
    by_cases hcode : IsForbidden (fields.get? "code")
    · rw [hrefused hcode, Except.error.injEq] at hfailure
      exact .inr (hfailure ▸ rfl)
    · rw [hfailed hcode, Except.error.injEq] at hfailure
      exact .inl (hfailure ▸ rfl)
  nothing h := absurd hd (h fields)
  refused fields' error' hd' herror' hcode := by
    obtain rfl := denotes_unique hd hd'
    obtain rfl := Option.some.inj (herror.symm.trans herror')
    exact hrefused hcode
  failed fields' error' hd' herror' hcode := by
    obtain rfl := denotes_unique hd hd'
    obtain rfl := Option.some.inj (herror.symm.trans herror')
    exact hfailed hcode
  given fields' hd' hnone := by
    obtain rfl := denotes_unique hd hd'
    simp [herror] at hnone
  missing fields' hd' hnone := by
    obtain rfl := denotes_unique hd hd'
    simp [herror] at hnone

lemma classified_of_settles (hd : Denotes answer fields) (herror : fields.get? "error" = none)
    (h : Settles fields c r) : Classified c answer r where
  family failure hfailure := by
    obtain ⟨given, -, hr⟩ | ⟨name, -, -, hr⟩ := h
    · simp [hr] at hfailure
    · rw [hr, Except.error.injEq] at hfailure
      exact .inl (hfailure ▸ rfl)
  nothing h := absurd hd (h fields)
  refused fields' error' hd' herror' := by
    obtain rfl := denotes_unique hd hd'
    simp [herror] at herror'
  failed fields' error' hd' herror' := by
    obtain rfl := denotes_unique hd hd'
    simp [herror] at herror'
  given fields' hd' _ given := by
    obtain rfl := denotes_unique hd hd'
    exact settles_ok_iff h
  missing fields' hd' _ hnone := by
    obtain rfl := denotes_unique hd hd'
    obtain ⟨given, hgiven, -⟩ | hmissing := h
    · exact absurd ⟨given, hgiven⟩ hnone
    · exact hmissing

end

/-- Every answer of the signer is classified, and no answer is asked for where the key id is
known. -/
theorem answers_are_classified {σ : Type} (handle : Handle σ) (st : State σ) (c : AnchorCall)
    {answer : Value} (hshallow : Shallow answer)
    (hanswer : ((handle.signer (c.transaction handle.config)).result st.signer).1 = .ok answer) :
    (∀ id, c.known? st = some id → (c.ask handle).result st = (.ok (.keyId id), st)) ∧
      (c.known? st = none → Classified c answer ((c.ask handle).result st).1) := by
  constructor
  · intro id hknown
    cases c with
    | wrap | unwrap => simp [AnchorCall.known?] at hknown
    | lookup group =>
      have hsome : st.known.get? (.text group) = some id := hknown
      rw [AnchorCall.ask, result_map, KeyManager.lookup, result_bind_of_ok (result_get _),
        Bindings.lookup_text, hsome]
      rfl
  · intro hunknown
    by_cases hdenotes : ∃ fields, Denotes answer fields
    · obtain ⟨fields, hd⟩ := hdenotes
      have haccepted := accepted_of_denotes (c := c) hd
      cases herror : fields.get? "error" with
      | none =>
        rw [checkError_none herror] at haccepted
        exact classified_of_settles hd herror (ask_of_fields hunknown hanswer haccepted)
      | some error =>
        refine classified_of_error hd herror ?_ ?_
        · intro hcode
          rw [checkError_forbidden herror hcode] at haccepted
          exact ask_of_error hunknown hanswer haccepted
        · intro hcode
          rw [checkError_failed herror hcode] at haccepted
          exact ask_of_error hunknown hanswer haccepted
    · have hnone := not_exists.mp hdenotes
      obtain ⟨fault, hfault⟩ := fieldsOf_of_not_denotes hshallow hnone
      have haccepted : accepted c answer = .error (.trustAnchor fault) := by
        rw [accepted, hfault]
        rfl
      exact classified_of_not_denotes hnone (ask_of_error hunknown hanswer haccepted)

/-- A document that reports an error of no content with the code 403 is a refusal, even if it holds
all that was asked for. -/
theorem empty_error_is_refusal :
    let answer : Fields := [("error", .null), ("code", .int 403),
      ("wrapped_key_b64", .text "wrapped"), ("key_id", .text "id")]
    let handle : Handle Script := ⟨⟨.text "outlayer.near", .text "repository", .text "v0.3.0",
      .text "wasm32-wasip1", .null, .null, .null⟩, Script.sign⟩
    let st : State Script := ⟨Script.start [.value (.text (Json.write (.object answer)))], []⟩
    (((AnchorCall.wrap "team" "key").ask handle).result st).1 =
      .error (.groupAuthorization (.refused (.text "team") "None")) := by
  intro answer handle st
  have hsettled : Settled (.object answer) := by
    have hnames : (answer.map Prod.fst).Nodup := by decide
    refine ⟨hnames, ?_⟩
    simp only [answer, SettledFields, Settled, joinPairs_surrogateFree (surrogateFree_ofString _),
      and_self]
  have hread : Json.read (Json.write (.object answer)) = .ok (.object answer) :=
    read_write_settled rfl (by decide : 1 ≤ Json.maxDepth) hsettled
  have hdocument : documentIn? (.text (Json.write (.object answer))) = some (.ok (.object answer)) :=
    congrArg some hread
  have hshallow : Shallow (.text (Json.write (.object answer))) := by
    intro container h
    simp [hdocument] at h
  have hclassified := (answers_are_classified handle st (.wrap "team" "key") hshallow rfl).2 rfl
  exact hclassified.refused answer .null (.inr hdocument) rfl (.inl rfl)

end EnvelopeStore.Proofs
