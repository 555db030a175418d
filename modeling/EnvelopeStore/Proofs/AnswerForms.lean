import EnvelopeStore.Proofs.Exchanges

/-!
# The forms of an answer

An object can be answered as it is, or as its document in text, in bytes or in a buffer. The object
skips the reader of documents altogether; still no call, and no history of calls, can tell in which
form its answers came.
-/

namespace EnvelopeStore.Proofs
open KeyManager

/-- The forms in which an object is answered. -/
inductive AnswerForm
  | object
  | text
  | bytes
  | buffer

/-- The answer that an object is in a form; bytes are those of UTF-8. -/
def AnswerForm.answer (form : AnswerForm) (fields : Fields) : Except Failure Value :=
  let document := Json.write (.object fields)
  let encoded := (Text.Utf8.encode document).mapError Failure.unencodable
  match form with
  | .object => .ok (.object fields)
  | .text => .ok (.text document)
  | .bytes => encoded.map .bytes
  | .buffer => encoded.map .buffer

/-- The fields of an object whose document tells it: there are no bytes and no numbers but integers
of no more digits than are read, no name comes twice, no text and no name has a pair of surrogates,
and no more containers are inside one another than are read. -/
structure Tellable (fields : Fields) : Prop where
  told : isTold (.object fields) = true
  settled : Settled (.object fields)
  shallow : height (.object fields) ≤ Json.maxDepth

lemma answer_says {fields : Fields} (h : Tellable fields) (form : AnswerForm) :
    ∃ answer, form.answer fields = .ok answer ∧ Says fields answer := by
  have hread : Json.read (Json.write (.object fields)) = .ok (.object fields) :=
    read_write_settled h.told h.shallow h.settled
  have hfree : SurrogateFree (Json.write (.object fields)) :=
    surrogateFree_of_printable (printable_write (.object fields) h.told)
  have hencode := utf8_encode_eq_ok_iff.mpr ⟨hfree, rfl⟩
  cases form with
  | object => exact ⟨_, rfl, .object⟩
  | text => exact ⟨_, rfl, .text _ hread⟩
  | bytes =>
    refine ⟨_, ?_, .bytes _ _ hread hencode⟩
    simp only [AnswerForm.answer, hencode]
    rfl
  | buffer =>
    refine ⟨_, ?_, .buffer _ _ hread hencode⟩
    simp only [AnswerForm.answer, hencode]
    rfl

lemma outcome_says {fields : Fields} {answer : Value} (h : Says fields answer) (c : AnchorCall) :
    c.outcome (.ok answer) = c.outcome (.ok (.object fields)) := by
  have hfields : fieldsOf answer = fieldsOf (.object fields) := fieldsOf_says h
  have haccepted : accepted c answer = accepted c (.object fields) := by
    rw [accepted, accepted, hfields]
  exact congrArg (· >>= c.given) haccepted

section

variable {σ : Type} (sign : Transaction → Action σ (AnswerForm × Fields))

/-- A signer whose answers come each in a form of its own. -/
def inForms : Signer σ := fun t => do
  let (form, fields) ← sign t
  Action.ofExcept (form.answer fields)

def asObjects : Signer σ := fun t => do
  let (_, fields) ← sign t
  return .object fields

def Episode.seen (e : Episode) : AnchorCall × List Transaction × Except Failure AnchorResult :=
  (e.call, e.exchanges.map (·.sent), e.outcome)

variable {sign}

lemma make_inForms (htellable : ∀ t s form fields,
      ((sign t).result s).1 = .ok (form, fields) → Tellable fields)
    (config : Config) (st : State σ) (c : AnchorCall) :
    (c.make ⟨config, inForms sign⟩ st).1.seen = (c.make ⟨config, asObjects sign⟩ st).1.seen ∧
      (c.make ⟨config, inForms sign⟩ st).2 = (c.make ⟨config, asObjects sign⟩ st).2 := by
  cases hknown : c.known? st with
  | some id =>
    rw [make_known hknown, make_known hknown]
    exact ⟨rfl, rfl⟩
  | none =>
    obtain ⟨failure, s', hsign⟩ | ⟨⟨form, fields⟩, s', hsign⟩ :=
      outcome_cases (sign (c.transaction config)) st.signer
    · have hforms : (inForms sign (c.transaction config)).result st.signer = (.error failure, s') :=
        result_bind_of_error hsign
      have hobjects : (asObjects sign (c.transaction config)).result st.signer =
          (.error failure, s') := result_bind_of_error hsign
      rw [make_replied hknown hforms, make_replied hknown hobjects]
      exact ⟨rfl, rfl⟩
    · obtain ⟨answer, hanswer, hsays⟩ :=
        answer_says (htellable _ _ form fields (congrArg Prod.fst hsign)) form
      have hforms : (inForms sign (c.transaction config)).result st.signer = (.ok answer, s') := by
        rw [inForms, result_bind_of_ok hsign]
        change (Action.ofExcept (form.answer fields)).result s' = _
        rw [hanswer]
        rfl
      have hobjects : (asObjects sign (c.transaction config)).result st.signer =
          (.ok (.object fields), s') := result_bind_of_ok hsign
      have houtcome := outcome_says hsays c
      rw [make_replied hknown hforms, make_replied hknown hobjects, houtcome]
      exact ⟨rfl, rfl⟩

/-- Any calls, from any state on, on an adapter of any configuration: in whatever forms the answers
come, each call sends the same, ends with the same result or the same failure, and leaves the same
key ids known, as if all answers were objects. -/
theorem form_of_answers_does_not_matter
    (htellable : ∀ t s form fields,
      ((sign t).result s).1 = .ok (form, fields) → Tellable fields)
    (config : Config) (st : State σ) (calls : List AnchorCall) :
    (episodes ⟨config, inForms sign⟩ st calls).map Episode.seen =
        (episodes ⟨config, asObjects sign⟩ st calls).map Episode.seen ∧
      stateAfter ⟨config, inForms sign⟩ st calls =
        stateAfter ⟨config, asObjects sign⟩ st calls := by
  induction calls generalizing st with
  | nil => exact ⟨rfl, rfl⟩
  | cons c rest ih =>
    obtain ⟨hseen, hstate⟩ := make_inForms htellable config st c
    obtain ⟨hepisodes, hafter⟩ := ih (c.make ⟨config, inForms sign⟩ st).2
    rw [episodes, episodes, List.map_cons, List.map_cons, hseen, hepisodes, stateAfter, hafter,
      hstate, stateAfter]
    exact ⟨rfl, rfl⟩

/-- A refusal with reasons inside a list is worded alike, answered in bytes or as an object. -/
theorem refusal_in_bytes_is_worded_alike :
    let reasons := Value.object [("reasons", .list [.text "late", .null, .bool true, .int (-7),
      .text [CodePoint.ofNat 0x1F600, CodePoint.ofNat 0xD800]])]
    let fields : Fields := [("error", reasons), ("code", .int 403)]
    let handle : Handle Unit := ⟨⟨.text "outlayer.near", .text "repository", .text "v0.3.0",
      .text "wasm32-wasip1", .null, .null, .null⟩, inForms fun _ => pure (.bytes, fields)⟩
    let message : Text := Text.ofString "\x7b'reasons': ['late', None, True, -7, '" ++
      [CodePoint.ofNat 0x1F600] ++ "\\ud800']\x7d"
    let refusal : Except Failure AnchorResult :=
      .error (.groupAuthorization (.refused (.text "team") message))
    Tellable fields ∧
      (episodes handle ⟨(), []⟩ [.wrap "team" "key", .lookup "team"]).map Episode.outcome =
        [refusal, refusal] := by
  intro reasons fields handle message refusal
  have htellable : Tellable fields := by
    refine ⟨by decide, ⟨by decide, ?_⟩, by decide⟩
    simp only [fields, reasons, SettledFields, SettledItems, Settled]
    decide +kernel
  have hmessage : reasons.display = message := by decide +kernel
  let sign : Transaction → Action Unit (AnswerForm × Fields) := fun _ => pure (.bytes, fields)
  have hsigned : ∀ t s form told, ((sign t).result s).1 = .ok (form, told) → Tellable told := by
    intro _ _ _ _ h
    obtain ⟨-, rfl⟩ : _ ∧ fields = _ := by simpa using Except.ok.inj h
    exact htellable
  have hforms := form_of_answers_does_not_matter hsigned handle.config ⟨(), []⟩
    [.wrap "team" "key", .lookup "team"]
  have hobjects := congrArg (List.map fun seen => seen.2.2) hforms.1
  rw [List.map_map, List.map_map] at hobjects
  refine ⟨htellable, hobjects.trans ?_⟩
  simp only [refusal]
  rw [← hmessage]
  rfl

end

end EnvelopeStore.Proofs
