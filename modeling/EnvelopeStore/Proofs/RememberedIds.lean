import EnvelopeStore.Proofs.Exchanges

/-!
# The key ids that an adapter remembers

For each group an adapter remembers the first key id that wrapping for the group or looking it up
has told. What is remembered is therefore told by the history of its calls: a failure tells nothing,
even if the answer named a key id, and neither does unwrapping.
-/

namespace EnvelopeStore.Proofs
open KeyManager

/-! ### What a history tells -/

/-- The key id that a call tells for a group. -/
def Episode.toldFor (group : Text) (e : Episode) : Option Text :=
  if e.call.group = group then e.outcome.toOption.bind AnchorResult.taught? else none

/-- The first key id that a history tells for a group. -/
def firstTold (group : Text) (past : List Episode) : Option Text :=
  past.findSome? fun e => e.toldFor group

def remembered {σ : Type} (st : State σ) (group : Text) : Option Text :=
  st.known.get? (.text group)

lemma firstTold_cons (group : Text) (e : Episode) (past : List Episode) :
    firstTold group (e :: past) = (e.toldFor group).or (firstTold group past) := by
  rw [firstTold, List.findSome?_cons]
  cases e.toldFor group <;> rfl

lemma firstTold_append (group : Text) (past more : List Episode) :
    firstTold group (past ++ more) = (firstTold group past).or (firstTold group more) :=
  List.findSome?_append

/-! ### One call -/

lemma get?_remember (known : Bindings Text) (group other id : Text) :
    (remember known group id).get? (.text other) =
      (known.get? (.text other)).or (if group = other then some id else none) := by
  unfold remember
  cases hknown : known.get? (.text group) with
  | some id' =>
    rw [Option.isSome_some, if_pos rfl]
    by_cases h : group = other
    · rw [← h, hknown]
      rfl
    · rw [if_neg h, Option.or_none]
  | none =>
    rw [Option.isSome_none, if_neg Bool.false_ne_true, Bindings.get?_insert_text]
    by_cases h : group = other
    · rw [if_pos h, if_pos h, ← h, hknown]
      rfl
    · rw [if_neg h, if_neg h, Option.or_none]

lemma get?_knownAfter (known : Bindings Text) (group other : Text)
    (outcome : Except Failure AnchorResult) :
    (knownAfter known group outcome).get? (.text other) = (known.get? (.text other)).or
      (if group = other then outcome.toOption.bind AnchorResult.taught? else none) := by
  unfold knownAfter
  cases outcome.toOption.bind AnchorResult.taught? with
  | some id => exact get?_remember known group other id
  | none => rw [ite_self, Option.or_none]

section

variable {σ : Type} (handle : Handle σ) (st : State σ)

lemma remembered_make (c : AnchorCall) (group : Text) :
    remembered (c.make handle st).2 group =
      (remembered st group).or ((c.make handle st).1.toldFor group) := by
  cases hknown : c.known? st with
  | some id =>
    rw [make_known hknown]
    obtain ⟨other, rfl, hsome⟩ := known?_eq_some_iff.mp hknown
    by_cases h : other = group
    · have hremembered : remembered st group = some id := h ▸ hsome
      rw [hremembered]
      rfl
    · have hnone : Episode.toldFor group ⟨.lookup other, [], .ok (.keyId id)⟩ = none := if_neg h
      rw [hnone, Option.or_none]
  | none =>
    rw [make_replied hknown rfl]
    exact get?_knownAfter st.known c.group group _

lemma remembered_of_lookup {group id : Text}
    (h : ((AnchorCall.lookup group).make handle st).1.outcome = .ok (.keyId id)) :
    remembered ((AnchorCall.lookup group).make handle st).2 group = some id := by
  cases hknown : (AnchorCall.lookup group).known? st with
  | some id' =>
    rw [make_known hknown] at h ⊢
    obtain rfl : id' = id := AnchorResult.keyId.inj (Except.ok.inj h)
    exact hknown
  | none =>
    rw [make_replied hknown rfl] at h ⊢
    have hnone : st.known.get? (.text group) = none := hknown
    refine (get?_knownAfter st.known group group _).trans ?_
    rw [if_pos rfl, hnone, Option.none_or]
    exact congrArg (fun outcome => outcome.toOption.bind AnchorResult.taught?) h

lemma toldFor_unwrap (group other wrapped : Text) :
    ((AnchorCall.unwrap other wrapped).make handle st).1.toldFor group = none := by
  rw [make_replied rfl rfl, Episode.toldFor]
  cases houtcome : (AnchorCall.unwrap other wrapped).outcome _ with
  | error failure => exact ite_self none
  | ok given =>
    obtain ⟨answer, fields, -, -, -, hprovides⟩ := outcome_eq_ok_iff.mp houtcome
    cases hprovides
    exact ite_self none

lemma episodes_append (before more : List AnchorCall) :
    episodes handle st (before ++ more) =
      episodes handle st before ++ episodes handle (stateAfter handle st before) more := by
  induction before generalizing st with
  | nil => rfl
  | cons c rest ih => rw [List.cons_append, episodes, ih, episodes, stateAfter, List.cons_append]

/-- What is remembered after a history was remembered before it, or else the history tells it. -/
lemma remembered_stateAfter (calls : List AnchorCall) (group : Text) :
    remembered (stateAfter handle st calls) group =
      (remembered st group).or (firstTold group (episodes handle st calls)) := by
  -- On the calls: what was remembered comes before what this call tells, and that before the rest.
  induction calls generalizing st with
  | nil => exact (Option.or_none).symm
  | cons c rest ih =>
    rw [stateAfter, ih, remembered_make, episodes, firstTold_cons, Option.or_assoc]

/-! ### Any history -/

/-- What a call does, when this is the id that its group was told first. A known id is looked up
without an exchange. Any other call hands over its own transaction, once, and succeeds with what the
reply gives and only with that. -/
inductive Proceeds (config : Config) (known : Option Text) : Episode → Prop
  | known {group id : Text} (h : known = some id) :
    Proceeds config known ⟨.lookup group, [], .ok (.keyId id)⟩
  | asked {c : AnchorCall} {reply : Except Failure Value} {outcome : Except Failure AnchorResult}
      (h : known = none ∨ ∀ group, c ≠ .lookup group)
      (hgives : ∀ given, outcome = .ok given ↔ Gives reply c given) :
    Proceeds config known ⟨c, [⟨c.transaction config, reply⟩], outcome⟩

lemma proceeds_make (c : AnchorCall) :
    Proceeds handle.config (remembered st c.group) (c.make handle st).1 := by
  cases hknown : c.known? st with
  | some id =>
    rw [make_known hknown]
    obtain ⟨group, rfl, hsome⟩ := known?_eq_some_iff.mp hknown
    exact .known hsome
  | none =>
    rw [make_replied hknown rfl]
    refine .asked ?_ fun given => outcome_eq_ok_iff
    cases c with
    | wrap | unwrap => exact .inr (by simp)
    | lookup group => exact .inl hknown

/-- On an adapter that starts without key ids, after any calls for any groups and whatever the
signer does: what is remembered for a group is the first id that wrapping for it or looking it up
has told. That id is what looking it up gives, at any time, and without an exchange once it is
known; all other calls ask once and go by their own answer. A failure, an unwrapping and a call for
another group leave what is remembered as it was. -/
theorem first_key_id_told_is_remembered (s : σ) (before : List AnchorCall) (c : AnchorCall) :
    let start : State σ := ⟨s, []⟩
    let past := episodes handle start before
    let st := stateAfter handle start before
    let e := (c.make handle st).1
    let st' := (c.make handle st).2
    (e.outcome, st') = (c.ask handle).result st ∧
    (∀ group, remembered st group = firstTold group past) ∧
    Proceeds handle.config (firstTold c.group past) e ∧
    (∀ group id after, c = .lookup group → e.outcome = .ok (.keyId id) →
      firstTold group (episodes handle start (before ++ c :: after)) = some id) ∧
    ∀ group, (∃ failure, e.outcome = .error failure) ∨ (∃ other wrapped, c = .unwrap other wrapped) ∨
        c.group ≠ group → remembered st' group = remembered st group := by
  intro start past st e st'
  have hremembered : ∀ group, remembered st group = firstTold group past := fun group =>
    remembered_stateAfter handle start before group
  refine ⟨make_eq handle st c, hremembered, ?_, ?_, ?_⟩
  · rw [← hremembered]
    exact proceeds_make handle st c
  · intro group id after hc hok
    subst hc
    have htold : (firstTold group past).or (e.toldFor group) = some id := by
      rw [← hremembered, ← remembered_make]
      exact remembered_of_lookup handle st hok
    rw [episodes_append, episodes, firstTold_append, firstTold_cons, ← Option.or_assoc]
    change ((firstTold group past).or (e.toldFor group)).or _ = some id
    rw [htold, Option.some_or]
  · intro group h
    have hmake : remembered st' group = (remembered st group).or (e.toldFor group) :=
      remembered_make handle st c group
    have hnone : e.toldFor group = none := by
      obtain ⟨failure, hfailure⟩ | ⟨other, wrapped, rfl⟩ | hother := h
      · rw [Episode.toldFor, hfailure]
        exact ite_self none
      · exact toldFor_unwrap handle st group other wrapped
      · exact if_neg hother
    rw [hmake, hnone, Option.or_none]

end

/-- An answer that names a key id and lacks the wrapped key tells nothing. The id of the next answer
is remembered, and a later wrapping gives the id of its own answer and leaves that one as it is. -/
theorem half_an_answer_tells_nothing :
    let answer : Text → Text → Fields := fun wrapped id =>
      [("wrapped_key_b64", .text wrapped), ("key_id", .text id)]
    let handle : Handle Script := ⟨⟨.text "outlayer.near", .text "repository", .text "v0.3.0",
      .text "wasm32-wasip1", .null, .null, .null⟩, Script.sign⟩
    let script := Script.start [.value (.object [("key_id", .text "half")]), .lost "offline",
      .value (.object (answer "w1" "first")), .value (.object (answer "w2" "second"))]
    let start : State Script := ⟨script, []⟩
    let before : List AnchorCall :=
      [.wrap "team" "k1", .lookup "team", .wrap "team" "k2", .wrap "team" "k3"]
    let st := stateAfter handle start before
    (episodes handle start before).map (fun e => e.exchanges.length) = [1, 1, 1, 1] ∧
      (episodes handle start before).map (fun e => e.toldFor "team") =
        [none, none, some (Text.ofString "first"), some (Text.ofString "second")] ∧
      ((AnchorCall.lookup "team").make handle st).1 =
        ⟨.lookup "team", [], .ok (.keyId "first")⟩ := by
  intro answer handle script start before st
  obtain ⟨-, -, hproceeds, -, -⟩ :=
    first_key_id_told_is_remembered handle script before (.lookup "team")
  have hfirst : firstTold "team" (episodes handle start before) = some (Text.ofString "first") := by
    decide +kernel
  refine ⟨by decide +kernel, by decide +kernel, ?_⟩
  change Proceeds _ (firstTold "team" (episodes handle start before))
    ((AnchorCall.lookup "team").make handle st).1 at hproceeds
  have hcall : ((AnchorCall.lookup "team").make handle st).1.call = .lookup "team" := rfl
  rw [hfirst] at hproceeds
  generalize ((AnchorCall.lookup "team").make handle st).1 = e at hproceeds hcall
  cases hproceeds with
  | known hid =>
    obtain rfl := Option.some.inj hid
    obtain rfl := AnchorCall.lookup.inj hcall
    rfl
  | asked hasks hgives =>
    obtain hunknown | hother := hasks
    · exact nomatch hunknown
    · exact absurd hcall (hother _)

end EnvelopeStore.Proofs
