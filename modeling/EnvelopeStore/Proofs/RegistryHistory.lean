import EnvelopeStore.Proofs.Integrity

/-!
# Every history of a registry

What a registry holds after any calls is told by the calls themselves: the groups have their key
ids in the order of first use, and a text is known as a wrapped key exactly if a call has given it.
-/

namespace EnvelopeStore.Proofs
open Text

/-- The groups with a key id after a call. Wrapping and looking up register the group that they are
for, even if the wrapping then fails; for a denied group nothing is registered. -/
def AnchorCall.enrolls (denied : List Value) (groups : List Text) : AnchorCall → List Text
  | .wrap group _ | .lookup group =>
    if (Registry.start denied).isDenied (.text group) then groups else enroll groups group
  | .unwrap _ _ => groups

def firstUses (denied : List Value) (calls : List AnchorCall) : List Text :=
  calls.foldl (AnchorCall.enrolls denied) []

/-! ### One call -/

/-- All that a call can do to a registry, with the groups that have a key id afterwards. -/
inductive CallEffect (r : Registry) (groups : List Text) (call : AnchorCall) :
    Registry → List Text → Prop
  | counted (count : CallCount) : CallEffect r groups call { r with calls := count } groups
  | enrolled (group : Text) (count : CallCount) :
    CallEffect r groups call
      { r with keyIds := groupKeyIds (enroll groups group), calls := count } (enroll groups group)
  | recorded (group key wrapped : Text) (count : CallCount)
      (hcall : call = .wrap group key)
      (hwrapping : wrapping key group (keyIdOf groups group) = .ok wrapped) :
    CallEffect r groups call
      { r with
        wrapped := (wrapped, (.text key, .text group)) :: r.wrapped
        keyIds := groupKeyIds (enroll groups group)
        calls := count } (enroll groups group)

section

variable {denied : List Value} {r r' : Registry} {groups groups' : List Text} {call : AnchorCall}
  {w : Text} {v : Value × Value}

lemma isDenied_eq (h : r.denied = denied) (group : Text) :
    r.isDenied (.text group) = (Registry.start denied).isDenied (.text group) := by
  rw [Registry.isDenied, Registry.isDenied, h]
  rfl

lemma call_effect (hr : Orderly r groups) (hdenied : r.denied = denied) (call : AnchorCall) :
    CallEffect r groups call (call.after r) (call.enrolls denied groups) := by
  cases call with
  | wrap group key =>
    cases h : r.isDenied (.text group) with
    | true =>
      rw [AnchorCall.after, wrap_denied h, AnchorCall.enrolls, ← isDenied_eq hdenied, if_pos h]
      exact .counted _
    | false =>
      have hne : ¬r.isDenied (.text group) = true := by simp [h]
      rw [AnchorCall.enrolls, ← isDenied_eq hdenied, if_neg hne]
      cases hw : wrapping key group (keyIdOf groups group) with
      | error fault =>
        rw [AnchorCall.after, wrap_unencodable hr h hw]
        exact .enrolled group _
      | ok wrapped =>
        rw [AnchorCall.after, wrap_encodable hr h hw]
        exact .recorded group key wrapped _ rfl hw
  | unwrap group wrapped =>
    obtain ⟨count, hcount, -⟩ := unwrap_cases hr group wrapped
    rw [AnchorCall.after, hcount]
    exact .counted count
  | lookup group =>
    cases h : r.isDenied (.text group) with
    | true =>
      rw [AnchorCall.after, lookup_denied h, AnchorCall.enrolls, ← isDenied_eq hdenied, if_pos h]
      exact .counted _
    | false =>
      have hne : ¬r.isDenied (.text group) = true := by simp [h]
      rw [AnchorCall.after, lookup_allowed hr h, AnchorCall.enrolls, ← isDenied_eq hdenied,
        if_neg hne]
      exact .enrolled group _

lemma CallEffect.orderly (h : CallEffect r groups call r' groups') (hr : Orderly r groups) :
    Orderly r' groups' := by
  cases h with
  | counted count => exact orderly_calls count hr
  | enrolled group count => exact orderly_enroll count hr
  | recorded group key wrapped count hcall hwrapping => exact orderly_record count hr hwrapping

lemma CallEffect.denied_eq (h : CallEffect r groups call r' groups') : r'.denied = r.denied := by
  cases h <;> rfl

lemma CallEffect.nodup (h : CallEffect r groups call r' groups') (hg : groups.Nodup) :
    groups'.Nodup := by
  cases h with
  | counted count => exact hg
  | enrolled group count => exact nodup_enroll hg
  | recorded group key wrapped count hcall hwrapping => exact nodup_enroll hg

/-- A group that has a key id keeps it. -/
lemma CallEffect.keyId (h : CallEffect r groups call r' groups') {group : Text}
    (hg : group ∈ groups) : group ∈ groups' ∧ keyIdOf groups' group = keyIdOf groups group := by
  cases h with
  | counted count => exact ⟨hg, rfl⟩
  | enrolled other count => exact ⟨mem_enroll_of_mem hg, keyIdOf_enroll hg⟩
  | recorded other key wrapped count hcall hwrapping =>
    exact ⟨mem_enroll_of_mem hg, keyIdOf_enroll hg⟩

lemma CallEffect.lookup (h : CallEffect r groups call r' groups') (hr : Orderly r groups)
    (hw : r.wrapped.lookup w = some v) : r'.wrapped.lookup w = some v := by
  cases h with
  | counted count => exact hw
  | enrolled group count => exact hw
  | recorded group key wrapped count hcall hwrapping => exact lookup_record hr hwrapping hw

end

/-! ### All calls -/

lemma registryAfter_snoc (denied : List Value) (calls : List AnchorCall) (call : AnchorCall) :
    registryAfter denied (calls ++ [call]) = call.after (registryAfter denied calls) := by
  rw [registryAfter, List.foldl_append]
  rfl

lemma firstUses_snoc (denied : List Value) (calls : List AnchorCall) (call : AnchorCall) :
    firstUses denied (calls ++ [call]) = call.enrolls denied (firstUses denied calls) := by
  rw [firstUses, List.foldl_append]
  rfl

/-- What every history leads to. -/
structure Historic (denied : List Value) (calls : List AnchorCall) : Prop where
  refuses : (registryAfter denied calls).denied = denied
  orderly : Orderly (registryAfter denied calls) (firstUses denied calls)
  nodup : (firstUses denied calls).Nodup

lemma historic_snoc {denied : List Value} {calls : List AnchorCall} (h : Historic denied calls)
    (call : AnchorCall) :
    CallEffect (registryAfter denied calls) (firstUses denied calls) call
      (registryAfter denied (calls ++ [call])) (firstUses denied (calls ++ [call])) := by
  rw [registryAfter_snoc, firstUses_snoc]
  exact call_effect h.orderly h.refuses call

theorem historic (denied : List Value) (calls : List AnchorCall) : Historic denied calls := by
  induction calls using List.reverseRecOn with
  | nil => exact ⟨rfl, orderly_start denied, List.nodup_nil⟩
  | append_singleton calls call ih =>
    have heffect := historic_snoc ih call
    exact ⟨heffect.denied_eq.trans ih.refuses, heffect.orderly ih.orderly, heffect.nodup ih.nodup⟩

section

variable {denied : List Value} {calls : List AnchorCall} {group group' key key' w w' keyId : Text}

lemma keyIds_get? (denied : List Value) (calls : List AnchorCall) (group : Text) :
    (registryAfter denied calls).keyIds.get? (.text group) =
      if group ∈ firstUses denied calls then some (keyIdOf (firstUses denied calls) group)
      else none := by
  rw [(historic denied calls).orderly.keyIds, get?_groupKeyIds]

lemma keyId_append (hg : group ∈ firstUses denied calls) (more : List AnchorCall) :
    group ∈ firstUses denied (calls ++ more) ∧
      keyIdOf (firstUses denied (calls ++ more)) group = keyIdOf (firstUses denied calls) group := by
  induction more using List.reverseRecOn with
  | nil => simpa using hg
  | append_singleton more call ih =>
    have hstep := (historic_snoc (historic denied (calls ++ more)) call).keyId ih.1
    rw [List.append_assoc] at hstep
    exact ⟨hstep.1, hstep.2.trans ih.2⟩

lemma lookup_append {v : Value × Value}
    (hw : (registryAfter denied calls).wrapped.lookup w = some v) (more : List AnchorCall) :
    (registryAfter denied (calls ++ more)).wrapped.lookup w = some v := by
  induction more using List.reverseRecOn with
  | nil => simpa using hw
  | append_singleton more call ih =>
    have hbefore := historic denied (calls ++ more)
    have hstep := (historic_snoc hbefore call).lookup hbefore.orderly ih
    rwa [List.append_assoc] at hstep

lemma wrapped_recorded {before : List AnchorCall} (h :
      ((Registry.wrap (.text group) (.text key)).result (registryAfter denied before)).1 =
        .ok ⟨w, keyId⟩) :
    let calls := before ++ [.wrap group key]
    wrapping key group keyId = .ok w ∧ keyId = keyIdOf (firstUses denied calls) group ∧
      (registryAfter denied calls).isDenied (.text group) = false ∧
      group ∈ firstUses denied calls ∧
      (registryAfter denied calls).wrapped.lookup w = some (.text key, .text group) := by
  intro calls
  have hr := (historic denied before).orderly
  have hdenied := (historic denied before).refuses
  have hafter : registryAfter denied calls =
      ((Registry.wrap (.text group) (.text key)).result (registryAfter denied before)).2 :=
    registryAfter_snoc denied before _
  cases hd : (registryAfter denied before).isDenied (.text group) with
  | true => simp [wrap_denied hd] at h
  | false =>
    have hne : ¬(Registry.start denied).isDenied (.text group) = true := by
      rw [← isDenied_eq hdenied]
      simp [hd]
    have huses : firstUses denied calls = enroll (firstUses denied before) group := by
      rw [firstUses_snoc]
      exact if_neg hne
    cases hw : wrapping key group (keyIdOf (firstUses denied before) group) with
    | error fault => simp [wrap_unencodable hr hd hw] at h
    | ok wrapped =>
      rw [wrap_encodable hr hd hw] at h hafter
      simp only [Except.ok.injEq, WrappedKey.mk.injEq] at h
      obtain ⟨rfl, rfl⟩ := h
      rw [hafter, huses]
      exact ⟨hw, (keyIdOf_enroll_self _ _).symm, hd, mem_enroll, List.lookup_cons_self⟩

lemma looked_up (hallowed : (registryAfter denied calls).isDenied (.text group) = false) :
    let after := registryAfter denied (calls ++ [.lookup group])
    ∃ id, (Registry.lookup (.text group)).result (registryAfter denied calls) = (.ok id, after) ∧
      after.keyIds.get? (.text group) = some id := by
  intro after
  have hr := (historic denied calls).orderly
  have hafter : after =
      ((Registry.lookup (.text group)).result (registryAfter denied calls)).2 :=
    registryAfter_snoc denied calls _
  have hrun := lookup_allowed hr hallowed
  have hid : ((Registry.lookup (.text group)).result (registryAfter denied calls)).1 =
      .ok (keyIdOf (firstUses denied calls) group) := congrArg Prod.fst hrun
  refine ⟨_, Prod.ext hid hafter.symm, ?_⟩
  rw [hafter, hrun]
  dsimp only
  rw [get?_groupKeyIds, if_pos mem_enroll, keyIdOf_enroll_self]

lemma WrappedBy.lookup (h : WrappedBy denied calls group key w) :
    (registryAfter denied calls).wrapped.lookup w = some (.text key, .text group) := by
  obtain ⟨before, after, keyId, rfl, hrun⟩ := h
  have hlookup := lookup_append (wrapped_recorded hrun).2.2.2.2 after
  rwa [List.append_assoc] at hlookup

/-- A key that was wrapped is given back to its group, with the key id that it had then, and to no
other group. -/
lemma unwrap_after_wrap {before after : List AnchorCall}
    (hrun : ((Registry.wrap (.text group) (.text key)).result (registryAfter denied before)).1 =
      .ok ⟨w, keyId⟩) :
    let r := registryAfter denied (before ++ .wrap group key :: after)
    ((Registry.unwrap (.text group) (.text w)).result r).1 = .ok ⟨.text key, keyId⟩ ∧
      ∀ other, other ≠ group → r.isDenied (.text other) = false →
        ((Registry.unwrap (.text other) (.text w)).result r).1 =
          .error (.groupAuthorization (.otherGroup (.text other))) := by
  intro r
  have hlookup : r.wrapped.lookup w = some (.text key, .text group) :=
    WrappedBy.lookup ⟨before, after, keyId, rfl, hrun⟩
  obtain ⟨-, hid, hallowed, hmem, -⟩ := wrapped_recorded hrun
  have hkeeps := (keyId_append hmem after).2
  rw [List.append_assoc, List.singleton_append, ← hid] at hkeeps
  have hdenied : r.isDenied (.text group) = false := by
    rwa [isDenied_eq (historic denied _).refuses] at hallowed ⊢
  constructor
  · rw [unwrap_own (historic denied _).orderly hdenied hlookup, hkeeps]
  · intro other hother hallowedOther
    rw [unwrap_other hallowedOther hlookup hother.symm]

lemma WrappedBy.unique (h : WrappedBy denied calls group key w)
    (h' : WrappedBy denied calls group key w') : w = w' := by
  obtain ⟨before, after, keyId, rfl, hrun⟩ := h
  obtain ⟨before', after', keyId', hcalls, hrun'⟩ := h'
  obtain ⟨hw, hid, -, hmem, -⟩ := wrapped_recorded hrun
  obtain ⟨hw', hid', -, hmem', -⟩ := wrapped_recorded hrun'
  have hend := (keyId_append hmem after).2
  have hend' := (keyId_append hmem' after').2
  simp only [List.append_assoc, List.singleton_append] at hend hend'
  rw [← hcalls] at hend'
  have hsame : keyId = keyId' := by rw [hid, hid', ← hend, ← hend']
  rw [hsame, hw'] at hw
  exact (Except.ok.inj hw).symm

lemma lookup_eq_none (h : ∀ group key, ¬WrappedBy denied calls group key w) :
    (registryAfter denied calls).wrapped.lookup w = none := by
  obtain ⟨groups, hr, hhistory⟩ := registry_history denied calls
  cases hw : (registryAfter denied calls).wrapped.lookup w with
  | none => rfl
  | some v =>
    obtain ⟨key, group, rfl, -, -⟩ := hr.wrapped _ _ (mem_of_lookup hw)
    exact absurd (hhistory w key group (mem_of_lookup hw)) (h group key)

end

/-- What any calls leave in a registry, for a fixed list of denied groups. The groups hold the key
ids of the first numbers, in the order of first use, each its own for ever, and looking a group up or
wrapping for it gives that id. A wrapped key tells the key and the group that it was made from, and
unwrapping gives that key back to that group and to no other. A text that no wrapping gave is not
recognized. For a denied group everything is refused and
nothing but the count of calls changes. -/
theorem registry_of_any_history (denied : List Value) (calls : List AnchorCall) :
    let r := registryAfter denied calls
    let groups := firstUses denied calls
    r.keyIds = groups.zipIdx.map (fun (group, n) =>
      (.text group, ofString "mock-key-" ++ Text.ofNat (n + 1))) ∧
    groups.Nodup ∧
    (∀ group group' id, r.keyIds.get? (.text group) = some id →
      r.keyIds.get? (.text group') = some id → group = group') ∧
    (∀ group id more, r.keyIds.get? (.text group) = some id →
      (registryAfter denied (calls ++ more)).keyIds.get? (.text group) = some id) ∧
    (∀ group, r.isDenied (.text group) = false →
      let after := registryAfter denied (calls ++ [.lookup group])
      ∃ id, (Registry.lookup (.text group)).result r = (.ok id, after) ∧
        after.keyIds.get? (.text group) = some id) ∧
    (∀ group key w id,
      ((Registry.wrap (.text group) (.text key)).result r).1 = .ok ⟨w, id⟩ →
      (registryAfter denied (calls ++ [.wrap group key])).keyIds.get? (.text group) = some id) ∧
    (∀ group key w group' key' w', WrappedBy denied calls group key w →
      WrappedBy denied calls group' key' w' → (w = w' ↔ group = group' ∧ key = key')) ∧
    (∀ before after group key w id, calls = before ++ .wrap group key :: after →
      ((Registry.wrap (.text group) (.text key)).result (registryAfter denied before)).1 =
        .ok ⟨w, id⟩ →
      ((Registry.unwrap (.text group) (.text w)).result r).1 = .ok ⟨.text key, id⟩ ∧
      ∀ other, other ≠ group → r.isDenied (.text other) = false →
        ((Registry.unwrap (.text other) (.text w)).result r).1 =
          .error (.groupAuthorization (.otherGroup (.text other)))) ∧
    (∀ group w, r.isDenied (.text group) = false →
      (∀ group' key, ¬WrappedBy denied calls group' key w) →
      ((Registry.unwrap (.text group) (.text w)).result r).1 =
        .error (.trustAnchor .notRecognized)) ∧
    r.denied = denied ∧
    (∀ group t, r.isDenied (.text group) = true →
      let refusal := Failure.groupAuthorization (.notMember (.text group))
      (Registry.wrap (.text group) (.text t)).result r =
        (.error refusal, { r with calls := { r.calls with wrap := r.calls.wrap + 1 } }) ∧
      (Registry.unwrap (.text group) (.text t)).result r =
        (.error refusal, { r with calls := { r.calls with unwrap := r.calls.unwrap + 1 } }) ∧
      (Registry.lookup (.text group)).result r =
        (.error refusal, { r with calls := { r.calls with lookup := r.calls.lookup + 1 } })) ∧
    (∀ group w missing, ((Registry.unwrap (.text group) (.text w)).result r).1 ≠
      .error (.shape (.missingKey missing))) := by
  intro r groups
  have hr : Orderly r groups := (historic denied calls).orderly
  have hget := keyIds_get? denied calls
  refine ⟨hr.keyIds, (historic denied calls).nodup, ?_, ?_, fun _ => looked_up, ?_, ?_, ?_, ?_,
    (historic denied calls).refuses, ?_, ?_⟩
  · intro group group' id hid hid'
    rw [hget, Option.ite_none_right_eq_some] at hid hid'
    have hsame : keyIdOf groups group = keyIdOf groups group' :=
      Option.some.inj (hid.2.trans hid'.2.symm)
    exact (List.idxOf_inj hid.1).mp (keyIdAt_injective hsame)
  · intro group id more hid
    rw [hget, Option.ite_none_right_eq_some] at hid
    obtain ⟨hmem, hsame⟩ := keyId_append hid.1 more
    rw [keyIds_get?, if_pos hmem, hsame, hid.2]
  · intro group key w id hrun
    obtain ⟨-, hid, -, hmem, -⟩ := wrapped_recorded hrun
    rw [keyIds_get?, if_pos hmem, hid]
  · intro group key w group' key' w' hw hw'
    constructor
    · rintro rfl
      have hvalue := hw.lookup.symm.trans hw'.lookup
      simp only [Option.some.injEq, Prod.mk.injEq, Value.text.injEq] at hvalue
      exact ⟨hvalue.2, hvalue.1⟩
    · rintro ⟨rfl, rfl⟩
      exact hw.unique hw'
  · intro before after group key w id hcalls hrun
    have hr' : r = registryAfter denied (before ++ .wrap group key :: after) := by rw [← hcalls]
    rw [hr']
    exact unwrap_after_wrap hrun
  · intro group w hallowed hnone
    rw [unwrap_unknown hallowed (lookup_eq_none hnone)]
  · intro group t hdenied
    exact ⟨wrap_denied hdenied, unwrap_denied hdenied, lookup_denied hdenied⟩
  · intro group w missing
    obtain ⟨-, -, ⟨fault, h⟩ | ⟨fault, h⟩ | ⟨key, -, h⟩⟩ := unwrap_cases hr group w
    · simp [h]
    · simp [h]
    · simp [h]

/-- Two wrappings whose encoded texts differ in the key id alone, as the marks between key and group
fall together. Their wrapped keys differ, and neither group can unwrap that of the other. -/
theorem colons_keep_wrapped_keys_apart :
    let calls : List AnchorCall := [.wrap "a:b" "k", .wrap "b" "k:a"]
    let r := registryAfter [.text "c"] calls
    ∃ w w', WrappedBy [.text "c"] calls "a:b" "k" w ∧ WrappedBy [.text "c"] calls "b" "k:a" w' ∧
      w ≠ w' ∧
      ((Registry.unwrap (.text "a:b") (.text w)).result r).1 =
        .ok ⟨.text "k", ofString "mock-key-1"⟩ ∧
      ((Registry.unwrap (.text "b") (.text w)).result r).1 =
        .error (.groupAuthorization (.otherGroup (.text "b"))) ∧
      ((Registry.lookup (.text "c")).result r).1 =
        .error (.groupAuthorization (.notMember (.text "c"))) := by
  intro calls r
  have hwrap : (Registry.wrap (.text "a:b") (.text "k")).result (registryAfter [.text "c"] []) = _ :=
    wrap_encodable (orderly_start [.text "c"]) (by decide)
      (wrapping_of_surrogateFree (by decide) (by decide) 0)
  have horderly : Orderly (registryAfter [.text "c"] [.wrap "a:b" "k"]) ["a:b"] :=
    (historic [.text "c"] [.wrap "a:b" "k"]).orderly
  have hwrap' : (Registry.wrap (.text "b") (.text "k:a")).result
      (registryAfter [.text "c"] [.wrap "a:b" "k"]) = _ :=
    wrap_encodable horderly
      (by rw [isDenied_eq (historic _ _).refuses]; decide)
      (wrapping_of_surrogateFree (by decide) (by decide) 1)
  have hfirst : WrappedBy [.text "c"] calls "a:b" "k" _ :=
    ⟨[], [.wrap "b" "k:a"], _, rfl, congrArg Prod.fst hwrap⟩
  have hsecond : WrappedBy [.text "c"] calls "b" "k:a" _ :=
    ⟨[.wrap "a:b" "k"], [], _, rfl, congrArg Prod.fst hwrap'⟩
  obtain ⟨-, -, -, -, -, -, hinj, hunwrap, -, hrefuses, hdenied, -⟩ :=
    registry_of_any_history [.text "c"] calls
  obtain ⟨hown, hother⟩ := hunwrap [] _ _ _ _ _ rfl (congrArg Prod.fst hwrap)
  refine ⟨_, _, hfirst, hsecond, ?_, hown, hother _ (by decide) ?_, ?_⟩
  · intro hsame
    exact absurd ((hinj _ _ _ _ _ _ hfirst hsecond).mp hsame).1 (by decide)
  · rw [isDenied_eq hrefuses]
    decide
  · have hc : r.isDenied (.text "c") = true := by
      rw [isDenied_eq hrefuses]
      decide
    rw [(hdenied _ [] hc).2.2]

end EnvelopeStore.Proofs
