import EnvelopeStore.TrustAnchor.Registry
import EnvelopeStore.Proofs.Actions
import EnvelopeStore.Proofs.Base64
import EnvelopeStore.Proofs.Bindings
import EnvelopeStore.Proofs.Pairs
import EnvelopeStore.Proofs.Utf8
import Mathlib.Data.List.Basic
import Std.Data.String.ToNat

/-!
# The registry

`Orderly r groups` is what every operation of a registry keeps, where `groups` are the groups that
have a key id, in the order of first use. Under it a wrapped key tells the key and the group that it
was made from, so that the registry never mistakes one wrapped key for another.
-/

namespace EnvelopeStore.Proofs
open Text

/-! ### Key ids -/

/-- The key id of the group that comes after `n` others. -/
def keyIdAt (n : Nat) : Text := "mock-key-" ++ Text.ofNat (n + 1)

/-- The key ids of groups in the order of first use. -/
def groupKeyIds (groups : List Text) : Bindings Text :=
  groups.zipIdx.map fun entry => (.text entry.1, keyIdAt entry.2)

/-- The key id of a group, which is the next one for a group without any. -/
def keyIdOf (groups : List Text) (group : Text) : Text := keyIdAt (groups.idxOf group)

lemma keyIdOf_enroll {groups : List Text} {group other : Text} (h : other ∈ groups) :
    keyIdOf (enroll groups group) other = keyIdOf groups other := by
  rw [keyIdOf, keyIdOf, enroll]
  split
  · rfl
  · rw [List.idxOf_append_of_mem h]

lemma keyIdOf_enroll_self (groups : List Text) (group : Text) :
    keyIdOf (enroll groups group) group = keyIdOf groups group := by
  by_cases h : group ∈ groups
  · exact keyIdOf_enroll h
  · rw [keyIdOf, keyIdOf, enroll, if_neg h, List.idxOf_append_of_notMem h, List.idxOf_of_notMem h,
      List.idxOf_cons_self, Nat.add_zero]

lemma get?_groupKeyIds_from (groups : List Text) (group : Text) (start : Nat) :
    Bindings.get? ((groups.zipIdx start).map fun entry => (.text entry.1, keyIdAt entry.2))
      (.text group) =
      if group ∈ groups then some (keyIdAt (start + groups.idxOf group)) else none := by
  induction groups generalizing start with
  | nil => simp [Bindings.get?]
  | cons first rest ih =>
    by_cases h : first = group
    · simp [Bindings.get?, h]
    · have hne : group ≠ first := Ne.symm h
      have hadd : start + 1 + rest.idxOf group = start + (rest.idxOf group + 1) := by omega
      simp [Bindings.get?, h, hne, ih, List.idxOf_cons_ne, hadd]

lemma get?_groupKeyIds (groups : List Text) (group : Text) :
    (groupKeyIds groups).get? (.text group) =
      if group ∈ groups then some (keyIdOf groups group) else none := by
  rw [groupKeyIds, get?_groupKeyIds_from, keyIdOf, Nat.zero_add]

lemma insert_groupKeyIds {groups : List Text} {group : Text} (h : group ∉ groups) :
    (groupKeyIds groups).insert (.text group) (keyIdAt groups.length) =
      groupKeyIds (groups ++ [group]) := by
  have hnone : (groupKeyIds groups).get? (.text group) = none := by
    rw [get?_groupKeyIds, if_neg h]
  rw [insert_of_get?_eq_none hnone]
  simp [groupKeyIds, List.zipIdx_append]

/-! ### Wrapped keys -/

/-- The text of a wrapped key. -/
def wrapping (key group keyId : Text) : Except EncodeFault Text :=
  match Utf8.encode (Registry.marker (.text key) (.text group) keyId) with
  | .error fault => .error fault
  | .ok bytes => .ok (Base64.encode bytes)

lemma append_cons_inj {α : Type} {a : α} {xs xs' ys ys' : List α} (h : a ∉ xs) (h' : a ∉ xs')
    (he : xs ++ a :: ys = xs' ++ a :: ys') : xs = xs' ∧ ys = ys' := by
  induction xs generalizing xs' with
  | nil =>
    cases xs' with
    | nil => exact ⟨rfl, (List.cons.inj he).2⟩
    | cons x' rest' =>
      obtain rfl := (List.cons.inj he).1
      exact absurd List.mem_cons_self h'
  | cons x rest ih =>
    cases xs' with
    | nil =>
      obtain rfl := (List.cons.inj he).1
      exact absurd List.mem_cons_self h
    | cons x' rest' =>
      simp only [List.cons_append, List.cons.injEq, List.mem_cons, not_or] at he h h'
      obtain ⟨hrest, hys⟩ := ih h.2 h'.2 he.2
      exact ⟨by rw [he.1, hrest], hys⟩

def separator : CodePoint := CodePoint.ofChar ':'

lemma ofChar_eq_iff {a b : Char} : CodePoint.ofChar a = CodePoint.ofChar b ↔ a = b :=
  ⟨CodePoint.ofChar_injective, congrArg _⟩

lemma ofNat_injective {m n : Nat} (h : Text.ofNat m = Text.ofNat n) : m = n := by
  have hlist : (Nat.repr m).toList = (Nat.repr n).toList :=
    List.map_injective_iff.mpr (fun _ _ => CodePoint.ofChar_injective) h
  exact Nat.repr_injective (String.toList_injective hlist)

lemma separator_notMem_ofNat (n : Nat) : separator ∉ Text.ofNat n := by
  rw [Text.ofNat, Text.ofString, separator, List.mem_map]
  rintro ⟨c, hc, he⟩
  rw [ofChar_eq_iff] at he
  rw [Nat.toList_repr] at hc
  have hdigit := Nat.isDigit_of_mem_toDigits (by decide) (by decide) hc
  rw [he] at hdigit
  exact absurd hdigit (by decide)

lemma keyIdAt_injective {m n : Nat} (h : keyIdAt m = keyIdAt n) : m = n := by
  have hnumber := List.append_cancel_left h
  have := ofNat_injective hnumber
  omega

lemma separator_notMem_keyIdAt (n : Nat) : separator ∉ keyIdAt n := by
  rw [keyIdAt, List.mem_append, not_or]
  exact ⟨by decide, separator_notMem_ofNat _⟩

lemma marker_eq (key group keyId : Text) :
    Registry.marker (.text key) (.text group) keyId =
      (Text.ofString "wrapped:" ++ key ++ separator :: group) ++ separator :: keyId := by
  simp only [Registry.marker, Value.display, List.append_assoc]
  rfl

/-- The key id comes after the last mark, and the key id tells the group. -/
lemma marker_inj {groups : List Text} {key key' group group' : Text} (hg : group ∈ groups)
    (h : Registry.marker (.text key) (.text group) (keyIdOf groups group) =
      Registry.marker (.text key') (.text group') (keyIdOf groups group')) :
    key = key' ∧ group = group' := by
  rw [marker_eq, marker_eq] at h
  have hreverse := congrArg List.reverse h
  simp only [List.reverse_append, List.reverse_cons, List.append_assoc,
    List.singleton_append] at hreverse
  obtain ⟨hid, hrest⟩ := append_cons_inj
    (by rw [List.mem_reverse]; exact separator_notMem_keyIdAt _)
    (by rw [List.mem_reverse]; exact separator_notMem_keyIdAt _) hreverse
  have hgroup : group = group' :=
    (List.idxOf_inj hg).mp (keyIdAt_injective (List.reverse_injective hid))
  subst hgroup
  refine ⟨?_, rfl⟩
  simpa using hrest

lemma wrapping_inj {groups : List Text} {key key' group group' wrapped : Text} (hg : group ∈ groups)
    (h : wrapping key group (keyIdOf groups group) = .ok wrapped)
    (h' : wrapping key' group' (keyIdOf groups group') = .ok wrapped) :
    key = key' ∧ group = group' := by
  rw [wrapping] at h h'
  split at h
  · simp at h
  · next bytes hbytes =>
    split at h'
    · simp at h'
    · next bytes' hbytes' =>
      have hw : Base64.encode bytes = Base64.encode bytes' :=
        (Except.ok.inj h).trans (Except.ok.inj h').symm
      rw [base64_encode_injective hw, ← utf8_decode_eq_ok_iff] at hbytes
      rw [← utf8_decode_eq_ok_iff, hbytes] at hbytes'
      exact marker_inj hg (Except.ok.inj hbytes')

/-- A key is wrapped for a group unless one of them holds a surrogate. -/
lemma wrapping_of_surrogateFree {key group : Text} (hk : SurrogateFree key)
    (hg : SurrogateFree group) (n : Nat) :
    wrapping key group (keyIdAt n) = .ok (Base64.encode
      ((Registry.marker (.text key) (.text group) (keyIdAt n)).flatMap Utf8.encodeChar)) := by
  have hid : SurrogateFree (keyIdAt n) :=
    surrogateFree_append (surrogateFree_ofString _) (surrogateFree_ofString _)
  have hmarker : SurrogateFree (Registry.marker (.text key) (.text group) (keyIdAt n)) := by
    refine surrogateFree_append ?_ hid
    refine surrogateFree_append ?_ (surrogateFree_ofString _)
    refine surrogateFree_append ?_ hg
    refine surrogateFree_append ?_ (surrogateFree_ofString _)
    exact surrogateFree_append (surrogateFree_ofString _) hk
  rw [wrapping, utf8_encode_eq_ok_iff.mpr ⟨hmarker, rfl⟩]

/-! ### Operations -/

/-- A registry that was only ever asked about texts. -/
structure Orderly (r : Registry) (groups : List Text) : Prop where
  keyIds : r.keyIds = groupKeyIds groups
  wrapped : ∀ w v, (w, v) ∈ r.wrapped → ∃ key group, v = (.text key, .text group) ∧
    group ∈ groups ∧ wrapping key group (keyIdOf groups group) = .ok w

lemma orderly_start (denied : List Value) : Orderly (Registry.start denied) [] := by
  refine ⟨rfl, ?_⟩
  intro w v h
  simp [Registry.start] at h

section

variable {r : Registry} {groups : List Text} {group : Text}

lemma authorize_denied (calls : CallCount) (h : r.isDenied (.text group) = true) :
    (Registry.authorize (.text group)).result { r with calls := calls } =
      (.error (.groupAuthorization (.notMember (.text group))), { r with calls := calls }) := by
  have hdenied : Registry.isDenied { r with calls := calls } (.text group) = true := h
  simp only [Registry.authorize, Value.checkKey_text, Action.ofExcept_ok]
  rw [result_bind_of_ok (result_pure _ _), result_bind_of_ok (result_get _)]
  simp only [hdenied, if_true, result_throw]

lemma authorize_allowed (calls : CallCount) (h : r.isDenied (.text group) = false) :
    (Registry.authorize (.text group)).result { r with calls := calls } =
      (.ok ⟨⟩, { r with calls := calls }) := by
  have hallowed : Registry.isDenied { r with calls := calls } (.text group) = false := h
  simp only [Registry.authorize, Value.checkKey_text, Action.ofExcept_ok]
  rw [result_bind_of_ok (result_pure _ _), result_bind_of_ok (result_get _)]
  simp only [hallowed, Bool.false_eq_true, if_false, result_pure]

lemma keyIdFor_result (calls : CallCount) (h : r.keyIds = groupKeyIds groups) :
    (Registry.keyIdFor (.text group)).result { r with calls := calls } =
      (.ok (keyIdOf groups group),
        { r with keyIds := groupKeyIds (enroll groups group), calls := calls }) := by
  simp only [Registry.keyIdFor]
  rw [result_bind_of_ok (result_get _), h, get?_groupKeyIds]
  by_cases hg : group ∈ groups
  · simp only [if_pos hg, result_pure, enroll, ← h]
  · have hnext : Registry.nextKeyId { r with calls := calls } = keyIdAt groups.length := by
      simp [Registry.nextKeyId, keyIdAt, h, groupKeyIds]
    simp only [if_neg hg]
    rw [result_bind_of_ok (result_set _ _), result_pure, ← h, hnext, h, insert_groupKeyIds hg,
      enroll, if_neg hg, keyIdOf, List.idxOf_of_notMem hg]

lemma lookup_denied (h : r.isDenied (.text group) = true) :
    (Registry.lookup (.text group)).result r =
      (.error (.groupAuthorization (.notMember (.text group))),
        { r with calls := { r.calls with lookup := r.calls.lookup + 1 } }) := by
  simp only [Registry.lookup]
  rw [result_bind_of_ok (result_modify _ _), result_bind_of_error (authorize_denied _ h)]

lemma lookup_allowed (hr : Orderly r groups) (h : r.isDenied (.text group) = false) :
    (Registry.lookup (.text group)).result r =
      (.ok (keyIdOf groups group),
        { r with
          keyIds := groupKeyIds (enroll groups group)
          calls := { r.calls with lookup := r.calls.lookup + 1 } }) := by
  simp only [Registry.lookup]
  rw [result_bind_of_ok (result_modify _ _), result_bind_of_ok (authorize_allowed _ h),
    keyIdFor_result _ hr.keyIds]

variable {key wrapped : Text}

lemma wrap_denied (h : r.isDenied (.text group) = true) :
    (Registry.wrap (.text group) (.text key)).result r =
      (.error (.groupAuthorization (.notMember (.text group))),
        { r with calls := { r.calls with wrap := r.calls.wrap + 1 } }) := by
  simp only [Registry.wrap]
  rw [result_bind_of_ok (result_modify _ _), result_bind_of_error (authorize_denied _ h)]

lemma wrap_unencodable {fault : EncodeFault} (hr : Orderly r groups)
    (h : r.isDenied (.text group) = false)
    (hw : wrapping key group (keyIdOf groups group) = .error fault) :
    (Registry.wrap (.text group) (.text key)).result r =
      (.error (.unencodable fault),
        { r with
          keyIds := groupKeyIds (enroll groups group)
          calls := { r.calls with wrap := r.calls.wrap + 1 } }) := by
  rw [wrapping] at hw
  split at hw
  · next hfault =>
    obtain rfl := Except.error.inj hw
    simp only [Registry.wrap]
    rw [result_bind_of_ok (result_modify _ _), result_bind_of_ok (authorize_allowed _ h),
      result_bind_of_ok (keyIdFor_result _ hr.keyIds)]
    simp only [hfault, result_throw]
  · simp at hw

lemma wrap_encodable (hr : Orderly r groups) (h : r.isDenied (.text group) = false)
    (hw : wrapping key group (keyIdOf groups group) = .ok wrapped) :
    (Registry.wrap (.text group) (.text key)).result r =
      (.ok ⟨wrapped, keyIdOf groups group⟩,
        { r with
          wrapped := (wrapped, (.text key, .text group)) :: r.wrapped
          keyIds := groupKeyIds (enroll groups group)
          calls := { r.calls with wrap := r.calls.wrap + 1 } }) := by
  rw [wrapping] at hw
  split at hw
  · simp at hw
  · next hbytes =>
    obtain rfl := Except.ok.inj hw
    simp only [Registry.wrap]
    rw [result_bind_of_ok (result_modify _ _), result_bind_of_ok (authorize_allowed _ h),
      result_bind_of_ok (keyIdFor_result _ hr.keyIds)]
    simp only [hbytes]
    rw [result_bind_of_ok (result_modify _ _), result_pure]

lemma unwrap_denied (h : r.isDenied (.text group) = true) :
    (Registry.unwrap (.text group) (.text wrapped)).result r =
      (.error (.groupAuthorization (.notMember (.text group))),
        { r with calls := { r.calls with unwrap := r.calls.unwrap + 1 } }) := by
  simp only [Registry.unwrap]
  rw [result_bind_of_ok (result_modify _ _), result_bind_of_error (authorize_denied _ h)]

lemma find_text (w : Text) :
    r.find (.text w) =
      match r.wrapped.lookup w with
      | some found => .ok found
      | none => .error (.trustAnchor .notRecognized) := by
  simp only [Registry.find, Value.checkKey_text, Value.text?, Option.bind_some]
  cases r.wrapped.lookup w <;> rfl

lemma unwrap_unknown (h : r.isDenied (.text group) = false) (hw : r.wrapped.lookup wrapped = none) :
    (Registry.unwrap (.text group) (.text wrapped)).result r =
      (.error (.trustAnchor .notRecognized),
        { r with calls := { r.calls with unwrap := r.calls.unwrap + 1 } }) := by
  simp only [Registry.unwrap]
  rw [result_bind_of_ok (result_modify _ _), result_bind_of_ok (authorize_allowed _ h),
    result_bind_of_ok (result_get _), find_text]
  simp only [hw, Action.ofExcept_error]
  rw [result_bind_of_error (result_throw _ _)]

variable {owner : Text}

lemma unwrap_other (h : r.isDenied (.text group) = false)
    (hw : r.wrapped.lookup wrapped = some (.text key, .text owner)) (hne : owner ≠ group) :
    (Registry.unwrap (.text group) (.text wrapped)).result r =
      (.error (.groupAuthorization (.otherGroup (.text group))),
        { r with calls := { r.calls with unwrap := r.calls.unwrap + 1 } }) := by
  have hother : Value.isSame (.text owner) (.text group) = false := by
    simpa [Value.isSame] using hne
  simp only [Registry.unwrap]
  rw [result_bind_of_ok (result_modify _ _), result_bind_of_ok (authorize_allowed _ h),
    result_bind_of_ok (result_get _), find_text]
  simp only [hw, Action.ofExcept_ok]
  rw [result_bind_of_ok (result_pure _ _)]
  simp only [hother, Bool.not_false, if_true]
  rw [result_bind_of_error (result_throw _ _)]

lemma unwrap_own (hr : Orderly r groups) (h : r.isDenied (.text group) = false)
    (hw : r.wrapped.lookup wrapped = some (.text key, .text group)) :
    (Registry.unwrap (.text group) (.text wrapped)).result r =
      (.ok ⟨.text key, keyIdOf groups group⟩,
        { r with calls := { r.calls with unwrap := r.calls.unwrap + 1 } }) := by
  have hown : Value.isSame (.text group) (.text group) = true := by simp
  obtain ⟨key', group', hv, hmem, -⟩ := hr.wrapped _ _ (mem_of_lookup hw)
  obtain rfl : group = group' := by simpa using congrArg Prod.snd hv
  have hfind : Bindings.find r.keyIds (.text group) = .ok (keyIdOf groups group) := by
    rw [Bindings.find, Bindings.lookup_text, hr.keyIds, get?_groupKeyIds, if_pos hmem]
  simp only [Registry.unwrap]
  rw [result_bind_of_ok (result_modify _ _), result_bind_of_ok (authorize_allowed _ h),
    result_bind_of_ok (result_get _), find_text]
  simp only [hw, Action.ofExcept_ok]
  rw [result_bind_of_ok (result_pure _ _)]
  simp only [hown, Bool.not_true, Bool.false_eq_true, if_false]
  rw [result_bind_of_ok (result_get _), hfind, Action.ofExcept_ok,
    result_bind_of_ok (result_pure _ _), result_pure]

/-- What unwrapping for a group comes to, told without its steps. -/
lemma unwrap_cases (hr : Orderly r groups) (group wrapped : Text) :
    ∃ calls, ((Registry.unwrap (.text group) (.text wrapped)).result r).2 =
        { r with calls := calls } ∧
      ((∃ fault, ((Registry.unwrap (.text group) (.text wrapped)).result r).1 =
          .error (.groupAuthorization fault)) ∨
        (∃ fault, ((Registry.unwrap (.text group) (.text wrapped)).result r).1 =
          .error (.trustAnchor fault)) ∨
        ∃ key, r.wrapped.lookup wrapped = some (.text key, .text group) ∧
          ((Registry.unwrap (.text group) (.text wrapped)).result r).1 =
            .ok ⟨.text key, keyIdOf groups group⟩) := by
  refine ⟨{ r.calls with unwrap := r.calls.unwrap + 1 }, ?_⟩
  by_cases hdenied : r.isDenied (.text group) = true
  · rw [unwrap_denied hdenied]
    exact ⟨rfl, .inl ⟨_, rfl⟩⟩
  · have hallowed : r.isDenied (.text group) = false := by simpa using hdenied
    cases hw : r.wrapped.lookup wrapped with
    | none =>
      rw [unwrap_unknown hallowed hw]
      exact ⟨rfl, .inr (.inl ⟨_, rfl⟩)⟩
    | some v =>
      obtain ⟨key, owner, rfl, -, -⟩ := hr.wrapped _ _ (mem_of_lookup hw)
      by_cases howner : owner = group
      · subst howner
        rw [unwrap_own hr hallowed hw]
        exact ⟨rfl, .inr (.inr ⟨key, rfl, rfl⟩)⟩
      · rw [unwrap_other hallowed hw howner]
        exact ⟨rfl, .inl ⟨_, rfl⟩⟩

/-! ### Preservation -/

lemma orderly_calls (calls : CallCount) (hr : Orderly r groups) :
    Orderly { r with calls := calls } groups :=
  ⟨hr.keyIds, hr.wrapped⟩

lemma orderly_enroll (calls : CallCount) (hr : Orderly r groups) :
    Orderly { r with keyIds := groupKeyIds (enroll groups group), calls := calls }
      (enroll groups group) := by
  refine ⟨rfl, ?_⟩
  intro w v hv
  obtain ⟨key, owner, rfl, howner, hw⟩ := hr.wrapped w v hv
  refine ⟨key, owner, rfl, mem_enroll_of_mem howner, ?_⟩
  rwa [keyIdOf_enroll howner]

lemma orderly_record (calls : CallCount) (hr : Orderly r groups)
    (hw : wrapping key group (keyIdOf groups group) = .ok wrapped) :
    Orderly { r with
      wrapped := (wrapped, (.text key, .text group)) :: r.wrapped
      keyIds := groupKeyIds (enroll groups group)
      calls := calls } (enroll groups group) := by
  refine ⟨rfl, ?_⟩
  intro w v hv
  obtain hnew | hold := List.mem_cons.mp hv
  · obtain ⟨rfl, rfl⟩ := Prod.mk.inj hnew
    exact ⟨key, group, rfl, mem_enroll, by rwa [keyIdOf_enroll_self]⟩
  · exact (orderly_enroll calls hr).wrapped w v hold

lemma lookup_record {w : Text} {v : Value × Value} (hr : Orderly r groups)
    (hw : wrapping key group (keyIdOf groups group) = .ok wrapped)
    (h : r.wrapped.lookup w = some v) :
    List.lookup w ((wrapped, (.text key, .text group)) :: r.wrapped) = some v := by
  rw [List.lookup_cons]
  by_cases hsame : w = wrapped
  · obtain ⟨key', group', rfl, hmem, hw'⟩ := hr.wrapped _ _ (mem_of_lookup h)
    rw [hsame] at hw'
    obtain ⟨rfl, rfl⟩ := wrapping_inj hmem hw' hw
    simp [hsame]
  · have hother : (w == wrapped) = false := beq_false_of_ne hsame
    simp [hother, h]

end

end EnvelopeStore.Proofs
