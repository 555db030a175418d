import EnvelopeStore.Proofs.Records

/-!
# The canonical form of records

Whatever text without surrogates a record is read from, and however its version and its strings are
spelled there, the record is in the current format and has no pairs of surrogates in its texts. So
it is what its own document is read as, and that document is a fixed form of all the texts for it.
-/

namespace EnvelopeStore.Proofs
open Json

/-! ### Strings -/

section

variable {read t u s rest : Text} {c : CodePoint}

lemma SurrogateFree.of_suffix (ht : SurrogateFree t) (h : u <:+ t) : SurrogateFree u :=
  fun c hc => ht c (h.subset hc)

lemma not_half_of_not_surrogate (h : c.isSurrogate = false) :
    c.isHighSurrogate = false ∧ c.isLowSurrogate = false := by
  simp only [CodePoint.isSurrogate, CodePoint.isHighSurrogate, CodePoint.isLowSurrogate,
    Bool.and_eq_false_iff, decide_eq_false_iff_not] at h ⊢
  omega

lemma pair_not_surrogate {a b : CodePoint} (ha : a.isHighSurrogate = true)
    (hb : b.isLowSurrogate = true) : (CodePoint.pair a b).isSurrogate = false := by
  simp only [CodePoint.isHighSurrogate, CodePoint.isLowSurrogate, Bool.and_eq_true,
    decide_eq_true_eq] at ha hb
  have hval : (CodePoint.pair a b).val =
      0x10000 + (a.val - 0xD800) * 0x400 + (b.val - 0xDC00) := CodePoint.val_ofNat (by omega)
  simp only [CodePoint.isSurrogate, hval, Bool.and_eq_false_iff, decide_eq_false_iff_not]
  omega

lemma noLowNext_of_high (h : EscapeRead t c rest) (hc : c.isHighSurrogate = true) :
    NoLowNext rest := by
  cases h with
  | short e _ hascii =>
    simp only [CodePoint.isHighSurrogate, Bool.and_eq_true, decide_eq_true_eq] at hc
    omega
  | unicode hread =>
    cases unicodeRead_of_eq hread with
    | single _ _ hnext => exact hnext hc
    | paired _ _ _ hhigh hlow =>
      have hnone := not_half_of_not_surrogate (pair_not_surrogate hhigh hlow)
      simp [hnone.1] at hc

lemma not_low_of_noLowNext (h : EscapeRead t c rest)
    (hnext : NoLowNext (CodePoint.ofChar '\\' :: t)) : c.isLowSurrogate = false := by
  cases h with
  | short e _ hascii =>
    simp only [CodePoint.isLowSurrogate, Bool.and_eq_false_iff, decide_eq_false_iff_not]
    omega
  | unicode hread =>
    cases unicodeRead_of_eq hread with
    | single hread hrest _ =>
      have hleft := (hex4?_eq_some hread).1
      exact hnext _ _ _ (secondEscape?_eq_some_iff.mpr ⟨rfl, hleft ▸ hrest⟩) hread
    | paired _ _ _ hhigh hlow =>
      exact (not_half_of_not_surrogate (pair_not_surrogate hhigh hlow)).2

/-- What a reader of strings keeps: it has read no pair, and after a high surrogate no low one
follows. The characters read stand in reverse order. -/
structure Unjoined (read t : Text) : Prop where
  no_pair : ¬HasPair read.reverse
  next : ∀ c ∈ read.head?, c.isHighSurrogate = true → NoLowNext t

lemma not_hasPair_cons (h : ¬HasPair read.reverse)
    (hlast : ∀ a ∈ read.head?, a.isHighSurrogate = true → c.isLowSurrogate = false) :
    ¬HasPair (c :: read).reverse := by
  rintro ⟨a, b, hinfix, ha, hb⟩
  have hreversed : [b, a] <:+: c :: read := List.reverse_infix.mp hinfix
  rw [List.infix_cons_iff, List.cons_prefix_cons] at hreversed
  obtain ⟨rfl, hprefix⟩ | hinside := hreversed
  · have hhead : a ∈ read.head? := by
      obtain ⟨more, rfl⟩ := hprefix
      rfl
    simp [hlast a hhead ha] at hb
  · exact h ⟨a, b, List.reverse_infix.mpr hinside, ha, hb⟩

lemma Unjoined.escape (h : Unjoined read (CodePoint.ofChar '\\' :: t))
    (hescape : EscapeRead t c u) : Unjoined (c :: read) u where
  no_pair := not_hasPair_cons h.no_pair fun a ha hhigh =>
    not_low_of_noLowNext hescape (h.next a ha hhigh)
  next := by
    rintro a ⟨rfl⟩ hhigh
    exact noLowNext_of_high hescape hhigh

lemma Unjoined.plain (h : Unjoined read (c :: t)) (hc : c.isSurrogate = false) :
    Unjoined (c :: read) t where
  no_pair := not_hasPair_cons h.no_pair fun _ _ _ => (not_half_of_not_surrogate hc).2
  next := by
    rintro a ⟨rfl⟩ hhigh
    simp [(not_half_of_not_surrogate hc).1] at hhigh

lemma not_hasPair_of_stringRead (h : StringRead read t s rest) (ht : SurrogateFree t)
    (hread : Unjoined read t) : ¬HasPair s := by
  induction h with
  | close => exact hread.no_pair
  | escape hescape _ ih =>
    have hinside := ht.of_suffix (List.suffix_cons _ _)
    exact ih (hinside.of_suffix hescape.suffix) (hread.escape hescape)
  | plain _ _ ih =>
    have hc := ht _ List.mem_cons_self
    exact ih (ht.of_suffix (List.suffix_cons _ _)) (hread.plain hc)

lemma joinPairs_of_stringRead (h : StringRead [] t s rest) (ht : SurrogateFree t) :
    Text.joinPairs s = s := by
  refine joinPairs_eq_self_iff.mpr (not_hasPair_of_stringRead h ht ⟨?_, ?_⟩)
  · rintro ⟨a, b, hinfix, -⟩
    simp at hinfix
  · simp

end

/-! ### Values -/

lemma settledItems_iff {items : List Value} : SettledItems items ↔ ∀ v ∈ items, Settled v := by
  induction items with
  | nil => simp [SettledItems]
  | cons v rest ih => rw [SettledItems, ih, List.forall_mem_cons]

def SettledField (field : Text × Value) : Prop :=
  Text.joinPairs field.1 = field.1 ∧ Settled field.2

lemma settledFields_iff {fields : Fields} :
    SettledFields fields ↔ ∀ field ∈ fields, SettledField field := by
  induction fields with
  | nil => simp [SettledFields]
  | cons field rest ih => rw [SettledFields, ih, List.forall_mem_cons, SettledField, and_assoc]

lemma names_put_of_mem {fields : Fields} {name : Text} (h : name ∈ fields.map Prod.fst)
    (v : Value) : (fields.put name v).map Prod.fst = fields.map Prod.fst := by
  induction fields with
  | nil => simp at h
  | cons field rest ih =>
    rw [Fields.put]
    split
    · rfl
    · next hne =>
      rw [List.map_cons, List.mem_cons, or_iff_right (Ne.symm hne)] at h
      rw [List.map_cons, ih h, List.map_cons]

lemma nodup_put {fields : Fields} (h : (fields.map Prod.fst).Nodup) (name : Text) (v : Value) :
    ((fields.put name v).map Prod.fst).Nodup := by
  by_cases hmem : name ∈ fields.map Prod.fst
  · rwa [names_put_of_mem hmem]
  · rw [put_of_notMem hmem, List.map_append, List.nodup_append]
    refine ⟨h, List.pairwise_singleton _ _, fun other hother last hlast => ?_⟩
    obtain rfl := List.mem_singleton.mp hlast
    rintro rfl
    exact hmem hother

lemma mem_put {fields : Fields} {name : Text} {v : Value} {field : Text × Value}
    (h : field ∈ fields.put name v) : field = (name, v) ∨ field ∈ fields := by
  induction fields with
  | nil => exact .inl (List.mem_singleton.mp h)
  | cons other rest ih =>
    obtain ⟨n, w⟩ := other
    rw [Fields.put] at h
    split at h
    · next heq =>
      subst heq
      obtain rfl | hrest := List.mem_cons.mp h
      · exact .inl rfl
      · exact .inr (List.mem_cons_of_mem _ hrest)
    · obtain rfl | hput := List.mem_cons.mp h
      · exact .inr List.mem_cons_self
      · exact (ih hput).imp_right (List.mem_cons_of_mem _)

lemma ofList_cases (pairs : Fields) :
    ((Fields.ofList pairs).map Prod.fst).Nodup ∧ ∀ field ∈ Fields.ofList pairs, field ∈ pairs := by
  have hfold : ∀ (pairs done : Fields), (done.map Prod.fst).Nodup →
      let fields := pairs.foldl (fun fields pair => fields.put pair.1 pair.2) done
      (fields.map Prod.fst).Nodup ∧ ∀ field ∈ fields, field ∈ done ∨ field ∈ pairs := by
    intro pairs
    induction pairs with
    | nil => exact fun done hnodup => ⟨hnodup, fun _ => .inl⟩
    | cons pair rest ih =>
      intro done hnodup
      obtain ⟨hfields, hmem⟩ := ih _ (nodup_put hnodup pair.1 pair.2)
      refine ⟨hfields, fun field hfield => ?_⟩
      obtain hput | hrest := hmem field hfield
      · obtain rfl | hdone := mem_put hput
        · exact .inr List.mem_cons_self
        · exact .inl hdone
      · exact .inr (List.mem_cons_of_mem _ hrest)
  obtain ⟨hnodup, hmem⟩ := hfold pairs [] List.nodup_nil
  exact ⟨hnodup, fun field hfield => (hmem field hfield).resolve_left List.not_mem_nil⟩

lemma settled_ofList {pairs : Fields} (h : ∀ field ∈ pairs, SettledField field) :
    Settled (.object (Fields.ofList pairs)) := by
  obtain ⟨hnodup, hmem⟩ := ofList_cases pairs
  exact ⟨hnodup, settledFields_iff.mpr fun field hfield => h field (hmem field hfield)⟩

lemma settled_of_isPlain {v : Value} (h : isPlain v = true) : Settled v := by
  cases v <;> simp_all [isPlain, Settled]

lemma FieldRead.settled_of {fuel room : Nat} {t name rest : Text} {v : Value}
    (h : FieldRead fuel room t name v rest) (ht : SurrogateFree t)
    (hread : ∀ {t}, SurrogateFree t → readValue fuel room t = .ok (v, rest) → Settled v) :
    SettledField (name, v) := by
  cases h with
  | mk hname hcolon hvalue =>
    have hinside := ht.of_suffix (List.suffix_cons _ _)
    have hcolon := (hinside.of_suffix hname.suffix).of_suffix (suffix_of_skipBlanks hcolon)
    exact ⟨joinPairs_of_stringRead hname hinside,
      hread (hcolon.of_suffix (skipBlanks_suffix _)) hvalue⟩

mutual

/-- What is read from a text without surrogates comes back as it is when it is written. -/
lemma settled_readValue {fuel room : Nat} {t rest : Text} {v : Value} (ht : SurrogateFree t)
    (h : readValue fuel room t = .ok (v, rest)) : Settled v := by
  match fuel with
  | 0 => simp [readValue] at h
  | fuel + 1 =>
    cases valueRead_of_eq h with
    | text hs => exact joinPairs_of_stringRead hs (ht.of_suffix (List.suffix_cons _ _))
    | noItems => trivial
    | items inner hitems =>
      have hinside := (ht.of_suffix (List.suffix_cons _ _)).of_suffix (skipBlanks_suffix _)
      exact settled_readItems hinside (by simp) hitems
    | noFields => exact ⟨List.nodup_nil, trivial⟩
    | fields inner hfields =>
      have hinside := (ht.of_suffix (List.suffix_cons _ _)).of_suffix (skipBlanks_suffix _)
      exact settled_readFields hinside (by simp) hfields
    | plain hplain => exact settled_of_isPlain hplain

lemma settled_readItems {fuel room : Nat} {read : List Value} {t rest : Text} {v : Value}
    (ht : SurrogateFree t) (hread : ∀ w ∈ read, Settled w)
    (h : readItems fuel room read t = .ok (v, rest)) : Settled v := by
  match fuel with
  | 0 => simp [readItems] at h
  | fuel + 1 =>
    cases itemsRead_of_eq h with
    | last hvalue =>
      have hitem := settled_readValue ht hvalue
      refine settledItems_iff.mpr fun w hw => ?_
      exact List.forall_mem_cons.mpr ⟨hitem, hread⟩ w (List.mem_reverse.mp hw)
    | next hvalue hcomma hmore =>
      have hitem := settled_readValue ht hvalue
      have hleft := (ht.of_suffix (readValue_suffix hvalue)).of_suffix (suffix_of_skipBlanks hcomma)
      exact settled_readItems (hleft.of_suffix (skipBlanks_suffix _))
        (List.forall_mem_cons.mpr ⟨hitem, hread⟩) hmore

lemma settled_readFields {fuel room : Nat} {read : Fields} {t rest : Text} {v : Value}
    (ht : SurrogateFree t) (hread : ∀ field ∈ read, SettledField field)
    (h : readFields fuel room read t = .ok (v, rest)) : Settled v := by
  match fuel with
  | 0 => simp [readFields] at h
  | fuel + 1 =>
    cases fieldsRead_of_eq h with
    | last hfield =>
      have hsettled := hfield.settled_of ht fun hvalue => settled_readValue hvalue
      refine settled_ofList fun field hmem => ?_
      exact List.forall_mem_cons.mpr ⟨hsettled, hread⟩ field (List.mem_reverse.mp hmem)
    | next hfield hcomma hmore =>
      have hsettled := hfield.settled_of ht fun hvalue => settled_readValue hvalue
      have hleft := (ht.of_suffix hfield.suffix).of_suffix (suffix_of_skipBlanks hcomma)
      exact settled_readFields (hleft.of_suffix (skipBlanks_suffix _))
        (List.forall_mem_cons.mpr ⟨hsettled, hread⟩) hmore

end

theorem settled_of_read {t : Text} {v : Value} (ht : SurrogateFree t) (h : Json.read t = .ok v) :
    Settled v := by
  obtain ⟨rest, hread⟩ := readValue_of_read h
  exact settled_readValue (ht.of_suffix (skipBlanks_suffix t)) hread

/-! ### Records -/

lemma checkText_ok {name : Text} {v : Value} (h : Entry.checkText name v = .ok ()) :
    ∃ t, v = .text t := by
  unfold Entry.checkText at h
  split at h
  · exact ⟨_, rfl⟩
  · simp at h

lemma equalsText_iff {v : Value} {t : Text} : v.equalsText t = true ↔ v = .text t := by
  cases v <;> simp [Value.equalsText]

/-- The fields of an object give those of a record. -/
structure FieldsOf (fields : Fields) (e : Entry) : Prop where
  wrappedKey : fields.get? "wrapped_key" = some e.wrappedKey
  ciphertext : fields.get? "ciphertext" = some e.ciphertext
  keyId : fields.get? "key_id" = some e.keyId
  algorithm : fields.get? "algorithm" = some e.algorithm
  version : fields.get? "v" = some e.version

/-- What is accepted as the fields of a record makes one in the current format. -/
lemma ofFields_cases {fields : Fields} {e : Entry} (h : Entry.ofFields fields = .ok e) :
    FieldsOf fields e ∧ ∃ r : Record, e = r.entry := by
  unfold Entry.ofFields at h
  split at h
  · next wrappedKey ciphertext keyId algorithm version hwrapped hciphertext hid htext hnumber =>
    split at h
    · simp at h
    next halgorithm =>
    split at h
    · simp at h
    next hversion =>
    rw [Bool.not_eq_true, Bool.not_eq_false'] at halgorithm hversion
    obtain rfl := equalsText_iff.mp halgorithm
    cases hw : Entry.checkText "wrapped_key" wrappedKey with
    | error fault => simp [hw, bind, Except.bind] at h
    | ok =>
    cases hc : Entry.checkText "ciphertext" ciphertext with
    | error fault => simp [hw, hc, bind, Except.bind] at h
    | ok =>
    cases hk : Entry.checkText "key_id" keyId with
    | error fault => simp [hw, hc, hk, bind, Except.bind] at h
    | ok =>
    obtain ⟨wrapped, rfl⟩ := checkText_ok hw
    obtain ⟨sealed, rfl⟩ := checkText_ok hc
    obtain ⟨id, rfl⟩ := checkText_ok hk
    obtain rfl := Except.ok.inj h
    exact ⟨⟨hwrapped, hciphertext, hid, htext, hnumber⟩, ⟨wrapped, sealed, id, version, hversion⟩,
      rfl⟩
  · simp at h

lemma ofValue_cases {v : Value} {e : Entry} (h : Entry.ofValue v = .ok e) :
    ∃ fields, v = .object fields ∧ Entry.ofFields fields = .ok e := by
  unfold Entry.ofValue at h
  split at h
  · next fields => exact ⟨fields, rfl, h⟩
  · simp at h

lemma ofJson_cases {t : Text} {e : Entry} (h : Entry.ofJson (.text t) = .ok e) :
    ∃ fields, Json.read t = .ok (.object fields) ∧ Entry.ofFields fields = .ok e := by
  rw [Entry.ofJson] at h
  unfold Entry.ofDocument at h
  split at h
  · simp at h
  · simp at h
  next v hread =>
  split at h
  · simp at h
  next e' hvalue =>
  obtain rfl := Except.ok.inj h
  obtain ⟨fields, rfl, hfields⟩ := ofValue_cases hvalue
  exact ⟨fields, hread, hfields⟩

lemma not_hasPair_of_get? {fields : Fields} (h : Settled (.object fields)) {name t : Text}
    (hget : fields.get? name = some (.text t)) : ¬HasPair t := by
  obtain ⟨before, after, rfl, -⟩ := List.lookup_eq_some_iff.mp hget
  have hfield := settledFields_iff.mp h.2 (name, .text t) (by simp)
  exact joinPairs_eq_self_iff.mp hfield.2

lemma record_of_ofJson {t : Text} {e : Entry} (ht : SurrogateFree t)
    (h : Entry.ofJson (.text t) = .ok e) :
    (∃ fields, Json.read t = .ok (.object fields) ∧ FieldsOf fields e) ∧
      ∃ r : Record, e = r.entry ∧ r.Unpaired := by
  obtain ⟨fields, hread, hfields⟩ := ofJson_cases h
  obtain ⟨hnames, r, rfl⟩ := ofFields_cases hfields
  have hsettled := settled_of_read ht hread
  exact ⟨⟨fields, hread, hnames⟩, r, rfl, not_hasPair_of_get? hsettled hnames.wrappedKey,
    not_hasPair_of_get? hsettled hnames.ciphertext, not_hasPair_of_get? hsettled hnames.keyId⟩

/-- What is written for the record that a text is read as. -/
def rewritten (t : Text) : Except Failure Text := do (← Entry.ofJson (.text t)).toJson

def rewrittenTimes : Nat → Text → Except Failure Text
  | 0, t => .ok t
  | n + 1, t => do rewrittenTimes n (← rewritten t)

lemma rewritten_of_ofJson {t : Text} {e : Entry} (h : Entry.ofJson (.text t) = .ok e) :
    rewritten t = e.toJson := by
  rw [rewritten, h]
  rfl

lemma rewrittenTimes_succ {t u : Text} (h : rewritten t = .ok u) (n : Nat) :
    rewrittenTimes (n + 1) t = rewrittenTimes n u := by
  rw [rewrittenTimes, h]
  rfl

lemma rewrittenTimes_fixed {t : Text} (h : rewritten t = .ok t) (n : Nat) :
    rewrittenTimes n t = .ok t := by
  induction n with
  | zero => rfl
  | succ n ih => rw [rewrittenTimes_succ h, ih]

/-- A record that is read from a text without surrogates, however it is spelled there, is what the text
says, is in the current format and has no pair of surrogates in its texts. It is written as a text that
is read as the same record, and that rewriting leaves as it is. -/
theorem records_have_canonical_texts {t : Text} (ht : SurrogateFree t) {e : Entry}
    (h : Entry.ofJson (.text t) = .ok e) :
    (∃ fields, Json.read t = .ok (.object fields) ∧ FieldsOf fields e) ∧
      e.algorithm = .text "AES-256-GCM" ∧ e.version.equalsInt 1 = true ∧
      (∃ wrappedKey ciphertext keyId, e.wrappedKey = .text wrappedKey ∧
        e.ciphertext = .text ciphertext ∧ e.keyId = .text keyId ∧
        ¬HasPair wrappedKey ∧ ¬HasPair ciphertext ∧ ¬HasPair keyId) ∧
      ∃ canonical, e.toJson = .ok canonical ∧ SurrogateFree canonical ∧
        Entry.ofJson (.text canonical) = .ok e ∧
        rewritten t = .ok canonical ∧ rewritten canonical = .ok canonical ∧
        ∀ n, rewrittenTimes (n + 1) t = .ok canonical := by
  obtain ⟨hnames, r, rfl, hunpaired⟩ := record_of_ofJson ht h
  have hwritten := toJson_record r
  have hback : Entry.ofJson (.text r.document) = .ok r.entry := by
    rw [ofJson_text, (joined_entry_eq_iff r).mpr hunpaired]
  have hfirst : rewritten t = .ok r.document := (rewritten_of_ofJson h).trans hwritten
  have hfixed : rewritten r.document = .ok r.document := (rewritten_of_ofJson hback).trans hwritten
  refine ⟨hnames, rfl, r.version_current, ⟨_, _, _, rfl, rfl, rfl, hunpaired⟩, r.document, hwritten,
    surrogateFree_document r, hback, hfirst, hfixed, fun n => ?_⟩
  rw [rewrittenTimes_succ hfirst, rewrittenTimes_fixed hfixed]

/-- A record with its version spelled as yes, a field given twice, and surrogates escaped: a high
one after a high one, a low one before a high one, and a pair. -/
theorem escaped_record_has_canonical_text :
    let t : Text := " \x7b\"v\":true,\"key_id\":\"\\ud834\\uDD1E\",\"ciphertext\":5,
      \"wrapped_key\":\"\\ud834\\ud834\",\"ciphertext\":\"\\udd1e\\ud834\",
      \"algorithm\":\"AES-256-GCM\"\x7d"
    let canonical : Text :=
      "\x7b\"wrapped_key\": \"\\ud834\\ud834\", \"ciphertext\": \"\\udd1e\\ud834\", " ++
      "\"key_id\": \"\\ud834\\udd1e\", \"algorithm\": \"AES-256-GCM\", \"v\": true\x7d"
    SurrogateFree t ∧ ∃ e, Entry.ofJson (.text t) = .ok e ∧ e.toJson = .ok canonical ∧
      Entry.ofJson (.text canonical) = .ok e ∧ ∀ n, rewrittenTimes (n + 1) t = .ok canonical := by
  intro t canonical
  have ht : SurrogateFree t := surrogateFree_ofString _
  have hwritten : (rewritten t).toOption = some canonical := by decide +kernel
  clear_value t canonical
  cases he : Entry.ofJson (.text t) with
  | error failure =>
    rw [rewritten, he] at hwritten
    exact nomatch hwritten
  | ok e =>
    obtain ⟨-, -, -, -, u, htext, -, hback, hfirst, -, htimes⟩ :=
      records_have_canonical_texts ht he
    rw [hfirst] at hwritten
    obtain rfl := Option.some.inj hwritten
    exact ⟨ht, e, rfl, htext, hback, htimes⟩

end EnvelopeStore.Proofs
