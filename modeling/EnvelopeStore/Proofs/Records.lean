import EnvelopeStore.Entry
import EnvelopeStore.Proofs.Documents
import EnvelopeStore.Proofs.WholeNumbers

/-!
# Records and their documents

A record in the current format is written as printable ASCII, whatever characters its texts hold, and
its document is read back as the same record but for one thing: in its texts, a high surrogate
directly followed by a low one comes back as the character that they encode.
-/

namespace EnvelopeStore.Proofs
open Json

/-! ### Pairs of surrogates -/

/-- A high surrogate is directly followed by a low one. -/
def HasPair (t : Text) : Prop :=
  ∃ a b, [a, b] <:+: t ∧ a.isHighSurrogate = true ∧ b.isLowSurrogate = true

lemma hasPair_cons {a b : CodePoint} {t : Text} :
    HasPair (a :: b :: t) ↔
      (a.isHighSurrogate && b.isLowSurrogate) = true ∨ HasPair (b :: t) := by
  simp only [HasPair, List.infix_cons_iff, List.cons_prefix_cons, List.nil_prefix, and_true,
    Bool.and_eq_true]
  constructor
  · rintro ⟨x, y, ⟨rfl, rfl⟩ | hmem, hx, hy⟩
    · exact .inl ⟨hx, hy⟩
    · exact .inr ⟨x, y, hmem, hx, hy⟩
  · rintro (⟨ha, hb⟩ | ⟨x, y, hmem, hx, hy⟩)
    · exact ⟨a, b, .inl ⟨rfl, rfl⟩, ha, hb⟩
    · exact ⟨x, y, .inr hmem, hx, hy⟩

lemma length_joinPairs_le (t : Text) : (Text.joinPairs t).length ≤ t.length := by
  induction t using Text.joinPairs.induct with
  | case1 a b t hpair ih =>
    rw [Text.joinPairs, if_pos hpair, List.length_cons, List.length_cons, List.length_cons]
    omega
  | case2 a b t hpair ih =>
    rw [Text.joinPairs, if_neg hpair, List.length_cons, List.length_cons]
    omega
  | case3 t hshort => rw [Text.joinPairs.eq_2 t hshort]

/-- Joining pairs changes a text exactly when there are any. -/
theorem joinPairs_eq_self_iff {t : Text} : Text.joinPairs t = t ↔ ¬HasPair t := by
  induction t using Text.joinPairs.induct with
  | case1 a b t hpair ih =>
    refine iff_of_false ?_ (not_not_intro (hasPair_cons.mpr (.inl hpair)))
    intro heq
    have hlength := congrArg List.length heq
    rw [Text.joinPairs, if_pos hpair, List.length_cons, List.length_cons, List.length_cons]
      at hlength
    have := length_joinPairs_le t
    omega
  | case2 a b t hpair ih =>
    rw [Text.joinPairs, if_neg hpair, List.cons_inj_right, ih, hasPair_cons, or_iff_right hpair]
  | case3 t hshort =>
    refine iff_of_true (Text.joinPairs.eq_2 t hshort) ?_
    rintro ⟨a, b, hinfix, -, -⟩
    have hlength := hinfix.length_le
    obtain _ | ⟨c, _ | ⟨d, t⟩⟩ := t
    · simp at hlength
    · simp at hlength
    · exact hshort c d t rfl

lemma not_hasPair_of_surrogateFree {t : Text} (h : SurrogateFree t) : ¬HasPair t :=
  joinPairs_eq_self_iff.mp (joinPairs_surrogateFree h)

/-! ### Objects of scalars -/

/-- A value that is no container: it is read in one step, whatever may follow it in a document. -/
structure Scalar (v : Value) : Prop where
  opens : Opens (write v)
  reads : ∀ fuel room rest, Ends rest →
    readValue (fuel + 1) room (write v ++ rest) = .ok (reread v, rest)

lemma scalar_text (t : Text) : Scalar (.text t) where
  opens := opens_write rfl
  reads fuel room rest _ := by rw [write, readValue_writeText, reread]

lemma readScalar_floatOne {rest : Text} (hrest : Ends rest) :
    readScalar (Text.ofString "1.0" ++ rest) = .ok (.float floatOne, rest) := by
  have hwhole : wholePart? (CodePoint.ofChar '1' :: CodePoint.ofChar '.' :: CodePoint.ofChar '0' ::
      rest) = some ([CodePoint.ofChar '1'], CodePoint.ofChar '.' :: CodePoint.ofChar '0' :: rest) :=
    wholePart?_ofNat 1 (by simp; decide)
  have hdigits : takeDigits (CodePoint.ofChar '0' :: rest) = ([CodePoint.ofChar '0'], rest) :=
    takeDigits_ofNat 0 fun c hc => (ends_follow hrest c hc).1
  have hfraction : fractionPart (CodePoint.ofChar '.' :: CodePoint.ofChar '0' :: rest) =
      ([CodePoint.ofChar '0'], rest) := by
    rw [fractionPart, if_pos rfl, hdigits]
  have hten : ofDigits ([CodePoint.ofChar '1'] ++ [CodePoint.ofChar '0']) = 10 := rfl
  have htenth : (none.getD 0 : Int) - [CodePoint.ofChar '0'].length = -1 := rfl
  have hdecimal : Binary64.ofDecimal false 10 (-1) = floatOne := by decide +kernel
  have hminus : CodePoint.ofChar '1' ≠ CodePoint.ofChar '-' := by decide
  change readScalar (CodePoint.ofChar '1' :: CodePoint.ofChar '.' :: CodePoint.ofChar '0' :: rest) = _
  rw [readScalar, readWord?_digit (by decide)]
  simp only [if_neg hminus, readMagnitude?, hwhole, hfraction, exponentPart_ends hrest, hten, htenth,
    hdecimal, Option.getD_some]

lemma scalar_version {v : Value} (h : v.equalsInt formatVersion = true) : Scalar v := by
  obtain rfl | rfl | rfl := equalsInt_one_iff.mp h
  · exact ⟨opens_write rfl, fun _ _ _ hrest => readValue_ofInt (n := 1) (by decide) hrest⟩
  · exact ⟨opens_write rfl, fun _ _ _ _ => rfl⟩
  · have hwrite : write (.float floatOne) = Text.ofString "1.0" := by decide +kernel
    refine ⟨hwrite ▸ ⟨_, _, rfl, by decide, by decide, by decide⟩, ?_⟩
    intro fuel room rest hrest
    rw [hwrite]
    exact (readValue_scalar (by decide) (by decide) (by decide)).trans (readScalar_floatOne hrest)

lemma printable_version {v : Value} (h : v.equalsInt formatVersion = true) :
    Printable (write v) := by
  obtain rfl | rfl | rfl := equalsInt_one_iff.mp h <;> decide +kernel

lemma readFields_scalars {fields : Fields} (hne : fields ≠ [])
    (h : ∀ field ∈ fields, Scalar field.2) {fuel room : Nat} {read : Fields} {rest : Text}
    (hfuel : fields.length < fuel) :
    readFields fuel room read
        (Text.join ", " (writeFields fields) ++ CodePoint.ofChar '\x7d' :: rest) =
      .ok (.object (Fields.ofList (read.reverse ++ rereadFields fields)), rest) := by
  induction fields generalizing fuel read with
  | nil => exact absurd rfl hne
  | cons field fields ih =>
    obtain ⟨name, v⟩ := field
    obtain ⟨fuel, rfl⟩ : ∃ n, fuel = n + 2 := ⟨fuel - 2, by rw [List.length_cons] at hfuel; omega⟩
    have hv : Scalar v := h (name, v) List.mem_cons_self
    cases fields with
    | nil =>
      have hread := hv.reads fuel room (CodePoint.ofChar '\x7d' :: rest) (ends_of_head (by simp) rest)
      rw [writeFields, writeFields, join_singleton, List.append_assoc _ (write v),
        readFields_last (opens_append hv.opens _) hread]
      simp [rereadFields]
    | cons next fields =>
      obtain ⟨name', w⟩ := next
      obtain ⟨t, ht⟩ := join_writeFields name' w fields
      have hopens : Opens (Text.join ", " (writeFields ((name', w) :: fields))) :=
        ht ▸ ⟨_, t, rfl, by decide, by decide, by decide⟩
      have hread := hv.reads fuel room (Text.ofString ", " ++
        (Text.join ", " (writeFields ((name', w) :: fields)) ++ CodePoint.ofChar '\x7d' :: rest))
        (ends_comma _)
      have hrest : readFields (fuel + 1) room ((Text.joinPairs name, reread v) :: read)
          (Text.join ", " (writeFields ((name', w) :: fields)) ++ CodePoint.ofChar '\x7d' :: rest) =
          _ :=
        ih (by simp) (fun other hother => h other (List.mem_cons_of_mem _ hother))
          (by rw [List.length_cons] at hfuel; omega)
      rw [writeFields, writeFields, join_cons_cons, ← writeFields, List.append_assoc,
        List.append_assoc _ (write v), List.append_assoc _ _ (_ :: _),
        readFields_next (opens_append hv.opens _) hread (opens_append hopens _), hrest]
      simp [rereadFields]

lemma length_le_writeFields (fields : Fields) :
    fields.length ≤ (Text.join ", " (writeFields fields)).length := by
  induction fields with
  | nil => exact Nat.zero_le _
  | cons field fields ih =>
    obtain ⟨name, v⟩ := field
    cases fields with
    | nil =>
      rw [writeFields, writeFields, join_singleton, writeText]
      simp [Text.ofString]
    | cons next fields =>
      obtain ⟨name', w⟩ := next
      have hseparator : (Text.ofString ", ").length = 2 := rfl
      rw [List.length_cons, writeFields, writeFields, join_cons_cons, ← writeFields]
      simp only [List.length_append]
      omega

/-- An object without containers in it is what its document denotes, with pairs joined and one field
left of each name. -/
theorem read_write_scalars {fields : Fields} (hne : fields ≠ [])
    (h : ∀ field ∈ fields, Scalar field.2) :
    Json.read (write (.object fields)) = .ok (reread (.object fields)) := by
  obtain ⟨⟨name, v⟩, more, rfl⟩ := List.exists_cons_of_ne_nil hne
  have hlength := length_le_writeFields ((name, v) :: more)
  have hwritten := length_brackets "\x7b" "\x7d"
    (Text.join ", " (writeFields ((name, v) :: more))) rfl rfl
  obtain ⟨fuel, hfuel⟩ : ∃ fuel, fuelFor (write (.object ((name, v) :: more))) = fuel + 1 :=
    ⟨_, rfl⟩
  have henough : ((name, v) :: more).length < fuel := by
    rw [fuelFor, write, hwritten] at hfuel
    omega
  refine read_of_readValue ⟨CodePoint.ofChar '\x7b', _, rfl, by decide, by decide, by decide⟩ ?_
  obtain ⟨room, hroom⟩ : ∃ room, maxDepth = room + 1 := ⟨_, rfl⟩
  have hfields : readFields fuel room [] (Text.join ", " (writeFields ((name, v) :: more)) ++
      [CodePoint.ofChar '\x7d']) = _ := readFields_scalars hne h henough
  obtain ⟨t, ht⟩ := join_writeFields name v more
  rw [ht] at hfields
  rw [hfuel, hroom, write, ht, List.append_assoc]
  exact readValue_object.trans hfields

/-! ### Records -/

/-- A record in the current format: three texts of any characters, and the version as it is spelled. -/
structure Record where
  wrappedKey : Text
  ciphertext : Text
  keyId : Text
  version : Value
  version_current : version.equalsInt formatVersion = true

namespace Record

def entry (r : Record) : Entry :=
  ⟨.text r.wrappedKey, .text r.ciphertext, .text r.keyId, .text algorithmName, r.version⟩

/-- The record with the pairs of surrogates in its texts joined. -/
def joined (r : Record) : Record :=
  { r with
    wrappedKey := Text.joinPairs r.wrappedKey
    ciphertext := Text.joinPairs r.ciphertext
    keyId := Text.joinPairs r.keyId }

/-- No text of the record has a pair of surrogates in it. -/
def Unpaired (r : Record) : Prop :=
  ¬HasPair r.wrappedKey ∧ ¬HasPair r.ciphertext ∧ ¬HasPair r.keyId

def document (r : Record) : Text := Json.write r.entry.toValue

end Record

section

variable (r : Record)

lemma scalar_field : ∀ field ∈ r.entry.toValue.fields, Scalar field.2 := by
  simp only [Entry.toValue, Record.entry, Value.fields, List.forall_mem_cons, scalar_text,
    scalar_version r.version_current, List.not_mem_nil, false_implies, implies_true, and_self]

lemma toJson_record : r.entry.toJson = .ok r.document := by
  have hversion : unwritable? r.version = none := by
    obtain h | h | h := equalsInt_one_iff.mp r.version_current <;> rw [h] <;> rfl
  have hwritable : unwritable? r.entry.toValue = none := by
    simp [Entry.toValue, Record.entry, unwritable?, unwritableField?, hversion]
  rw [Entry.toJson, hwritable, Record.document]

lemma printable_document : Printable r.document := by
  have hfields : ∀ part ∈ writeFields r.entry.toValue.fields, Printable part := by
    simp only [Entry.toValue, Record.entry, Value.fields, writeFields, write, List.forall_mem_cons,
      List.not_mem_nil, false_implies, implies_true, and_true]
    have hcolon : Printable (Text.ofString ": ") := by decide
    have hname : ∀ name, Printable (writeText name ++ Text.ofString ": ") := fun name =>
      printable_append (printable_writeText name) hcolon
    have htext : ∀ name t, Printable (writeText name ++ Text.ofString ": " ++ writeText t) :=
      fun name t => printable_append (hname name) (printable_writeText t)
    exact ⟨htext _ _, htext _ _, htext _ _, htext _ _,
      printable_append (hname _) (printable_version r.version_current)⟩
  exact printable_append (printable_append (by decide) (printable_join hfields)) (by decide)

lemma surrogateFree_document : SurrogateFree r.document :=
  surrogateFree_of_printable (printable_document r)

lemma reread_record : reread r.entry.toValue = r.joined.entry.toValue := by
  have hversion : reread r.version = r.version := by
    obtain h | h | h := equalsInt_one_iff.mp r.version_current <;> rw [h] <;> rfl
  have hnames : (r.joined.entry.toValue.fields.map Prod.fst).Nodup :=
    (by decide : [Text.ofString "wrapped_key", "ciphertext", "key_id", "algorithm", "v"].Nodup)
  have hfields : rereadFields r.entry.toValue.fields = r.joined.entry.toValue.fields := by
    simp only [Entry.toValue, Record.entry, Record.joined, Value.fields, rereadFields, reread,
      hversion, joinPairs_surrogateFree (surrogateFree_ofString _), algorithmName]
  calc reread r.entry.toValue
    _ = .object (Fields.ofList (rereadFields r.entry.toValue.fields)) := rfl
    _ = .object r.joined.entry.toValue.fields := by rw [hfields, ofList_of_nodup hnames]

lemma ofValue_record : Entry.ofValue r.entry.toValue = .ok r.entry := by
  have hchecked : Entry.ofValue r.entry.toValue =
      if !r.version.equalsInt formatVersion then .error (.unsupportedVersion r.version.display)
      else .ok r.entry := rfl
  rw [hchecked, r.version_current]
  rfl

lemma read_document : Json.read r.document = .ok r.joined.entry.toValue := by
  rw [← reread_record]
  exact read_write_scalars (by simp) (scalar_field r)

lemma ofJson_text : Entry.ofJson (.text r.document) = .ok r.joined.entry := by
  rw [Entry.ofJson, read_document, Entry.ofDocument, ofValue_record]

lemma ofJson_bytes {bytes : Bytes} (h : Text.Utf8.encode r.document = .ok bytes) :
    Entry.ofJson (.bytes bytes) = .ok r.joined.entry := by
  have hread : Json.readBytes bytes = .ok r.joined.entry.toValue :=
    readBytes_of_encode (read_document r) h
  rw [Entry.ofJson, hread, Entry.ofDocument, ofValue_record]

lemma joined_entry_eq_iff : r.joined.entry = r.entry ↔ r.Unpaired := by
  simp only [Record.entry, Record.joined, Record.Unpaired, Entry.mk.injEq, Value.text.injEq,
    joinPairs_eq_self_iff, and_true]

end

/-- A record is written as printable ASCII, and its document, in text or in UTF-8, is read as the
record with the pairs of surrogates in its texts joined; so it comes back as it was exactly when there
are no such pairs. -/
theorem record_comes_back (r : Record) :
    ∃ document bytes, r.entry.toJson = .ok document ∧ Printable document ∧
      Text.Utf8.encode document = .ok bytes ∧
      Entry.ofJson (.text document) = .ok r.joined.entry ∧
      Entry.ofJson (.bytes bytes) = .ok r.joined.entry ∧
      (r.joined.entry = r.entry ↔ r.Unpaired) := by
  have hprintable := printable_document r
  obtain ⟨bytes, hbytes⟩ : ∃ bytes, Text.Utf8.encode r.document = .ok bytes :=
    ⟨_, utf8_encode_eq_ok_iff.mpr ⟨surrogateFree_of_printable hprintable, rfl⟩⟩
  exact ⟨r.document, bytes, toJson_record r, hprintable, hbytes, ofJson_text r,
    ofJson_bytes r hbytes, joined_entry_eq_iff r⟩

/-- Of a high surrogate, a high one and a low one, the last two are joined; a low one before a high
one and a spelled escape stay as they are. -/
theorem surrogates_come_back_joined :
    let high := CodePoint.ofNat 0xD834
    let low := CodePoint.ofNat 0xDD1E
    let r : Record :=
      ⟨[high, high, low], [low, high], "\\ud834\\udd1e", .float floatOne, by decide +kernel⟩
    ∃ document, r.entry.toJson = .ok document ∧
      Entry.ofJson (.text document) = .ok ⟨.text [high, CodePoint.ofNat 0x1D11E],
        .text [low, high], .text "\\ud834\\udd1e", .text algorithmName, .float floatOne⟩ := by
  intro high low r
  have hwrapped : Text.joinPairs [high, high, low] = [high, CodePoint.ofNat 0x1D11E] := by decide
  have hciphertext : Text.joinPairs [low, high] = [low, high] := by decide
  have hid : Text.joinPairs "\\ud834\\udd1e" = "\\ud834\\udd1e" := by decide
  obtain ⟨document, bytes, hwritten, -, -, hread, -⟩ := record_comes_back r
  refine ⟨document, hwritten, hread.trans ?_⟩
  simp only [Record.entry, Record.joined, r, hwrapped, hciphertext, hid]

end EnvelopeStore.Proofs
