import EnvelopeStore.InlineValue
import EnvelopeStore.Proofs.Order

/-!
# The grammar of inline values

The reader looks at the mark, splits at every colon and counts, the mark's own colons included;
what a part may be is looked at elsewhere, where the value is made. Together they accept the mark
followed by two parts with a colon between them, and no other value.
-/

namespace EnvelopeStore.Proofs
open InlineValue

/-! ### Segments -/

section

variable {sep : CodePoint} {t rest s s' : Text}

lemma segments_eq_splitOn (sep : CodePoint) (t : Text) : t.segments sep = t.splitOn sep := by
  induction t with
  | nil => rw [Text.segments, List.splitOn_nil]
  | cons c t ih =>
    rw [Text.segments, ih, List.splitOn_cons_eq_if_modifyHead]
    by_cases hsep : c = sep
    · rw [if_pos hsep, if_pos (beq_iff_eq.mpr hsep)]
    · rw [if_neg hsep, if_neg (mt beq_iff_eq.mp hsep)]
      cases hrest : t.splitOn sep with
      | nil => exact absurd hrest (List.splitOn_ne_nil sep t)
      | cons => rfl

lemma segments_append (h : sep ∉ t) (rest : Text) :
    (t ++ sep :: rest).segments sep = t :: rest.segments sep := by
  rw [segments_eq_splitOn, segments_eq_splitOn, List.splitOn_append_cons_self_of_not_mem h]

lemma segments_of_notMem (h : sep ∉ t) : t.segments sep = [t] := by
  rw [segments_eq_splitOn, List.splitOn_eq_singleton h]

lemma append_of_segments (h : t.segments sep = [s, s']) : t = s ++ sep :: s' := by
  rw [segments_eq_splitOn] at h
  have hjoined : [sep].intercalate (t.splitOn sep) = t := List.intercalate_splitOn sep
  rw [h] at hjoined
  simpa [List.intercalate] using hjoined.symm

end

/-! ### Parts -/

abbrev colon : CodePoint := ':'

/-- What stands between two colons of an inline text: something, without a colon. -/
def IsPart (t : Text) : Prop := t ≠ [] ∧ colon ∉ t

/-- The inline text of a key id and a ciphertext. -/
def inlineText (keyId ciphertext : Text) : Text :=
  Text.ofString "enc:AES256:" ++ keyId ++ ":" ++ ciphertext

/-- A value is the inline text of two parts. -/
structure Spells (v : Value) (keyId ciphertext : Text) : Prop where
  text : v = .text (inlineText keyId ciphertext)
  keyId : IsPart keyId
  ciphertext : IsPart ciphertext

def HasParts (i : InlineValue) (keyId ciphertext : Text) : Prop :=
  i.keyId = .text keyId ∧ i.ciphertext = .text ciphertext

section

variable {s k c k' c' : Text} {v : Value} {i : InlineValue} {failure : Failure}

lemma inlineText_eq (k c : Text) : inlineText k c = mark ++ (k ++ colon :: c) := by
  have hcolon : Text.ofString ":" = [colon] := rfl
  rw [inlineText, hcolon, List.append_assoc, List.append_assoc, List.singleton_append, mark]

lemma isSegment_text : isSegment (.text s) = true ↔ IsPart s := by
  simp [isSegment, IsPart]

lemma isPart_of_hasParts (h : HasParts i k c) : IsPart k ∧ IsPart c :=
  ⟨isSegment_text.mp (h.1 ▸ i.keyId_segment), isSegment_text.mp (h.2 ▸ i.ciphertext_segment)⟩

lemma exists_hasParts (hk : IsPart k) (hc : IsPart c) : ∃ i, HasParts i k c :=
  ⟨⟨.text k, .text c, isSegment_text.mpr hk, isSegment_text.mpr hc⟩, rfl, rfl⟩

lemma hasParts_unique (h : HasParts i k c) (h' : HasParts i k' c') : k = k' ∧ c = c' :=
  ⟨Value.text.inj (h.1.symm.trans h'.1), Value.text.inj (h.2.symm.trans h'.2)⟩

lemma toText_of_hasParts (h : HasParts i k c) : i.toText = inlineText k c := by
  rw [toText, h.1, h.2]
  rfl

lemma make_eq_ok_iff : make (.text k) (.text c) = .ok i ↔ HasParts i k c := by
  constructor
  · intro h
    unfold make at h
    split_ifs at h
    obtain rfl := Except.ok.inj h
    exact ⟨rfl, rfl⟩
  · intro h
    obtain ⟨keyId, ciphertext, hkeyId, hciphertext⟩ := i
    obtain ⟨rfl, rfl⟩ := h
    rw [make, dif_pos hkeyId, dif_pos hciphertext]

lemma refusal_text (fault : InlineFault) (s : Text) :
    refusal fault (.text s) = .malformedValue fault := by
  unfold refusal
  split <;> rfl

lemma make_malformed (h : make (.text k) (.text c) = .error failure) :
    ∃ fault, failure = .malformedValue fault := by
  unfold make at h
  split_ifs at h
  · exact ⟨_, (Except.error.inj h).symm.trans (refusal_text _ c)⟩
  · exact ⟨_, (Except.error.inj h).symm.trans (refusal_text _ k)⟩

/-! ### Reading and writing -/

lemma segments_mark (rest : Text) :
    (mark ++ rest).segments colon =
      Text.ofString "enc" :: Text.ofString "AES256" :: Text.segments colon rest := by
  have hmark : mark ++ rest =
      Text.ofString "enc" ++ colon :: (Text.ofString "AES256" ++ colon :: rest) := rfl
  have hfirst : colon ∉ Text.ofString "enc" := by decide
  have hsecond : colon ∉ Text.ofString "AES256" := by decide
  rw [hmark, segments_append hfirst, segments_append hsecond]

lemma segments_inlineText (hk : IsPart k) (hc : IsPart c) :
    (inlineText k c).segments colon = [Text.ofString "enc", Text.ofString "AES256", k, c] := by
  rw [inlineText_eq, segments_mark, segments_append hk.2, segments_of_notMem hc.2]

/-- A text is the inline text of the segments that its value is made of, or else it is malformed. -/
lemma ofText_cases (s : Text) :
    (∃ k c, s = inlineText k c ∧ ofText s = make (.text k) (.text c)) ∨
      ∃ fault, ofText s = .error (.malformedValue fault) := by
  by_cases hmark : s.startsWith mark = true
  · obtain ⟨rest, rfl⟩ := startsWith_iff.mp hmark
    rw [ofText, if_pos hmark, segments_mark]
    split
    · next k c hsegments =>
      simp only [List.cons.injEq] at hsegments
      have hrest : Text.segments colon rest = [k, c] := hsegments.2.2
      refine .inl ⟨k, c, ?_, rfl⟩
      rw [inlineText_eq, append_of_segments hrest]
    · exact .inr ⟨_, rfl⟩
  · exact .inr ⟨.noMark, by rw [ofText, if_neg hmark]⟩

lemma ofText_inlineText (hk : IsPart k) (hc : IsPart c) :
    ofText (inlineText k c) = make (.text k) (.text c) := by
  have hmark : (inlineText k c).startsWith mark = true :=
    startsWith_iff.mpr (inlineText_eq k c ▸ List.prefix_append _ _)
  rw [ofText, if_pos hmark, segments_inlineText hk hc]

lemma spells_of_ofValue (h : ofValue v = .ok i) : ∃ k c, Spells v k c ∧ HasParts i k c := by
  cases v with
  | text s =>
    obtain ⟨k, c, rfl, hmake⟩ | ⟨fault, hfault⟩ := ofText_cases s
    · have hparts : HasParts i k c := make_eq_ok_iff.mp (hmake.symm.trans h)
      exact ⟨k, c, ⟨rfl, (isPart_of_hasParts hparts).1, (isPart_of_hasParts hparts).2⟩, hparts⟩
    · exact nomatch h.symm.trans hfault
  | _ => exact nomatch h

lemma ofValue_of_spells (h : Spells v k c) : ∃ i, ofValue v = .ok i ∧ HasParts i k c := by
  obtain ⟨rfl, hk, hc⟩ := h
  obtain ⟨i, hparts⟩ := exists_hasParts hk hc
  exact ⟨i, (ofText_inlineText hk hc).trans (make_eq_ok_iff.mpr hparts), hparts⟩

lemma ofValue_malformed (h : ofValue v = .error failure) :
    ∃ fault, failure = .malformedValue fault := by
  cases v with
  | text s =>
    obtain ⟨k, c, -, hmake⟩ | ⟨fault, hfault⟩ := ofText_cases s
    · exact make_malformed (hmake.symm.trans h)
    · exact ⟨fault, Except.error.inj (h.symm.trans hfault)⟩
  | _ => exact ⟨.noMark, (Except.error.inj h).symm⟩

lemma ofValue_malformed_iff :
    (∃ fault, ofValue v = .error (.malformedValue fault)) ↔ ¬∃ k c, Spells v k c := by
  cases hread : ofValue v with
  | ok i =>
    obtain ⟨k, c, hspells, -⟩ := spells_of_ofValue hread
    exact iff_of_false nofun fun hnone => hnone ⟨k, c, hspells⟩
  | error failure =>
    obtain ⟨fault, rfl⟩ := ofValue_malformed hread
    refine iff_of_true ⟨fault, rfl⟩ ?_
    rintro ⟨k, c, hspells⟩
    obtain ⟨i, hok, -⟩ := ofValue_of_spells hspells
    exact nomatch hread.symm.trans hok

lemma ofValue?_cases (v : Value) :
    (∃ i, ofValue v = .ok i ∧ ofValue? v = .ok (some i)) ∨
      ∃ fault, ofValue v = .error (.malformedValue fault) ∧ ofValue? v = .ok none := by
  unfold ofValue?
  cases hread : ofValue v with
  | ok i => exact .inl ⟨i, rfl, rfl⟩
  | error failure =>
    obtain ⟨fault, rfl⟩ := ofValue_malformed hread
    exact .inr ⟨fault, rfl, rfl⟩

lemma ofValue?_eq_none_iff :
    ofValue? v = .ok none ↔ ∃ fault, ofValue v = .error (.malformedValue fault) := by
  obtain ⟨i, hread, hfound⟩ | ⟨fault, hread, hnone⟩ := ofValue?_cases v
  · rw [hread, hfound]
    exact iff_of_false nofun nofun
  · exact iff_of_true hnone ⟨fault, hread⟩

lemma ofValue?_eq_some_iff : ofValue? v = .ok (some i) ↔ ofValue v = .ok i := by
  obtain ⟨j, hread, hfound⟩ | ⟨fault, hread, hnone⟩ := ofValue?_cases v
  · rw [hread, hfound]
    simp
  · rw [hread, hnone]
    exact iff_of_false nofun nofun

/-- A value is the inline text of one pair at most: its segments tell which. -/
lemma spells_unique (h : Spells v k c) (h' : Spells v k' c') : k = k' ∧ c = c' := by
  have hsame : inlineText k c = inlineText k' c' := Value.text.inj (h.text.symm.trans h'.text)
  have hsegments := segments_inlineText h.keyId h.ciphertext
  rw [hsame, segments_inlineText h'.keyId h'.ciphertext] at hsegments
  simpa [eq_comm] using hsegments

lemma format_eq_ok_iff : format (.text k) (.text c) = .ok s ↔ Spells (.text s) k c := by
  constructor
  · intro h
    unfold format at h
    cases hmake : make (.text k) (.text c) with
    | error failure => exact nomatch hmake ▸ h
    | ok i =>
      have hparts : HasParts i k c := make_eq_ok_iff.mp hmake
      have htext : i.toText = s := Except.ok.inj (hmake ▸ h)
      obtain ⟨hk, hc⟩ := isPart_of_hasParts hparts
      exact ⟨congrArg Value.text (htext.symm.trans (toText_of_hasParts hparts)), hk, hc⟩
  · rintro ⟨htext, hk, hc⟩
    obtain ⟨i, hparts⟩ := exists_hasParts hk hc
    rw [format, make_eq_ok_iff.mpr hparts, Value.text.inj htext, ← toText_of_hasParts hparts]
    rfl

end

/-- A value is read as the two parts that it is the inline text of, and as nothing else; it is then
the text of what is read. All other values, texts or not, are malformed, and absent where malformed
values are. A text is made of a key id and a ciphertext just when both are parts; it is read as
these two, and it is made of no others. -/
theorem inline_texts_are_those_of_two_parts (v : Value) (k c : Text) :
    (Spells v k c ↔ ∃ i, ofValue v = .ok i ∧ HasParts i k c) ∧
    (∀ i, ofValue v = .ok i → v = .text i.toText ∧ ∃ k c, Spells v k c) ∧
    ((∃ fault, ofValue v = .error (.malformedValue fault)) ↔ ¬∃ k c, Spells v k c) ∧
    (ofValue? v = .ok none ↔ ∃ fault, ofValue v = .error (.malformedValue fault)) ∧
    (∀ i, ofValue? v = .ok (some i) ↔ ofValue v = .ok i) ∧
    ((∃ s, format (.text k) (.text c) = .ok s) ↔ IsPart k ∧ IsPart c) ∧
    ∀ s, format (.text k) (.text c) = .ok s →
      (∃ i, ofValue? (.text s) = .ok (some i) ∧ HasParts i k c) ∧
      ∀ k' c', format (.text k') (.text c') = .ok s → k' = k ∧ c' = c := by
  refine ⟨⟨ofValue_of_spells, ?_⟩, ?_, ofValue_malformed_iff, ofValue?_eq_none_iff,
    fun _ => ofValue?_eq_some_iff, ?_, ?_⟩
  · rintro ⟨i, hread, hparts⟩
    obtain ⟨k', c', hspells, hparts'⟩ := spells_of_ofValue hread
    obtain ⟨rfl, rfl⟩ := hasParts_unique hparts hparts'
    exact hspells
  · intro i hread
    obtain ⟨k, c, hspells, hparts⟩ := spells_of_ofValue hread
    exact ⟨hspells.text.trans (congrArg Value.text (toText_of_hasParts hparts).symm), k, c, hspells⟩
  · constructor
    · rintro ⟨s, hs⟩
      obtain ⟨-, hk, hc⟩ := format_eq_ok_iff.mp hs
      exact ⟨hk, hc⟩
    · rintro ⟨hk, hc⟩
      exact ⟨inlineText k c, format_eq_ok_iff.mpr ⟨rfl, hk, hc⟩⟩
  · intro s hs
    have hspells : Spells (.text s) k c := format_eq_ok_iff.mp hs
    refine ⟨?_, fun k' c' hs' => spells_unique (format_eq_ok_iff.mp hs') hspells⟩
    obtain ⟨i, hread, hparts⟩ := ofValue_of_spells hspells
    exact ⟨i, ofValue?_eq_some_iff.mpr hread, hparts⟩

/-- A colon in a part is one more segment. -/
example : ofText "enc:AES256:a:b:c" = .error (.malformedValue (.segmentCount 5)) := rfl

end EnvelopeStore.Proofs
