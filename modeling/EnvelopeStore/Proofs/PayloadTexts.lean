import EnvelopeStore.Proofs.Providers

/-!
# Texts of payloads

A payload has one text, and no other text is read as it. Base64 alone is not so strict: it passes
over padding behind a complete group, and it drops the bits of the last character that fill no byte.
The texts that differ from the written ones by these liberties are refused as payloads.
-/

namespace EnvelopeStore.Proofs
open Base64

/-- The text of bytes with more padding behind it, though its last group is complete. -/
def HasSurplus (t : Text) : Prop :=
  ∃ bytes pads, bytes ≠ [] ∧ 3 ∣ bytes.length ∧ 0 < pads ∧
    t = encode bytes ++ List.replicate pads paddingMark

/-- Characters with padding that fits, where bits of the last character are set that fill no
byte. -/
def SetsUnusedBits (t : Text) : Prop :=
  ∃ values pads, (∀ n ∈ values, n < 64) ∧ PaddingFits values.length pads ∧
    t = spelling values pads ∧ cleared values ≠ values

/-- A text that base64 reads, but that is not what is written for its bytes. -/
def Tolerated (t : Text) : Prop := ∃ bytes, decode t = .ok bytes ∧ t ≠ encode bytes

lemma tolerated_of_hasSurplus {t : Text} (h : HasSurplus t) : Tolerated t := by
  obtain ⟨bytes, pads, hne, hwhole, hpads, rfl⟩ := h
  have hpos : 0 < bytes.length := List.length_pos_iff.mpr hne
  have hcount : (sextets bytes).length % 4 = 0 ∧ (sextets bytes).length ≠ 0 := by
    rw [length_sextets]
    omega
  have hnone : padsFor (sextets bytes).length = 0 := by
    rw [padsFor, hcount.1]
  have hspelled :
      encode bytes ++ List.replicate pads paddingMark = spelling (sextets bytes) pads := by
    rw [base64_encode_eq, hnone, spelling, List.replicate_zero, List.append_nil, spelling]
  refine ⟨bytes, ?_, ?_⟩
  · have hfits : PaddingFits (sextets bytes).length pads :=
      .inl ⟨hcount.1, fun h => absurd h hcount.2⟩
    rw [hspelled, base64_decode_spelling (sextets_lt bytes) hfits, ofValues_sextets]
  · intro heq
    have hlength := congrArg List.length heq
    rw [List.length_append, List.length_replicate] at hlength
    omega

lemma tolerated_of_setsUnusedBits {t : Text} (h : SetsUnusedBits t) : Tolerated t := by
  obtain ⟨values, pads, hlt, hfits, rfl, hset⟩ := h
  have hcleared : ∀ n ∈ cleared values, n < 64 := by
    rw [← sextets_ofValues hlt hfits.count_ne]
    exact sextets_lt _
  refine ⟨ofValues values, base64_decode_spelling hlt hfits, ?_⟩
  intro heq
  rw [encode_ofValues hlt hfits.count_ne] at heq
  have hvalues := congrArg (List.filterMap value?) heq
  rw [values_of_spelling hlt, values_of_spelling hcleared] at hvalues
  exact hset hvalues.symm

/-- Base64 takes two liberties and no others. -/
theorem tolerated_iff {t : Text} : Tolerated t ↔ HasSurplus t ∨ SetsUnusedBits t := by
  constructor
  · rintro ⟨bytes, hread, hne⟩
    obtain ⟨values, pads, hlt, hfits, rfl, rfl⟩ := exists_spelling_of_decode hread
    by_cases hset : cleared values = values
    · rw [encode_ofValues hlt hfits.count_ne, hset] at hne
      have hpads : pads ≠ padsFor values.length := by
        rintro rfl
        exact hne rfl
      have hwhole : values.length % 4 = 0 ∧ values.length ≠ 0 ∧ 0 < pads := by
        unfold PaddingFits padsFor at *
        omega
      have hlength := congrArg List.length (sextets_ofValues hlt hfits.count_ne)
      rw [length_sextets, length_cleared] at hlength
      refine .inl ⟨ofValues values, pads, ?_, by omega, hwhole.2.2, ?_⟩
      · intro hnil
        rw [hnil, List.length_nil] at hlength
        omega
      · rw [encode_ofValues hlt hfits.count_ne, hset, padsFor, hwhole.1, spelling, spelling,
          List.replicate_zero, List.append_nil]
    · exact .inr ⟨values, pads, hlt, hfits, rfl, hset⟩
  · rintro (h | h)
    · exact tolerated_of_hasSurplus h
    · exact tolerated_of_setsUnusedBits h

lemma payload_ofText_of_tolerated {t : Text} (h : Tolerated t) :
    Payload.ofText t = .error (.crypto .notCanonical) := by
  obtain ⟨bytes, hread, hne⟩ := h
  rw [Payload.ofText, hread]
  exact if_neg (Ne.symm hne)

/-- A text is read as a payload exactly when the payload has a whole nonce and room for a tag, and
the text is the one that is written for it. All other texts are refused as a failure of the cipher.
So the text of a payload is read as that payload, no two texts are read as the same one, and what
base64 tolerates beyond its own texts is refused: padding behind a complete group, and bits that
fill no byte. -/
theorem payload_texts_are_canonical :
    (∀ t p, Payload.ofText t = .ok p ↔
      p.nonce.length = 12 ∧ 16 ≤ p.ciphertext.length ∧ t = p.toText) ∧
    (∀ t, (∃ p, Payload.ofText t = .ok p) ∨ ∃ fault, Payload.ofText t = .error (.crypto fault)) ∧
    (∀ p : Payload, p.nonce.length = 12 → 16 ≤ p.ciphertext.length →
      Payload.ofText p.toText = .ok p) ∧
    (∀ t u p, Payload.ofText t = .ok p → Payload.ofText u = .ok p → t = u) ∧
    (∀ t, Tolerated t ↔ HasSurplus t ∨ SetsUnusedBits t) ∧
    (∀ t, Tolerated t → Payload.ofText t = .error (.crypto .notCanonical)) := by
  have haccept : ∀ t p, Payload.ofText t = .ok p ↔
      p.nonce.length = 12 ∧ 16 ≤ p.ciphertext.length ∧ t = p.toText := by
    intro t p
    rw [payload_ofText_eq_ok_iff, and_comm, and_assoc]
    rfl
  refine ⟨haccept, ?_, ?_, ?_, fun t => tolerated_iff, fun t => payload_ofText_of_tolerated⟩
  · intro t
    cases h : Payload.ofText t with
    | ok p => exact .inl ⟨p, rfl⟩
    | error failure =>
      obtain ⟨fault, rfl⟩ := payload_ofText_error h
      exact .inr ⟨fault, rfl⟩
  · intro p hnonce htag
    exact (haccept _ _).mpr ⟨hnonce, htag, rfl⟩
  · intro t u p ht hu
    rw [((haccept t p).mp ht).2.2, ((haccept u p).mp hu).2.2]

/-- The text of 30 zero bytes is read. It is refused with one more mark behind it, and so is the
text of 29 zero bytes with a bit set in its last character. -/
theorem zero_payload_has_one_text :
    let zeros : Text := List.replicate 38 'A'
    Payload.ofText (zeros ++ Text.ofString "AA") =
        .ok ⟨List.replicate 12 0, List.replicate 18 0⟩ ∧
      Payload.ofText (zeros ++ Text.ofString "AA=") = .error (.crypto .notCanonical) ∧
      Payload.ofText (zeros ++ Text.ofString "B=") = .error (.crypto .notCanonical) := by
  intro zeros
  obtain ⟨haccept, -, -, -, htolerated, hrefuse⟩ := payload_texts_are_canonical
  have hsurplus : HasSurplus (zeros ++ Text.ofString "AA=") :=
    ⟨List.replicate 30 0, 1, by decide, by decide, by decide, by decide⟩
  have hbits : SetsUnusedBits (zeros ++ Text.ofString "B=") :=
    ⟨List.replicate 38 0 ++ [1], 1, by decide, .inr (.inr (by decide)), by decide, by decide⟩
  exact ⟨(haccept _ _).mpr ⟨by decide, by decide, by decide⟩,
    hrefuse _ ((htolerated _).mpr (.inl hsurplus)), hrefuse _ ((htolerated _).mpr (.inr hbits))⟩

end EnvelopeStore.Proofs
