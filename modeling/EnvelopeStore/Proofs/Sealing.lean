import EnvelopeStore.Proofs.Providers

/-!
# What decryption accepts

A text is decrypted exactly when encryption with the same key can have produced it, and only to the
text that was encrypted. Every other text counts as tampered with, except where the tag is right and
the bytes under it are no text.
-/

namespace EnvelopeStore.Proofs
open Cipher Text

/-- A provider encrypts a text to another one whenever it draws the nonce, which can be drawn. -/
structure EncryptsTo (p : Provider Entropy) (key : Key) (nonce : Bytes) (text encrypted : Text) :
    Prop where
  drawn : ∃ e e', (Entropy.draw nonceSize).result e = (.ok nonce, e')
  encrypts : ∀ e e', (Entropy.draw nonceSize).result e = (.ok nonce, e') →
    (p.encrypt (.text text) key).result e = (.ok encrypted, e')

/-- A text is the base64 text of a nonce, a body and the tag that they have under a key. -/
structure Authentic (key : Key) (encrypted : Text) (nonce body : Bytes) : Prop where
  nonce_size : nonce.length = nonceSize
  spelled : encrypted = Base64.encode
    (nonce ++ body ++ Gcm.tag (Aes.Schedule.ofKey key.bytes) nonce body)

def openedBytes (key : Key) (nonce body : Bytes) : Bytes :=
  Gcm.crypt (Aes.Schedule.ofKey key.bytes) nonce body

lemma authentic_iff {key : Key} {s : Text} {nonce body : Bytes} :
    Authentic key s nonce body ↔ nonce.length = nonceSize ∧
      s = Payload.toText ⟨nonce, Gcm.encrypt key.bytes nonce (openedBytes key nonce body)⟩ := by
  have hs : Payload.toText ⟨nonce, Gcm.encrypt key.bytes nonce (openedBytes key nonce body)⟩ =
      Base64.encode (nonce ++ body ++ Gcm.tag (Aes.Schedule.ofKey key.bytes) nonce body) := by
    simp only [Payload.toText, Payload.toBlob, Gcm.encrypt, openedBytes, crypt_crypt,
      List.append_assoc]
  rw [hs]
  exact ⟨fun h => ⟨h.nonce_size, h.spelled⟩, fun h => ⟨h.1, h.2⟩⟩

lemma draw_ofBytes (bytes : Bytes) :
    ((Entropy.draw bytes.length).result (Entropy.ofBytes bytes)).1 = .ok bytes := by
  have hleft : (Entropy.ofBytes bytes).hasLeft bytes.length = true := by
    simp [Entropy.hasLeft, Entropy.ofBytes]
  rw [draw_result hleft]
  apply congrArg Except.ok
  apply List.ext_getElem
  · simp [Entropy.segment]
  · intro i h1 h2
    simp [Entropy.segment, Entropy.ofBytes, h2]

lemma encryptsTo_iff (suite : Suite) {key : Key} (hkey : key.bytes.length = keySize) {nonce : Bytes}
    {text s : Text} :
    EncryptsTo suite.provider key nonce text s ↔ nonce.length = nonceSize ∧
      ∃ plain, Utf8.encode text = .ok plain ∧
        s = Payload.toText ⟨nonce, Gcm.encrypt key.bytes nonce plain⟩ := by
  constructor
  · rintro ⟨⟨e, e', hdraw⟩, hall⟩
    have hrun := hall e e' hdraw
    refine ⟨length_of_draw hdraw, ?_⟩
    cases ht : Utf8.encode text with
    | ok plain =>
      rw [encrypt_of_encodable suite hkey hdraw ht] at hrun
      exact ⟨plain, rfl, (Except.ok.inj (Prod.mk.inj hrun).1).symm⟩
    | error fault =>
      rw [encrypt_of_unencodable suite hkey hdraw ht] at hrun
      simp at hrun
  · rintro ⟨hnonce, plain, ht, rfl⟩
    refine ⟨⟨Entropy.ofBytes nonce, _, Prod.ext (hnonce ▸ draw_ofBytes nonce) rfl⟩, ?_⟩
    intro e e' hdraw
    exact encrypt_of_encodable suite hkey hdraw ht

lemma decrypt_text_cases (suite : Suite) {key : Key} (hkey : key.bytes.length = keySize) (s : Text)
    (e : Entropy) :
    (∃ nonce body, Authentic key s nonce body ∧
      (suite.provider.decrypt (.text s) key).result e =
        (Provider.plainText (openedBytes key nonce body), e)) ∨
    ((∀ nonce body, ¬Authentic key s nonce body) ∧
      (suite.provider.decrypt (.text s) key).result e = (.error .decryption, e)) := by
  by_cases h : ∃ nonce body, Authentic key s nonce body
  · obtain ⟨nonce, body, hauth⟩ := h
    obtain ⟨hnonce, hs⟩ := authentic_iff.mp hauth
    refine .inl ⟨nonce, body, hauth, ?_⟩
    rw [hs, decrypt_of_sealed suite hkey hnonce]
  · have hnone : ∀ nonce body, ¬Authentic key s nonce body := by
      intro nonce body hauth
      exact h ⟨nonce, body, hauth⟩
    refine .inr ⟨hnone, decrypt_of_not_sealed suite hkey ?_⟩
    intro nonce plain hnonce hs
    refine hnone nonce (openedBytes key nonce plain) (authentic_iff.mpr ⟨hnonce, ?_⟩)
    rw [hs, openedBytes, openedBytes, crypt_crypt]

lemma plainText_eq_ok_iff {bytes : Bytes} {t : Text} :
    Provider.plainText bytes = .ok t ↔ Utf8.encode t = .ok bytes := by
  rw [← utf8_decode_eq_ok_iff, Provider.plainText]
  cases Utf8.decode bytes <;> simp

lemma plainText_eq_error_iff {bytes : Bytes} {failure : Failure} :
    Provider.plainText bytes = .error failure ↔
      ∃ fault, Utf8.decode bytes = .error fault ∧ failure = .crypto (.undecodable fault) := by
  rw [Provider.plainText]
  cases Utf8.decode bytes <;> simp [eq_comm]

lemma plainText_ne_decryption (bytes : Bytes) : Provider.plainText bytes ≠ .error .decryption := by
  intro h
  obtain ⟨fault, -, hfault⟩ := plainText_eq_error_iff.mp h
  simp at hfault

/-- The first bytes of an encrypted text are the nonce that was drawn for it. -/
lemma nonce_of_encryptsTo (suite : Suite) {key : Key} (hkey : key.bytes.length = keySize)
    {nonce : Bytes} {text s : Text} (h : EncryptsTo suite.provider key nonce text s) :
    ∃ blob, Base64.decode s = .ok blob ∧ blob.take nonceSize = nonce := by
  obtain ⟨hnonce, plain, -, rfl⟩ := (encryptsTo_iff suite hkey).mp h
  refine ⟨nonce ++ Gcm.encrypt key.bytes nonce plain, base64_decode_encode _, ?_⟩
  rw [← hnonce, List.take_left]

/-- A text is encrypted from `t` exactly when it is authentic and opens to `t`. -/
lemma encryptsTo_iff_opens (suite : Suite) {key : Key} (hkey : key.bytes.length = keySize)
    {nonce : Bytes} {t s : Text} :
    EncryptsTo suite.provider key nonce t s ↔
      ∃ body, Authentic key s nonce body ∧
        Provider.plainText (openedBytes key nonce body) = .ok t := by
  rw [encryptsTo_iff suite hkey]
  constructor
  · rintro ⟨hnonce, plain, ht, hs⟩
    have hopen : openedBytes key nonce (openedBytes key nonce plain) = plain := crypt_crypt _ _ _
    refine ⟨openedBytes key nonce plain, authentic_iff.mpr ⟨hnonce, ?_⟩, ?_⟩
    · rw [hopen, hs]
    · rw [hopen, plainText_eq_ok_iff, ht]
  · rintro ⟨body, hauth, ht⟩
    obtain ⟨hnonce, hs⟩ := authentic_iff.mp hauth
    exact ⟨hnonce, _, plainText_eq_ok_iff.mp ht, hs⟩

lemma authentic_unique {key : Key} {s : Text} {nonce nonce' body body' : Bytes}
    (h : Authentic key s nonce body) (h' : Authentic key s nonce' body') :
    nonce = nonce' ∧ body = body' := by
  have hblob : nonce ++ (body ++ Gcm.tag (Aes.Schedule.ofKey key.bytes) nonce body) =
      nonce' ++ (body' ++ Gcm.tag (Aes.Schedule.ofKey key.bytes) nonce' body') := by
    simpa only [List.append_assoc] using base64_encode_injective (h.spelled.symm.trans h'.spelled)
  obtain ⟨hnonce, hrest⟩ := List.append_inj hblob (h.nonce_size.trans h'.nonce_size.symm)
  refine ⟨hnonce, (List.append_inj' hrest ?_).1⟩
  rw [length_tag, length_tag]

lemma decrypt_eq_ok_iff (suite : Suite) {key : Key} (hkey : key.bytes.length = keySize)
    {s t : Text} {e : Entropy} :
    ((suite.provider.decrypt (.text s) key).result e).1 = .ok t ↔
      ∃ nonce, EncryptsTo suite.provider key nonce t s := by
  obtain ⟨nonce, body, hauth, hrun⟩ | ⟨hnone, hrun⟩ := decrypt_text_cases suite hkey s e
  · rw [hrun]
    constructor
    · intro ht
      exact ⟨nonce, (encryptsTo_iff_opens suite hkey).mpr ⟨body, hauth, ht⟩⟩
    · rintro ⟨nonce', h⟩
      obtain ⟨body', hauth', ht⟩ := (encryptsTo_iff_opens suite hkey).mp h
      obtain ⟨rfl, rfl⟩ := authentic_unique hauth hauth'
      exact ht
  · rw [hrun]
    constructor
    · intro ht
      simp at ht
    · rintro ⟨nonce, h⟩
      obtain ⟨body, hauth, -⟩ := (encryptsTo_iff_opens suite hkey).mp h
      exact absurd hauth (hnone nonce body)

/-- Decryption accepts exactly the image of encryption. A text is decrypted to `p` exactly when some
nonce makes `p` encrypt to it, which is then the nonce in front of it. It counts as tampered with
exactly when it is not the base64 text of a nonce, a body and their tag. The only other failure is
that the tag is right and the body opens to bytes that are no text. -/
theorem decrypt_accepts_exactly_encrypted (suite : Suite) (key : Key)
    (hkey : key.bytes.length = keySize) (s : Text) (e : Entropy) :
    let run := (suite.provider.decrypt (.text s) key).result e
    run.2 = e ∧
    (∀ p, run.1 = .ok p ↔
      ∃ nonce, nonce.length = nonceSize ∧ EncryptsTo suite.provider key nonce p s) ∧
    (∀ p nonce, EncryptsTo suite.provider key nonce p s →
      ∃ blob, Base64.decode s = .ok blob ∧ blob.take nonceSize = nonce) ∧
    (run.1 = .error .decryption ↔ ∀ nonce body, ¬Authentic key s nonce body) ∧
    (∀ failure, failure ≠ .decryption → (run.1 = .error failure ↔
      ∃ nonce body fault, Authentic key s nonce body ∧
        Utf8.decode (openedBytes key nonce body) = .error fault ∧
        failure = .crypto (.undecodable fault))) ∧
    Failure.message .decryption = "Decryption failed" ∧
    (∀ fault, (Failure.crypto fault).family? = some .crypto) := by
  intro run
  have haccept : ∀ p, run.1 = .ok p ↔
      ∃ nonce, nonce.length = nonceSize ∧ EncryptsTo suite.provider key nonce p s := by
    intro p
    rw [decrypt_eq_ok_iff suite hkey]
    constructor
    · rintro ⟨nonce, h⟩
      exact ⟨nonce, ((encryptsTo_iff suite hkey).mp h).1, h⟩
    · rintro ⟨nonce, -, h⟩
      exact ⟨nonce, h⟩
  have hfront : ∀ p nonce, EncryptsTo suite.provider key nonce p s →
      ∃ blob, Base64.decode s = .ok blob ∧ blob.take nonceSize = nonce := by
    intro p nonce h
    exact nonce_of_encryptsTo suite hkey h
  obtain ⟨nonce, body, hauth, hrun⟩ | ⟨hnone, hrun⟩ := decrypt_text_cases suite hkey s e
  · have hresult : run.1 = Provider.plainText (openedBytes key nonce body) := congrArg Prod.fst hrun
    refine ⟨congrArg Prod.snd hrun, haccept, hfront, ?_, ?_, rfl, fun _ => rfl⟩
    · rw [hresult]
      constructor
      · intro h
        exact absurd h (plainText_ne_decryption _)
      · intro h
        exact absurd hauth (h nonce body)
    · intro failure _
      rw [hresult, plainText_eq_error_iff]
      constructor
      · rintro ⟨fault, hfault, rfl⟩
        exact ⟨nonce, body, fault, hauth, hfault, rfl⟩
      · rintro ⟨nonce', body', fault, hauth', hfault, rfl⟩
        obtain ⟨rfl, rfl⟩ := authentic_unique hauth hauth'
        exact ⟨fault, hfault, rfl⟩
  · have hresult : run.1 = .error .decryption := congrArg Prod.fst hrun
    refine ⟨congrArg Prod.snd hrun, haccept, hfront, ?_, ?_, rfl, fun _ => rfl⟩
    · exact ⟨fun _ => hnone, fun _ => hresult⟩
    · intro failure hne
      constructor
      · intro h
        rw [hresult] at h
        exact absurd (Except.error.inj h).symm hne
      · rintro ⟨nonce, body, fault, hauth, -⟩
        exact absurd hauth (hnone nonce body)

/-- The texts that a key of zero bytes opens to a short text. -/
theorem decrypt_accepts_zero_key :
    let key : Key := ⟨List.replicate 32 0⟩
    let sealed := Payload.toText ⟨List.replicate 12 0, Gcm.encrypt key.bytes (List.replicate 12 0)
      [104, 105]⟩
    key.bytes.length = keySize ∧
      ((Suite.streaming.provider.decrypt (.text sealed) key).result (Entropy.ofBytes [])).1 =
        .ok (Text.ofString "hi") := by
  intro key sealed
  have hkey : key.bytes.length = keySize := by decide
  refine ⟨hkey, ?_⟩
  have h := decrypt_accepts_exactly_encrypted .streaming key hkey sealed (Entropy.ofBytes [])
  apply (h.2.1 _).mpr
  refine ⟨List.replicate 12 0, by decide, (encryptsTo_iff .streaming hkey).mpr ⟨by decide, ?_⟩⟩
  exact ⟨[104, 105], by decide, rfl⟩

end EnvelopeStore.Proofs
