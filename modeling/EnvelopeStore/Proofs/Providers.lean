import EnvelopeStore.Crypto.Provider
import EnvelopeStore.Proofs.Actions
import EnvelopeStore.Proofs.Gcm
import EnvelopeStore.Proofs.Utf8

/-!
# Crypto providers

The two providers are one and the same function of key, argument and source of entropy. So what
either of them does is told once, for the cipher in one piece.
-/

namespace EnvelopeStore.Proofs
open Cipher

/-- The two ways of running the cipher. -/
inductive Suite
  | oneShot
  | streaming
deriving DecidableEq

/-- The provider that runs the cipher in this way. -/
def Suite.provider : Suite → Provider Entropy
  | .oneShot => .oneShot
  | .streaming => .streaming

/-! ### One provider -/

lemma decrypt?_eq_ite (key : Bytes) (p : Payload) :
    Gcm.decrypt? key p.nonce p.ciphertext =
      if Gcm.tag (Aes.Schedule.ofKey key) p.nonce p.body = p.tag then
        some (Gcm.crypt (Aes.Schedule.ofKey key) p.nonce p.body) else none := rfl

lemma streaming_encrypt (v : Value) (key : Key) :
    Provider.streaming.encrypt v key = Provider.oneShot.encrypt v key := by
  simp only [Provider.streaming, Provider.oneShot, stream_encrypt_start]

lemma streaming_decrypt (v : Value) (key : Key) :
    Provider.streaming.decrypt v key = Provider.oneShot.decrypt v key := by
  simp only [Provider.streaming, Provider.oneShot, decrypt?_eq_ite, (stream_decrypt_start _ _ _).1,
    (stream_decrypt_start _ _ _).2]
  congr 2
  funext _
  congr 1
  funext p
  split <;> simp [*]

/-- The cipher as a stream makes the same provider as the cipher in one piece. -/
theorem streaming_eq_oneShot : Provider.streaming = Provider.oneShot := by
  have he : Provider.streaming.encrypt = Provider.oneShot.encrypt := by
    funext v key
    exact streaming_encrypt v key
  have hd : Provider.streaming.decrypt = Provider.oneShot.decrypt := by
    funext v key
    exact streaming_decrypt v key
  calc Provider.streaming
      = { Provider.oneShot with
          encrypt := Provider.streaming.encrypt, decrypt := Provider.streaming.decrypt } := rfl
    _ = Provider.oneShot := by rw [he, hd]

lemma suite_provider_eq (suite : Suite) : suite.provider = Provider.oneShot := by
  cases suite
  · rfl
  · exact streaming_eq_oneShot

/-! ### Payloads -/

lemma payload_ofBlob_toBlob {p : Payload} (hnonce : p.nonce.length = nonceSize)
    (htag : Gcm.tagSize ≤ p.ciphertext.length) : Payload.ofBlob p.toBlob = .ok p := by
  have hsize : ¬p.toBlob.length < nonceSize + Gcm.tagSize := by
    rw [Payload.toBlob, List.length_append]
    omega
  have htake : p.toBlob.take nonceSize = p.nonce := by rw [Payload.toBlob, ← hnonce, List.take_left]
  have hdrop : p.toBlob.drop nonceSize = p.ciphertext := by
    rw [Payload.toBlob, ← hnonce, List.drop_left]
  rw [Payload.ofBlob, if_neg hsize, htake, hdrop]

/-- A text is read as a payload exactly when it is the text of one, with a whole nonce and room for
a tag. -/
lemma payload_ofText_eq_ok_iff {t : Text} {p : Payload} :
    Payload.ofText t = .ok p ↔
      t = p.toText ∧ p.nonce.length = nonceSize ∧ Gcm.tagSize ≤ p.ciphertext.length := by
  constructor
  · intro h
    rw [Payload.ofText] at h
    cases hd : Base64.decode t with
    | error fault => simp [hd] at h
    | ok blob =>
      simp only [hd] at h
      split at h
      · next hcanonical =>
        rw [Payload.ofBlob] at h
        split at h
        · simp at h
        · next hsize =>
          obtain rfl := Except.ok.inj h
          simp only [nonceSize, Gcm.tagSize] at hsize
          refine ⟨?_, ?_, ?_⟩
          · rw [Payload.toText, Payload.toBlob, List.take_append_drop, hcanonical]
          · simp only [List.length_take, nonceSize]
            omega
          · simp only [List.length_drop, nonceSize, Gcm.tagSize]
            omega
      · simp at h
  · rintro ⟨rfl, hnonce, htag⟩
    rw [Payload.ofText, Payload.toText, base64_decode_encode]
    simp only [if_true, payload_ofBlob_toBlob hnonce htag]

lemma payload_ofText_error {t : Text} {failure : Failure} (h : Payload.ofText t = .error failure) :
    ∃ fault, failure = .crypto fault := by
  rw [Payload.ofText] at h
  cases hd : Base64.decode t with
  | error fault =>
    simp only [hd, Except.error.injEq] at h
    exact ⟨_, h.symm⟩
  | ok blob =>
    simp only [hd] at h
    split at h
    · rw [Payload.ofBlob] at h
      split at h
      · exact ⟨_, (Except.error.inj h).symm⟩
      · simp at h
    · exact ⟨_, (Except.error.inj h).symm⟩

lemma payload_text (t : Text) :
    (∃ p, Provider.payload (.text t) = .ok p ∧ t = p.toText ∧ p.nonce.length = nonceSize ∧
      Gcm.tagSize ≤ p.ciphertext.length) ∨
    (Provider.payload (.text t) = .error .decryption ∧
      ∀ p : Payload, p.nonce.length = nonceSize → Gcm.tagSize ≤ p.ciphertext.length →
        t ≠ p.toText) := by
  have hv : Payload.ofValue (.text t) = Payload.ofText t := rfl
  cases h : Payload.ofText t with
  | ok p => exact .inl ⟨p, by simp [Provider.payload, hv, h], payload_ofText_eq_ok_iff.mp h⟩
  | error failure =>
    obtain ⟨fault, rfl⟩ := payload_ofText_error h
    refine .inr ⟨by simp [Provider.payload, hv, h], ?_⟩
    intro p hnonce htag ht
    rw [payload_ofText_eq_ok_iff.mpr ⟨ht, hnonce, htag⟩] at h
    simp at h

/-! ### Keys, and what providers do with them -/

lemma check_eq_ok {key : Key} (h : key.bytes.length = keySize) : key.check = .ok () := by
  rw [Key.check, if_pos h]

lemma draw_result {count : Nat} {e : Entropy} (h : e.hasLeft count = true) :
    (Entropy.draw count).result e =
      (.ok (e.segment e.position count), { e with position := e.position + count }) := by
  simp only [Action.result, Entropy.draw, if_pos h]

lemma length_of_draw {count : Nat} {e e' : Entropy} {bytes : Bytes}
    (h : (Entropy.draw count).result e = (.ok bytes, e')) : bytes.length = count := by
  cases hl : e.hasLeft count with
  | true =>
    rw [draw_result hl] at h
    obtain rfl := Except.ok.inj (Prod.mk.inj h).1
    simp [Entropy.segment]
  | false => simp [Action.result, Entropy.draw, hl] at h

section

variable {key : Key} {t : Text} {nonce bytes : Bytes} {e e' : Entropy}

lemma encrypt_of_encodable (suite : Suite) (hkey : key.bytes.length = keySize)
    (hdraw : (Entropy.draw nonceSize).result e = (.ok nonce, e'))
    (ht : Text.Utf8.encode t = .ok bytes) :
    (suite.provider.encrypt (.text t) key).result e =
      (.ok (Payload.toText ⟨nonce, Gcm.encrypt key.bytes nonce bytes⟩), e') := by
  have hplain : Provider.plainBytes (.text t) = .ok bytes := by simp [Provider.plainBytes, ht]
  simp only [suite_provider_eq, Provider.oneShot, check_eq_ok hkey, hplain, Action.ofExcept_ok]
  rw [result_bind_of_ok (result_pure _ _), result_bind_of_ok hdraw,
    result_bind_of_ok (result_pure _ _), result_pure]

lemma encrypt_of_unencodable (suite : Suite) {fault : Text.EncodeFault}
    (hkey : key.bytes.length = keySize)
    (hdraw : (Entropy.draw nonceSize).result e = (.ok nonce, e'))
    (ht : Text.Utf8.encode t = .error fault) :
    (suite.provider.encrypt (.text t) key).result e =
      (.error (.crypto (.unencodable fault)), e') := by
  have hplain : Provider.plainBytes (.text t) = .error (.crypto (.unencodable fault)) := by
    simp [Provider.plainBytes, ht]
  simp only [suite_provider_eq, Provider.oneShot, check_eq_ok hkey, hplain, Action.ofExcept_ok,
    Action.ofExcept_error]
  rw [result_bind_of_ok (result_pure _ _), result_bind_of_ok hdraw,
    result_bind_of_error (result_throw _ _)]

lemma decrypt_of_sealed (suite : Suite) (hkey : key.bytes.length = keySize)
    (hnonce : nonce.length = nonceSize) (plain : Bytes) :
    (suite.provider.decrypt (.text (Payload.toText ⟨nonce, Gcm.encrypt key.bytes nonce plain⟩))
      key).result e = (Provider.plainText plain, e) := by
  have hload : Payload.ofText (Payload.toText ⟨nonce, Gcm.encrypt key.bytes nonce plain⟩) =
      .ok ⟨nonce, Gcm.encrypt key.bytes nonce plain⟩ := by
    refine payload_ofText_eq_ok_iff.mpr ⟨rfl, hnonce, ?_⟩
    simp only [length_encrypt]
    omega
  have hpayload : Provider.payload (.text (Payload.toText
      ⟨nonce, Gcm.encrypt key.bytes nonce plain⟩)) =
      .ok ⟨nonce, Gcm.encrypt key.bytes nonce plain⟩ := by
    simp only [Provider.payload, Payload.ofValue, hload]
  simp only [suite_provider_eq, Provider.oneShot, result_ofExcept, check_eq_ok hkey, hpayload,
    decrypt?_encrypt, Except.bind, bind]

/-- Any other text counts as tampered with, whatever its body would decrypt to. -/
lemma decrypt_of_not_sealed (suite : Suite) (hkey : key.bytes.length = keySize)
    (h : ∀ nonce plain, nonce.length = nonceSize →
      t ≠ Payload.toText ⟨nonce, Gcm.encrypt key.bytes nonce plain⟩) :
    (suite.provider.decrypt (.text t) key).result e = (.error .decryption, e) := by
  simp only [suite_provider_eq, Provider.oneShot, result_ofExcept, check_eq_ok hkey]
  obtain ⟨p, hpayload, ht, hnonce, htag⟩ | ⟨hpayload, -⟩ := payload_text t
  · have hnone : Gcm.decrypt? key.bytes p.nonce p.ciphertext = none := by
      cases hd : Gcm.decrypt? key.bytes p.nonce p.ciphertext with
      | none => rfl
      | some plain =>
        have hsealed := decrypt?_eq_some_iff.mp hd
        exact absurd (hsealed ▸ ht) (h p.nonce plain hnonce)
    simp only [hpayload, hnone, Except.bind, bind]
    rfl
  · simp only [hpayload, Except.bind, bind]

end

/-! ### Both providers -/

def encryptOutcome (key : Key) (t : Text) (e : Entropy) : Except Failure Text × Entropy :=
  if key.bytes.length ≠ keySize then (.error (.crypto (.keySize key.bytes.length)), e)
  else if e.hasLeft nonceSize = false then (.error .entropyExhausted, e)
  else
    let nonce := e.segment e.position nonceSize
    let sealed : Except Failure Text := match Text.Utf8.encode t with
      | .error fault => .error (.crypto (.unencodable fault))
      | .ok plain => .ok (Payload.toText ⟨nonce, Gcm.encrypt key.bytes nonce plain⟩)
    (sealed, { e with position := e.position + nonceSize })

lemma encrypt_eq_outcome (suite : Suite) (key : Key) (t : Text) (e : Entropy) :
    (suite.provider.encrypt (.text t) key).result e = encryptOutcome key t e := by
  by_cases hkey : key.bytes.length = keySize
  · cases hleft : e.hasLeft nonceSize with
    | false =>
      have hdraw : (Entropy.draw nonceSize).result e = (.error .entropyExhausted, e) := by
        simp [Action.result, Entropy.draw, hleft]
      simp only [suite_provider_eq, Provider.oneShot, check_eq_ok hkey, Action.ofExcept_ok]
      rw [result_bind_of_ok (result_pure _ _), result_bind_of_error hdraw]
      simp [encryptOutcome, hkey, hleft]
    | true =>
      have hdraw := draw_result hleft
      cases ht : Text.Utf8.encode t with
      | error fault =>
        rw [encrypt_of_unencodable suite hkey hdraw ht]
        simp [encryptOutcome, hkey, hleft, ht]
      | ok plain =>
        rw [encrypt_of_encodable suite hkey hdraw ht]
        simp [encryptOutcome, hkey, hleft, ht]
  · have hcheck : key.check = .error (.crypto (.keySize key.bytes.length)) := by
      rw [Key.check, if_neg hkey]
    simp only [suite_provider_eq, Provider.oneShot, hcheck, Action.ofExcept_error]
    rw [result_bind_of_error (result_throw _ _), encryptOutcome, if_pos hkey]

/-- A text that is encrypted was encoded, and sealed under a nonce with a key of the right size. -/
lemma encryptOutcome_eq_ok {key : Key} {t s : Text} {e e' : Entropy}
    (h : encryptOutcome key t e = (.ok s, e')) :
    key.bytes.length = keySize ∧ ∃ nonce plain, nonce.length = nonceSize ∧
      Text.Utf8.encode t = .ok plain ∧
      s = Payload.toText ⟨nonce, Gcm.encrypt key.bytes nonce plain⟩ := by
  rw [encryptOutcome] at h
  split at h
  · simp at h
  · next hkey =>
    split at h
    · simp at h
    · cases ht : Text.Utf8.encode t with
      | error fault => simp [ht] at h
      | ok plain =>
        simp only [ht, Prod.mk.injEq, Except.ok.injEq] at h
        exact ⟨not_not.mp hkey, _, plain, by simp [Entropy.segment], rfl, h.1.symm⟩

lemma decrypt_of_encryptOutcome (reader : Suite) {key : Key} {t s : Text} {e e' : Entropy}
    (h : encryptOutcome key t e = (.ok s, e')) (e'' : Entropy) :
    (reader.provider.decrypt (.text s) key).result e'' = (.ok t, e'') := by
  obtain ⟨hkey, nonce, plain, hnonce, ht, rfl⟩ := encryptOutcome_eq_ok h
  have hplain : Provider.plainText plain = .ok t := by
    rw [Provider.plainText, utf8_decode_eq_ok_iff.mpr ht]
  rw [decrypt_of_sealed reader hkey hnonce, hplain]

/-- The cipher in one piece and the cipher as a stream give the same result for every key, text and
source of entropy, failures included, and leave the source at the same place. So each reads what the
other has written. -/
theorem providers_agree (key : Key) (t : Text) (e : Entropy) :
    (Provider.oneShot.encrypt (.text t) key).result e = encryptOutcome key t e ∧
    (Provider.streaming.encrypt (.text t) key).result e = encryptOutcome key t e ∧
    (Provider.streaming.decrypt (.text t) key).result e =
      (Provider.oneShot.decrypt (.text t) key).result e ∧
    ∀ (writer reader : Suite) (s : Text) (e' e'' : Entropy),
      (writer.provider.encrypt (.text t) key).result e = (.ok s, e') →
      (reader.provider.decrypt (.text s) key).result e'' = (.ok t, e'') := by
  refine ⟨encrypt_eq_outcome .oneShot key t e, encrypt_eq_outcome .streaming key t e, ?_, ?_⟩
  · rw [streaming_decrypt]
  · intro writer reader s e' e'' h
    rw [encrypt_eq_outcome] at h
    exact decrypt_of_encryptOutcome reader h e''

/-- What the cipher in one piece makes of the empty text, the cipher as a stream reads. -/
theorem stream_reads_empty_text :
    let key : Key := ⟨List.replicate 32 0⟩
    let nonce : Bytes := List.replicate 12 7
    let sealed := Payload.toText ⟨nonce, Gcm.encrypt key.bytes nonce []⟩
    (Provider.oneShot.encrypt (.text []) key).result (Entropy.ofBytes nonce) =
      (.ok sealed, { Entropy.ofBytes nonce with position := 12 }) ∧
    (Provider.streaming.decrypt (.text sealed) key).result (Entropy.ofBytes []) =
      (.ok [], Entropy.ofBytes []) := by
  intro key nonce sealed
  have hrun : (Provider.oneShot.encrypt (.text []) key).result (Entropy.ofBytes nonce) =
      (.ok sealed, { Entropy.ofBytes nonce with position := 12 }) := by
    rw [(providers_agree key [] (Entropy.ofBytes nonce)).1]
    rfl
  exact ⟨hrun, (providers_agree key [] (Entropy.ofBytes nonce)).2.2.2 .oneShot .streaming sealed _
    _ hrun⟩

end EnvelopeStore.Proofs
