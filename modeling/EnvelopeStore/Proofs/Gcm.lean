import EnvelopeStore.Cipher.Stream
import Mathlib.Tactic.Lemma

/-!
# Authenticated encryption

Opening accepts exactly what sealing produces, and the cipher as a stream computes the same
ciphertext and tag as the cipher in one piece. Nothing here looks into the block cipher or into the
product of the hash: the keystream is some bytes fixed by key and nonce, and the tag some function
of key, nonce and ciphertext.
-/

namespace EnvelopeStore.Proofs
open Cipher Cipher.Gcm

/-! ### The keystream -/

lemma add_add_cancel {a b : Bytes} (h : a.length ≤ b.length) : Gcm.add (Gcm.add a b) b = a := by
  induction a generalizing b with
  | nil => rfl
  | cons x a ih =>
    cases b with
    | nil => simp at h
    | cons y b =>
      simp only [List.length_cons, Nat.add_le_add_iff_right] at h
      have hx : (x ^^^ y) ^^^ y = x := by
        rw [UInt8.xor_assoc, UInt8.xor_self, UInt8.xor_zero]
      have ht : Gcm.add (Gcm.add a b) b = a := ih h
      simp only [Gcm.add, List.zipWith_cons_cons] at ht ⊢
      rw [hx, ht]

lemma length_keystream (keys : Aes.Schedule) (nonce : Bytes) (first count : Nat) :
    (keystream keys nonce first count).length = 16 * count := by
  have hblock : ∀ i, (keyBlock keys nonce i).length = 16 := fun _ => Aes.Block.length_toBytes _
  induction count with
  | zero => rfl
  | succ count ih =>
    rw [keystream, List.range_succ, List.flatMap_append, List.length_append, ← keystream, ih]
    simp only [List.flatMap_cons, List.flatMap_nil, List.append_nil, hblock]
    omega

lemma length_le_keystream (keys : Aes.Schedule) (nonce data : Bytes) (first : Nat) :
    data.length ≤ (keystream keys nonce first (blocksFor data.length)).length := by
  rw [length_keystream, blocksFor]
  omega

lemma length_crypt (keys : Aes.Schedule) (nonce data : Bytes) :
    (crypt keys nonce data).length = data.length := by
  rw [crypt, Gcm.add, List.length_zipWith]
  exact Nat.min_eq_left (length_le_keystream keys nonce data 2)

lemma crypt_crypt (keys : Aes.Schedule) (nonce data : Bytes) :
    crypt keys nonce (crypt keys nonce data) = data := by
  rw [crypt, length_crypt, crypt]
  exact add_add_cancel (length_le_keystream keys nonce data 2)

/-! ### Sealing and opening -/

lemma length_tag (keys : Aes.Schedule) (nonce body : Bytes) :
    (tag keys nonce body).length = 16 := by
  rw [tag, mask, Gcm.add, List.length_zipWith, Ghash.Element.length_toBytes]
  rfl

lemma length_encrypt (key nonce plain : Bytes) :
    (encrypt key nonce plain).length = plain.length + tagSize := by
  rw [encrypt, List.length_append, length_crypt, length_tag, tagSize]

lemma decrypt?_encrypt (key nonce plain : Bytes) :
    decrypt? key nonce (encrypt key nonce plain) = some plain := by
  have hsize : (encrypt key nonce plain).length - tagSize =
      (crypt (Aes.Schedule.ofKey key) nonce plain).length := by
    rw [length_encrypt, length_crypt, Nat.add_sub_cancel]
  simp only [decrypt?, hsize]
  simp only [encrypt, List.take_left, List.drop_left, if_true, crypt_crypt]

/-- Opening accepts exactly what sealing produces. -/
theorem decrypt?_eq_some_iff {key nonce sealed plain : Bytes} :
    decrypt? key nonce sealed = some plain ↔ sealed = encrypt key nonce plain := by
  constructor
  · intro h
    simp only [decrypt?] at h
    split at h
    · next htag =>
      obtain rfl := Option.some.inj h
      rw [encrypt]
      simp only [crypt_crypt, htag, List.take_append_drop]
    · simp at h
  · rintro rfl
    exact decrypt?_encrypt key nonce plain

/-! ### The cipher as a stream -/

lemma blocks_append {a b : Bytes} (h : 16 ∣ a.length) :
    Ghash.blocks (a ++ b) = Ghash.blocks a ++ Ghash.blocks b := by
  fun_induction Ghash.blocks a with
  | case1 => rfl
  | case2 x rest ih =>
    have hlen : 15 ≤ rest.length := by
      simp only [List.length_cons] at h
      omega
    have hdrop : 16 ∣ (rest.drop 15).length := by
      simp only [List.length_cons, List.length_drop] at h ⊢
      omega
    rw [List.cons_append, Ghash.blocks, List.take_append_of_le_length hlen,
      List.drop_append_of_le_length hlen, ih hdrop]
    rfl

lemma foldl_absorb_split (h sum : Ghash.Element) (bytes : Bytes) :
    (Ghash.blocks (bytes.drop (bytes.length / 16 * 16))).foldl (Ghash.absorb h)
      ((Ghash.blocks (bytes.take (bytes.length / 16 * 16))).foldl (Ghash.absorb h) sum) =
    (Ghash.blocks bytes).foldl (Ghash.absorb h) sum := by
  have hlen : (bytes.take (bytes.length / 16 * 16)).length = bytes.length / 16 * 16 := by
    rw [List.length_take]
    omega
  rw [← List.foldl_append, ← blocks_append (by rw [hlen]; omega), List.take_append_drop]

lemma stream_add_start (key nonce piece : Bytes) :
    ((Stream.start key nonce).add piece).1 = crypt (Aes.Schedule.ofKey key) nonce piece := by
  simp [Stream.add, Stream.start, crypt]

/-- A stream that took in a whole ciphertext at once has the tag of that ciphertext. -/
lemma stream_absorb_tag (key nonce piece body : Bytes) :
    (((Stream.start key nonce).add piece).2.absorb body).tag =
      tag (Aes.Schedule.ofKey key) nonce body := by
  simp only [Stream.tag, Stream.absorb, Stream.add, Stream.start, List.nil_append, Nat.zero_add,
    foldl_absorb_split]
  rfl

theorem stream_encrypt_start (key nonce plain : Bytes) :
    ((Stream.start key nonce).encrypt plain).1 ++ ((Stream.start key nonce).encrypt plain).2.tag =
      encrypt key nonce plain := by
  simp only [Stream.encrypt, stream_absorb_tag, stream_add_start]
  rfl

theorem stream_decrypt_start (key nonce body : Bytes) :
    ((Stream.start key nonce).decrypt body).1 = crypt (Aes.Schedule.ofKey key) nonce body ∧
      ((Stream.start key nonce).decrypt body).2.tag = tag (Aes.Schedule.ofKey key) nonce body := by
  simp only [Stream.decrypt, stream_absorb_tag, stream_add_start, and_self]

end EnvelopeStore.Proofs
