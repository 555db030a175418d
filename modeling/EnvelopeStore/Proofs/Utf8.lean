import EnvelopeStore.Proofs.Base64
import EnvelopeStore.Text.Utf8
import Mathlib.Data.List.TakeWhile

/-!
# UTF-8

Strict reading and writing are inverse to each other: bytes are read as a text exactly when they
are what is written for it. Both halves are proved character by character.
-/

namespace EnvelopeStore.Proofs
open Text Text.Utf8

/-! ### Writing -/

/-- A text without surrogates, which is one that can be written. -/
def SurrogateFree (t : Text) : Prop := ∀ c ∈ t, c.isSurrogate = false

instance (t : Text) : Decidable (SurrogateFree t) :=
  inferInstanceAs (Decidable (∀ c ∈ t, c.isSurrogate = false))

lemma surrogateFree_append {t u : Text} (ht : SurrogateFree t) (hu : SurrogateFree u) :
    SurrogateFree (t ++ u) := by
  intro c hc
  obtain h | h := List.mem_append.mp hc
  · exact ht c h
  · exact hu c h

lemma surrogateFree_ofString (s : String) : SurrogateFree (ofString s) := by
  intro c hc
  obtain ⟨char, -, rfl⟩ := List.mem_map.mp hc
  exact CodePoint.isSurrogate_ofChar char

lemma surrogateFree_base64 (bytes : Bytes) : SurrogateFree (Base64.encode bytes) := by
  intro c hc
  have hascii := List.all_eq_true.mp (base64_encode_isAscii bytes) c hc
  simp only [CodePoint.isAscii, decide_eq_true_eq] at hascii
  simp only [CodePoint.isSurrogate, Bool.and_eq_false_iff, decide_eq_false_iff_not]
  omega

lemma encodeFault_find?_eq_none_iff {t : Text} :
    EncodeFault.find? t = none ↔ SurrogateFree t := by
  have hdrop : t.dropWhile (fun c => !c.isSurrogate) = [] ↔ SurrogateFree t := by
    simp [SurrogateFree, List.dropWhile_eq_nil_iff]
  rw [← hdrop, EncodeFault.find?]
  cases t.dropWhile (fun c => !c.isSurrogate) <;> simp

lemma utf8_encode_eq_ok_iff {t : Text} {bytes : Bytes} :
    encode t = .ok bytes ↔ SurrogateFree t ∧ t.flatMap encodeChar = bytes := by
  rw [encode, ← encodeFault_find?_eq_none_iff]
  cases EncodeFault.find? t <;> simp

/-! ### The bytes after the first -/

lemma followers_cons {more low high value : Nat} {b : UInt8} {tail : Bytes} {r : Nat × Bytes}
    (hl : low ≤ b.toNat) (hh : b.toNat ≤ high)
    (h : followers more 0x80 0xBF (value * 0x40 + (b.toNat - 0x80)) tail = .ok r) :
    followers (more + 1) low high value (b :: tail) = .ok r := by
  rw [followers, if_pos ⟨hl, hh⟩, h]

lemma followers_succ {more low high value : Nat} {bytes : Bytes} {r : Nat × Bytes}
    (h : followers (more + 1) low high value bytes = .ok r) :
    ∃ b tail, bytes = b :: tail ∧ low ≤ b.toNat ∧ b.toNat ≤ high ∧
      followers more 0x80 0xBF (value * 0x40 + (b.toNat - 0x80)) tail = .ok r := by
  cases bytes with
  | nil => simp [followers] at h
  | cons b tail =>
    rw [followers] at h
    split at h
    · next hb =>
      refine ⟨b, tail, rfl, hb.1, hb.2, ?_⟩
      cases hf : followers more 0x80 0xBF (value * 0x40 + (b.toNat - 0x80)) tail with
      | ok r' => simpa [hf] using h
      | error e => simp [hf] at h
    · simp at h

lemma followers_zero {low high value v : Nat} {bytes rest : Bytes}
    (h : followers 0 low high value bytes = .ok (v, rest)) : v = value ∧ bytes = rest := by
  simp only [followers, Except.ok.injEq, Prod.mk.injEq] at h
  exact ⟨h.1.symm, h.2⟩

/-! ### One character -/

lemma uint8_toNat_ofNat {n : Nat} (h : n < 256) : (UInt8.ofNat n).toNat = n :=
  UInt8.toNat_ofNat_of_lt h

lemma next_of_followers {b : UInt8} {share low high more : Nat} {bytes rest : Bytes} {c : CodePoint}
    (hl : lead? b = some ⟨share, low, high, more⟩)
    (hf : followers more low high share bytes = .ok (c.val, rest)) :
    next b bytes = .ok (c, rest) := by
  rw [next, hl]
  simp only [hf, CodePoint.ofNat_val]

lemma next_one {c : CodePoint} (hc : c.val < 0x80) (rest : Bytes) :
    next (UInt8.ofNat c.val) rest = .ok (c, rest) := by
  have hb : (UInt8.ofNat c.val).toNat = c.val := uint8_toNat_ofNat (by omega)
  have hl : lead? (UInt8.ofNat c.val) = some ⟨c.val, 0x80, 0xBF, 0⟩ := by
    simp only [lead?, hb]
    rw [if_pos hc]
  exact next_of_followers hl rfl

lemma next_two {c : CodePoint} (hmin : 0x80 ≤ c.val) (hmax : c.val < 0x800) (rest : Bytes) :
    next (UInt8.ofNat (0xC0 + c.val / 0x40)) (UInt8.ofNat (0x80 + c.val % 0x40) :: rest) =
      .ok (c, rest) := by
  have hb : (UInt8.ofNat (0xC0 + c.val / 0x40)).toNat = 0xC0 + c.val / 0x40 :=
    uint8_toNat_ofNat (by omega)
  have hx : (UInt8.ofNat (0x80 + c.val % 0x40)).toNat = 0x80 + c.val % 0x40 :=
    uint8_toNat_ofNat (by omega)
  have hl : lead? (UInt8.ofNat (0xC0 + c.val / 0x40)) = some ⟨c.val / 0x40, 0x80, 0xBF, 1⟩ := by
    simp only [lead?, hb]
    rw [if_neg (by omega), if_neg (by omega), if_pos (by omega), Nat.add_sub_cancel_left]
  have hv : c.val / 0x40 * 0x40 + (0x80 + c.val % 0x40 - 0x80) = c.val := by omega
  refine next_of_followers hl (followers_cons (by omega) (by omega) ?_)
  rw [followers, hx, hv]

lemma next_three {c : CodePoint} (hmin : 0x800 ≤ c.val) (hmax : c.val < 0x10000)
    (hs : c.val < 0xD800 ∨ 0xDFFF < c.val) (rest : Bytes) :
    next (UInt8.ofNat (0xE0 + c.val / 0x1000))
      (UInt8.ofNat (0x80 + c.val / 0x40 % 0x40) :: UInt8.ofNat (0x80 + c.val % 0x40) :: rest) =
      .ok (c, rest) := by
  have hb : (UInt8.ofNat (0xE0 + c.val / 0x1000)).toNat = 0xE0 + c.val / 0x1000 :=
    uint8_toNat_ofNat (by omega)
  have hx : (UInt8.ofNat (0x80 + c.val / 0x40 % 0x40)).toNat = 0x80 + c.val / 0x40 % 0x40 :=
    uint8_toNat_ofNat (by omega)
  have hy : (UInt8.ofNat (0x80 + c.val % 0x40)).toNat = 0x80 + c.val % 0x40 :=
    uint8_toNat_ofNat (by omega)
  obtain ⟨low, high, hl, hlow, hhigh⟩ : ∃ low high,
      lead? (UInt8.ofNat (0xE0 + c.val / 0x1000)) = some ⟨c.val / 0x1000, low, high, 2⟩ ∧
      low ≤ 0x80 + c.val / 0x40 % 0x40 ∧ 0x80 + c.val / 0x40 % 0x40 ≤ high := by
    refine ⟨if 0xE0 + c.val / 0x1000 = 0xE0 then 0xA0 else 0x80,
      if 0xE0 + c.val / 0x1000 = 0xED then 0x9F else 0xBF, ?_, ?_, ?_⟩
    · simp only [lead?, hb]
      rw [if_neg (by omega), if_neg (by omega), if_neg (by omega), if_pos (by omega),
        Nat.add_sub_cancel_left]
    · split <;> omega
    · split <;> omega
  have hv : (c.val / 0x1000 * 0x40 + (0x80 + c.val / 0x40 % 0x40 - 0x80)) * 0x40 +
      (0x80 + c.val % 0x40 - 0x80) = c.val := by omega
  refine next_of_followers hl (followers_cons (by omega) (by omega)
    (followers_cons (by omega) (by omega) ?_))
  rw [followers, hx, hy, hv]

lemma next_four {c : CodePoint} (hmin : 0x10000 ≤ c.val) (rest : Bytes) :
    next (UInt8.ofNat (0xF0 + c.val / 0x40000))
      (UInt8.ofNat (0x80 + c.val / 0x1000 % 0x40) :: UInt8.ofNat (0x80 + c.val / 0x40 % 0x40) ::
        UInt8.ofNat (0x80 + c.val % 0x40) :: rest) =
      .ok (c, rest) := by
  have hmax := c.isLt
  have hb : (UInt8.ofNat (0xF0 + c.val / 0x40000)).toNat = 0xF0 + c.val / 0x40000 :=
    uint8_toNat_ofNat (by omega)
  have hx : (UInt8.ofNat (0x80 + c.val / 0x1000 % 0x40)).toNat = 0x80 + c.val / 0x1000 % 0x40 :=
    uint8_toNat_ofNat (by omega)
  have hy : (UInt8.ofNat (0x80 + c.val / 0x40 % 0x40)).toNat = 0x80 + c.val / 0x40 % 0x40 :=
    uint8_toNat_ofNat (by omega)
  have hz : (UInt8.ofNat (0x80 + c.val % 0x40)).toNat = 0x80 + c.val % 0x40 :=
    uint8_toNat_ofNat (by omega)
  obtain ⟨low, high, hl, hlow, hhigh⟩ : ∃ low high,
      lead? (UInt8.ofNat (0xF0 + c.val / 0x40000)) = some ⟨c.val / 0x40000, low, high, 3⟩ ∧
      low ≤ 0x80 + c.val / 0x1000 % 0x40 ∧ 0x80 + c.val / 0x1000 % 0x40 ≤ high := by
    refine ⟨if 0xF0 + c.val / 0x40000 = 0xF0 then 0x90 else 0x80,
      if 0xF0 + c.val / 0x40000 = 0xF4 then 0x8F else 0xBF, ?_, ?_, ?_⟩
    · simp only [lead?, hb]
      rw [if_neg (by omega), if_neg (by omega), if_neg (by omega), if_neg (by omega),
        if_pos (by omega), Nat.add_sub_cancel_left]
    · split <;> omega
    · split <;> omega
  have hv : ((c.val / 0x40000 * 0x40 + (0x80 + c.val / 0x1000 % 0x40 - 0x80)) * 0x40 +
      (0x80 + c.val / 0x40 % 0x40 - 0x80)) * 0x40 + (0x80 + c.val % 0x40 - 0x80) = c.val := by omega
  refine next_of_followers hl (followers_cons (by omega) (by omega)
    (followers_cons (by omega) (by omega) (followers_cons (by omega) (by omega) ?_)))
  rw [followers, hx, hy, hz, hv]

lemma isSurrogate_eq_false_iff {c : CodePoint} :
    c.isSurrogate = false ↔ c.val < 0xD800 ∨ 0xDFFF < c.val := by
  simp only [CodePoint.isSurrogate, Bool.and_eq_false_iff, decide_eq_false_iff_not]
  omega

lemma next_of_encodeChar {c : CodePoint} (hc : c.isSurrogate = false) {b : UInt8}
    {bytes rest : Bytes} (h : b :: bytes = encodeChar c ++ rest) :
    next b bytes = .ok (c, rest) := by
  rw [isSurrogate_eq_false_iff] at hc
  rw [encodeChar] at h
  split at h
  · next h1 =>
    obtain ⟨rfl, rfl⟩ := List.cons.inj h
    exact next_one h1 _
  · split at h
    · next h1 h2 =>
      obtain ⟨rfl, rfl⟩ := List.cons.inj h
      exact next_two (by omega) h2 _
    · split at h
      · next h2 h3 =>
        obtain ⟨rfl, rfl⟩ := List.cons.inj h
        exact next_three (by omega) h3 hc _
      · next h3 =>
        obtain ⟨rfl, rfl⟩ := List.cons.inj h
        exact next_four (by omega) _

lemma lead?_cases {b : UInt8} {lead : Lead} (h : lead? b = some lead) :
    (b.toNat < 0x80 ∧ lead.share = b.toNat ∧ lead.more = 0) ∨
    (0xC2 ≤ b.toNat ∧ b.toNat < 0xE0 ∧ lead.share = b.toNat - 0xC0 ∧ lead.more = 1 ∧
      lead.low = 0x80 ∧ lead.high = 0xBF) ∨
    (0xE0 ≤ b.toNat ∧ b.toNat < 0xF0 ∧ lead.share = b.toNat - 0xE0 ∧ lead.more = 2 ∧
      0x80 ≤ lead.low ∧ lead.high ≤ 0xBF ∧ (b.toNat = 0xE0 → 0xA0 ≤ lead.low) ∧
      (b.toNat = 0xED → lead.high ≤ 0x9F)) ∨
    (0xF0 ≤ b.toNat ∧ b.toNat < 0xF5 ∧ lead.share = b.toNat - 0xF0 ∧ lead.more = 3 ∧
      0x80 ≤ lead.low ∧ lead.high ≤ 0xBF ∧ (b.toNat = 0xF0 → 0x90 ≤ lead.low) ∧
      (b.toNat = 0xF4 → lead.high ≤ 0x8F)) := by
  simp only [lead?] at h
  split at h
  · next h1 =>
    obtain rfl := Option.some.inj h
    exact .inl ⟨h1, rfl, rfl⟩
  · split at h
    · simp at h
    · split at h
      · next h2 h3 =>
        obtain rfl := Option.some.inj h
        exact .inr (.inl ⟨by omega, h3, rfl, rfl, rfl, rfl⟩)
      · split at h
        · next h3 h4 =>
          obtain rfl := Option.some.inj h
          refine .inr (.inr (.inl ⟨by omega, h4, rfl, rfl, ?_⟩))
          dsimp only
          split <;> split <;> omega
        · split at h
          · next h4 h5 =>
            obtain rfl := Option.some.inj h
            refine .inr (.inr (.inr ⟨by omega, h5, rfl, rfl, ?_⟩))
            dsimp only
            split <;> split <;> omega
          · simp at h

lemma encodeChar_one {v : Nat} {b : UInt8} (hv : v < 0x80) (hb : v = b.toNat) :
    encodeChar (CodePoint.ofNat v) = [b] := by
  rw [encodeChar, CodePoint.val_ofNat (by omega), if_pos hv, uint8_ofNat_eq (b := b) (by omega)]

lemma encodeChar_two {v : Nat} {b x : UInt8} (hmin : 0x80 ≤ v) (hmax : v < 0x800)
    (hb : 0xC0 + v / 0x40 = b.toNat) (hx : 0x80 + v % 0x40 = x.toNat) :
    encodeChar (CodePoint.ofNat v) = [b, x] := by
  rw [encodeChar, CodePoint.val_ofNat (by omega), if_neg (by omega), if_pos hmax,
    uint8_ofNat_eq (b := b) (by omega), uint8_ofNat_eq (b := x) (by omega)]

lemma encodeChar_three {v : Nat} {b x y : UInt8} (hmin : 0x800 ≤ v) (hmax : v < 0x10000)
    (hb : 0xE0 + v / 0x1000 = b.toNat) (hx : 0x80 + v / 0x40 % 0x40 = x.toNat)
    (hy : 0x80 + v % 0x40 = y.toNat) :
    encodeChar (CodePoint.ofNat v) = [b, x, y] := by
  rw [encodeChar, CodePoint.val_ofNat (by omega), if_neg (by omega), if_neg (by omega),
    if_pos hmax, uint8_ofNat_eq (b := b) (by omega), uint8_ofNat_eq (b := x) (by omega),
    uint8_ofNat_eq (b := y) (by omega)]

lemma encodeChar_four {v : Nat} {b x y z : UInt8} (hmin : 0x10000 ≤ v) (hmax : v < 0x110000)
    (hb : 0xF0 + v / 0x40000 = b.toNat) (hx : 0x80 + v / 0x1000 % 0x40 = x.toNat)
    (hy : 0x80 + v / 0x40 % 0x40 = y.toNat) (hz : 0x80 + v % 0x40 = z.toNat) :
    encodeChar (CodePoint.ofNat v) = [b, x, y, z] := by
  rw [encodeChar, CodePoint.val_ofNat hmax, if_neg (by omega), if_neg (by omega),
    if_neg (by omega), uint8_ofNat_eq (b := b) (by omega), uint8_ofNat_eq (b := x) (by omega),
    uint8_ofNat_eq (b := y) (by omega), uint8_ofNat_eq (b := z) (by omega)]

lemma isSurrogate_ofNat {v : Nat} (hv : v < 0x110000) (h : v < 0xD800 ∨ 0xDFFF < v) :
    (CodePoint.ofNat v).isSurrogate = false := by
  rw [isSurrogate_eq_false_iff, CodePoint.val_ofNat hv]
  exact h

/-- What is read as a character is what is written for it, and is no surrogate. -/
lemma encodeChar_of_followers {b : UInt8} {lead : Lead} {bytes rest : Bytes} {v : Nat}
    (hl : lead? b = some lead)
    (hf : followers lead.more lead.low lead.high lead.share bytes = .ok (v, rest)) :
    (CodePoint.ofNat v).isSurrogate = false ∧
      encodeChar (CodePoint.ofNat v) ++ rest = b :: bytes := by
  obtain ⟨lo, hs, hm⟩ | ⟨lo, hi, hs, hm, hlow, hhigh⟩ | ⟨lo, hi, hs, hm, hlow, hhigh, h1, h2⟩ |
    ⟨lo, hi, hs, hm, hlow, hhigh, h1, h2⟩ := lead?_cases hl
  · rw [hm] at hf
    obtain ⟨hv, rfl⟩ := followers_zero hf
    exact ⟨isSurrogate_ofNat (by omega) (by omega), by
      rw [encodeChar_one (b := b) (by omega) (by omega)]; rfl⟩
  · rw [hm, hs] at hf
    obtain ⟨x, tail, rfl, hl2, hh2, hf⟩ := followers_succ hf
    obtain ⟨hv, rfl⟩ := followers_zero hf
    exact ⟨isSurrogate_ofNat (by omega) (by omega), by
      rw [encodeChar_two (b := b) (x := x) (by omega) (by omega) (by omega) (by omega)]; rfl⟩
  · rw [hm, hs] at hf
    obtain ⟨x, tail, rfl, hl2, hh2, hf⟩ := followers_succ hf
    obtain ⟨y, tail, rfl, hl3, hh3, hf⟩ := followers_succ hf
    obtain ⟨hv, rfl⟩ := followers_zero hf
    exact ⟨isSurrogate_ofNat (by omega) (by omega), by
      rw [encodeChar_three (b := b) (x := x) (y := y) (by omega) (by omega) (by omega)
        (by omega) (by omega)]; rfl⟩
  · rw [hm, hs] at hf
    obtain ⟨x, tail, rfl, hl2, hh2, hf⟩ := followers_succ hf
    obtain ⟨y, tail, rfl, hl3, hh3, hf⟩ := followers_succ hf
    obtain ⟨z, tail, rfl, hl4, hh4, hf⟩ := followers_succ hf
    obtain ⟨hv, rfl⟩ := followers_zero hf
    exact ⟨isSurrogate_ofNat (by omega) (by omega), by
      rw [encodeChar_four (b := b) (x := x) (y := y) (z := z) (by omega) (by omega) (by omega)
        (by omega) (by omega) (by omega)]; rfl⟩

lemma encodeChar_of_next {c : CodePoint} {b : UInt8} {bytes rest : Bytes}
    (h : next b bytes = .ok (c, rest)) :
    c.isSurrogate = false ∧ encodeChar c ++ rest = b :: bytes := by
  rw [next] at h
  cases hl : lead? b with
  | none => simp [hl] at h
  | some lead =>
    cases hf : followers lead.more lead.low lead.high lead.share bytes with
    | error e => simp [hl, hf] at h
    | ok r =>
      simp only [hl, hf, Except.ok.injEq, Prod.mk.injEq] at h
      obtain ⟨rfl, rfl⟩ := h
      exact encodeChar_of_followers hl hf

/-! ### Whole texts -/

lemma encodeChar_ne_nil (c : CodePoint) : encodeChar c ≠ [] := by
  rw [encodeChar]
  split
  · simp
  · split
    · simp
    · split <;> simp

lemma surrogate?_of_next {b : UInt8} {bytes rest : Bytes} {c : CodePoint}
    (h : next b bytes = .ok (c, rest)) : surrogate? b bytes = none := by
  rw [surrogate?.eq_def]
  split
  · next x y tail =>
    rw [if_neg]
    rintro ⟨hb, hx, -⟩
    obtain rfl : b = 0xED := UInt8.toNat_inj.mp hb
    have hrefused : ¬(0x80 ≤ x.toNat ∧ x.toNat ≤ 0x9F) := by omega
    have hlead : lead? 0xED = some ⟨0xD, 0x80, 0x9F, 2⟩ := rfl
    simp [next, hlead, followers, hrefused] at h
  · rfl

lemma nextWith_of_next (lenient : Bool) {b : UInt8} {bytes rest : Bytes} {c : CodePoint}
    (h : next b bytes = .ok (c, rest)) : nextWith lenient b bytes = .ok (c, rest) := by
  cases lenient <;> simp [nextWith, surrogate?_of_next h, h]

lemma decodeLoop_cons (lenient : Bool) {size : Nat} {read : Text} {b : UInt8} {bytes rest : Bytes}
    {c : CodePoint} (h : next b bytes = .ok (c, rest)) :
    decodeLoop lenient size read (b :: bytes) = decodeLoop lenient size (c :: read) rest := by
  rw [decodeLoop]
  split
  · next c' rest' h' =>
    rw [nextWith_of_next lenient h] at h'
    obtain ⟨rfl, rfl⟩ := Prod.mk.inj (Except.ok.inj h')
    rfl
  · next h' =>
    rw [nextWith_of_next lenient h] at h'
    simp at h'

lemma decodeLoop_encode (lenient : Bool) (size : Nat) (read t : Text) (ht : SurrogateFree t) :
    decodeLoop lenient size read (t.flatMap encodeChar) = .ok (read.reverse ++ t) := by
  induction t generalizing read with
  | nil => simp [decodeLoop]
  | cons c t ih =>
    obtain ⟨b, bytes, hb⟩ := List.exists_cons_of_ne_nil (encodeChar_ne_nil c)
    have hn : next b (bytes ++ t.flatMap encodeChar) = .ok (c, t.flatMap encodeChar) :=
      next_of_encodeChar (ht c (by simp)) (by rw [hb]; rfl)
    rw [List.flatMap_cons, hb, List.cons_append, decodeLoop_cons lenient hn,
      ih (c :: read) fun d hd => ht d (by simp [hd])]
    simp

lemma encode_of_decodeLoop {size : Nat} {read t : Text} {bytes : Bytes}
    (h : decodeLoop false size read bytes = .ok t) :
    ∃ u, t = read.reverse ++ u ∧ SurrogateFree u ∧ u.flatMap encodeChar = bytes := by
  fun_induction decodeLoop false size read bytes with
  | case1 read =>
    obtain rfl := Except.ok.inj h
    exact ⟨[], by simp, by simp [SurrogateFree], rfl⟩
  | case2 read b bytes c rest hn ih =>
    obtain ⟨hs, hc⟩ := encodeChar_of_next hn
    obtain ⟨u, rfl, hu, rfl⟩ := ih h
    refine ⟨c :: u, by simp, ?_, by rw [List.flatMap_cons, hc]⟩
    intro d hd
    obtain rfl | hd := List.mem_cons.mp hd
    · exact hs
    · exact hu d hd
  | case3 => simp at h

/-- Bytes are read as a text exactly when they are what is written for it. -/
theorem utf8_decode_eq_ok_iff {bytes : Bytes} {t : Text} :
    decode bytes = .ok t ↔ encode t = .ok bytes := by
  rw [utf8_encode_eq_ok_iff, decode]
  constructor
  · intro h
    obtain ⟨u, rfl, hu, hb⟩ := encode_of_decodeLoop h
    exact ⟨hu, hb⟩
  · rintro ⟨ht, rfl⟩
    exact decodeLoop_encode false _ [] t ht

lemma decodeLenient_of_encode {bytes : Bytes} {t : Text} (h : encode t = .ok bytes) :
    decodeLenient bytes = .ok t := by
  obtain ⟨ht, rfl⟩ := utf8_encode_eq_ok_iff.mp h
  exact decodeLoop_encode true _ [] t ht

end EnvelopeStore.Proofs
