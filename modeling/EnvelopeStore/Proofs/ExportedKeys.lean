import EnvelopeStore.Proofs.Integrity
import Mathlib.Algebra.Order.Ring.Int

/-!
# Exported keys

The exported form of a key is 43 characters of the alphabet and one mark of padding. The characters
spell 258 bits, two more than a key has, so that four texts denote each key; all of them are
imported, and exporting picks the one in which the last two bits are clear.
-/

namespace EnvelopeStore.Proofs
open Base64

/-! ### Bits -/

/-- The standard alphabet, each character in the place of its value. -/
def alphabet : Text := "ABCDEFGHIJKLMNOPQRSTUVWXYZabcdefghijklmnopqrstuvwxyz0123456789+/"

/-- The last `width` binary digits of a number, the highest first. -/
def bits : (width : Nat) → Nat → List Bool
  | 0, _ => []
  | width + 1, n => n.testBit width :: bits width n

def bitsOfCharacter (c : CodePoint) : List Bool := bits 6 (alphabet.idxOf c)

def bitsOfBytes (bytes : Bytes) : List Bool := bytes.flatMap fun b => bits 8 b.toNat

def bitsOfValues (values : List Nat) : List Bool := values.flatMap (bits 6)

lemma length_bits (width n : Nat) : (bits width n).length = width := by
  induction width with
  | zero => rfl
  | succ width ih => rw [bits, List.length_cons, ih]

lemma length_bitsOfBytes (bytes : Bytes) : (bitsOfBytes bytes).length = 8 * bytes.length := by
  induction bytes with
  | nil => rfl
  | cons b bytes ih =>
    rw [bitsOfBytes, List.flatMap_cons, List.length_append, length_bits, ← bitsOfBytes, ih,
      List.length_cons]
    omega

lemma bits_congr {width m n : Nat} (h : ∀ i < width, m.testBit i = n.testBit i) :
    bits width m = bits width n := by
  induction width with
  | zero => rfl
  | succ width ih => rw [bits, bits, h width (by omega), ih fun i hi => h i (by omega)]

lemma bits_add (upper lower a : Nat) {b : Nat} (hb : b < 2 ^ lower) :
    bits (upper + lower) (a * 2 ^ lower + b) = bits upper a ++ bits lower b := by
  rw [Nat.mul_comm]
  induction upper with
  | zero =>
    rw [Nat.zero_add]
    refine bits_congr fun i hi => ?_
    rw [Nat.testBit_two_pow_mul_add a hb, if_pos hi]
  | succ upper ih =>
    have hbit : (2 ^ lower * a + b).testBit (upper + lower) = a.testBit upper := by
      rw [Nat.testBit_two_pow_mul_add a hb, if_neg (by omega), Nat.add_sub_cancel]
    rw [Nat.succ_add, bits, hbit, ih]
    rfl

lemma bits_split (upper lower n : Nat) :
    bits (upper + lower) n = bits upper (n / 2 ^ lower) ++ bits lower (n % 2 ^ lower) := by
  rw [← bits_add upper lower _ (Nat.mod_lt n (Nat.two_pow_pos lower)), Nat.div_add_mod']

lemma bits_byte (upper lower : Nat) {a b : Nat} (h : upper + lower = 8) (ha : a < 2 ^ upper)
    (hb : b < 2 ^ lower) :
    bits 8 (UInt8.ofNat (a * 2 ^ lower + b)).toNat = bits upper a ++ bits lower b := by
  have hlt : a * 2 ^ lower + b < 256 := by
    calc a * 2 ^ lower + b
      _ < (a + 1) * 2 ^ lower := by rw [Nat.succ_mul]; omega
      _ ≤ 2 ^ upper * 2 ^ lower := Nat.mul_le_mul_right _ ha
      _ = 256 := by rw [← Nat.pow_add, h]
  rw [UInt8.toNat_ofNat_of_lt' hlt, ← h, bits_add upper lower a hb]

lemma bits_injective {width m n : Nat} (hm : m < 2 ^ width) (hn : n < 2 ^ width)
    (h : bits width m = bits width n) : m = n := by
  have hbits : ∀ w ≤ width, bits w m = bits w n → ∀ i < w, m.testBit i = n.testBit i := by
    intro w
    induction w with
    | zero => intro _ _ i hi; omega
    | succ w ih =>
      intro hw heq i hi
      rw [bits, bits, List.cons.injEq] at heq
      obtain rfl | hlt := Nat.eq_or_lt_of_le (Nat.le_of_lt_succ hi)
      · exact heq.1
      · exact ih (by omega) heq.2 i hlt
  refine Nat.eq_of_testBit_eq fun i => ?_
  by_cases hi : i < width
  · exact hbits width le_rfl h i hi
  · have hpow : 2 ^ width ≤ 2 ^ i := Nat.pow_le_pow_right (by decide) (by omega)
    rw [Nat.testBit_lt_two_pow (by omega), Nat.testBit_lt_two_pow (by omega)]

lemma bitsOfBytes_injective {a b : Bytes} (h : bitsOfBytes a = bitsOfBytes b) : a = b := by
  induction a generalizing b with
  | nil =>
    have hlength := congrArg List.length h
    rw [length_bitsOfBytes, length_bitsOfBytes, List.length_nil] at hlength
    exact (List.length_eq_zero_iff.mp (by omega)).symm
  | cons x a ih =>
    cases b with
    | nil =>
      have hlength := congrArg List.length h
      rw [length_bitsOfBytes, length_bitsOfBytes, List.length_nil, List.length_cons] at hlength
      omega
    | cons y b =>
      have hsplit : bits 8 x.toNat ++ bitsOfBytes a = bits 8 y.toNat ++ bitsOfBytes b := h
      obtain ⟨hfirst, hrest⟩ := List.append_inj hsplit (by rw [length_bits, length_bits])
      rw [UInt8.toNat_inj.mp (bits_injective x.toNat_lt y.toNat_lt hfirst), ih hrest]

lemma bitsOfBytes_take {values : List Nat} (h : ∀ n ∈ values, n < 64) :
    bitsOfBytes (ofValues values) <+: bitsOfValues values := by
  have hsecond : ∀ b, bits 6 b = bits 2 (b / 16) ++ bits 4 (b % 16) := bits_split 2 4
  have hthird : ∀ c, bits 6 c = bits 4 (c / 4) ++ bits 2 (c % 4) := bits_split 4 2
  fun_induction ofValues values with
  | case1 a b c d rest ih =>
    simp only [List.forall_mem_cons] at h
    obtain ⟨ha, hb, hc, hd, hrest⟩ := h
    have hgroup : bitsOfValues (a :: b :: c :: d :: rest) =
        (bits 6 a ++ bits 2 (b / 16)) ++ ((bits 4 (b % 16) ++ bits 4 (c / 4)) ++
          ((bits 2 (c % 4) ++ bits 6 d) ++ bitsOfValues rest)) := by
      simp only [bitsOfValues, List.flatMap_cons, hsecond b, hthird c, List.append_assoc]
    have hbytes : bitsOfBytes (ofValues (a :: b :: c :: d :: rest)) =
        (bits 6 a ++ bits 2 (b / 16)) ++ ((bits 4 (b % 16) ++ bits 4 (c / 4)) ++
          ((bits 2 (c % 4) ++ bits 6 d) ++ bitsOfBytes (ofValues rest))) := by
      rw [← bits_byte 6 2 rfl ha (by omega), ← bits_byte 4 4 rfl (by omega) (by omega),
        ← bits_byte 2 6 rfl (by omega) hd]
      rfl
    rw [← ofValues, hgroup, hbytes, List.prefix_append_right_inj, List.prefix_append_right_inj,
      List.prefix_append_right_inj]
    exact ih hrest
  | case2 a b c =>
    simp only [List.forall_mem_cons, List.not_mem_nil] at h
    obtain ⟨ha, hb, hc, -⟩ := h
    have hbyte : bits 8 (UInt8.ofNat (a * 4 + b / 16)).toNat = bits 6 a ++ bits 2 (b / 16) :=
      bits_byte 6 2 rfl ha (by omega)
    have hbyte' : bits 8 (UInt8.ofNat (b % 16 * 16 + c / 4)).toNat =
        bits 4 (b % 16) ++ bits 4 (c / 4) := bits_byte 4 4 rfl (by omega) (by omega)
    refine ⟨bits 2 (c % 4), ?_⟩
    simp only [bitsOfBytes, bitsOfValues, List.flatMap_cons, List.flatMap_nil, hbyte, hbyte',
      hsecond b, hthird c, List.append_assoc, List.append_nil]
  | case3 a b =>
    simp only [List.forall_mem_cons, List.not_mem_nil] at h
    obtain ⟨ha, hb, -⟩ := h
    have hbyte : bits 8 (UInt8.ofNat (a * 4 + b / 16)).toNat = bits 6 a ++ bits 2 (b / 16) :=
      bits_byte 6 2 rfl ha (by omega)
    refine ⟨bits 4 (b % 16), ?_⟩
    simp only [bitsOfBytes, bitsOfValues, List.flatMap_cons, List.flatMap_nil, hbyte, hsecond b,
      List.append_assoc, List.append_nil]
  | case4 => exact List.nil_prefix

lemma length_ofValues (values : List Nat) : (ofValues values).length = values.length * 3 / 4 := by
  fun_induction ofValues values with
  | case1 a b c d rest ih =>
    simp only [List.length_cons, ih]
    omega
  | case2 | case3 => simp
  | case4 values hfour hthree htwo =>
    obtain _ | ⟨a, _ | ⟨b, _ | ⟨c, _ | ⟨d, rest⟩⟩⟩⟩ := values
    · rfl
    · simp
    · exact absurd rfl (htwo a b)
    · exact absurd rfl (hthree a b c)
    · exact absurd rfl (hfour a b c d rest)

/-! ### The alphabet -/

lemma alphabet_eq : alphabet = (List.range 64).map digit := by decide +kernel

lemma idxOf_digit : ∀ n < 64, alphabet.idxOf (digit n) = n := by decide +kernel

lemma mem_alphabet_iff {c : CodePoint} : c ∈ alphabet ↔ ∃ n < 64, digit n = c := by
  simp only [alphabet_eq, List.mem_map, List.mem_range]

lemma digit_mem_alphabet {n : Nat} (h : n < 64) : digit n ∈ alphabet :=
  mem_alphabet_iff.mpr ⟨n, h, rfl⟩

lemma exists_values_of_alphabet {data : Text} (h : ∀ c ∈ data, c ∈ alphabet) :
    ∃ values : List Nat, (∀ n ∈ values, n < 64) ∧ data = values.map digit := by
  refine exists_values fun c hc => ?_
  obtain ⟨n, hn, rfl⟩ := mem_alphabet_iff.mp (h c hc)
  exact isDigit_digit hn

lemma bitsOfCharacter_digit {n : Nat} (h : n < 64) : bitsOfCharacter (digit n) = bits 6 n := by
  rw [bitsOfCharacter, idxOf_digit n h]

lemma flatMap_bitsOfCharacter {values : List Nat} (h : ∀ n ∈ values, n < 64) :
    (values.map digit).flatMap bitsOfCharacter = bitsOfValues values := by
  rw [List.flatMap_map, bitsOfValues]
  exact List.flatMap_congr fun n hn => bitsOfCharacter_digit (h n hn)

/-! ### What is imported -/

lemma imported_eq_ok_iff {t : Text} {key : Key} :
    Key.imported (.text t) = .ok key ↔ decode t = .ok key.bytes ∧ key.bytes.length = keySize := by
  have himported : Key.imported (.text t) = Key.ofDecoded (decode t) := rfl
  rw [himported]
  cases decode t with
  | error fault => simp [Key.ofDecoded]
  | ok bytes =>
    simp only [Key.ofDecoded, Except.ok.injEq]
    split
    · next hsize =>
      constructor
      · intro h
        obtain rfl := Except.ok.inj h
        exact ⟨rfl, hsize⟩
      · rintro ⟨rfl, -⟩
        rfl
    · next hsize =>
      refine iff_of_false (by simp) ?_
      rintro ⟨rfl, h⟩
      exact hsize h

lemma imported_iff_spelling {t : Text} {key : Key} :
    Key.imported (.text t) = .ok key ↔
      ∃ values, (∀ n ∈ values, n < 64) ∧ values.length = 43 ∧ t = spelling values 1 ∧
        key.bytes = ofValues values := by
  rw [imported_eq_ok_iff]
  constructor
  · rintro ⟨hread, hsize⟩
    obtain ⟨values, pads, hlt, hfits, rfl, hbytes⟩ := exists_spelling_of_decode hread
    have hlength : values.length = 43 := by
      rw [hbytes, length_ofValues, keySize] at hsize
      unfold PaddingFits at hfits
      omega
    obtain rfl : pads = 1 := by
      unfold PaddingFits at hfits
      omega
    exact ⟨values, hlt, hlength, rfl, hbytes⟩
  · rintro ⟨values, hlt, hlength, rfl, hbytes⟩
    have hfits : PaddingFits values.length 1 := .inr (.inr ⟨by rw [hlength], rfl⟩)
    refine ⟨by rw [hbytes, base64_decode_spelling hlt hfits], ?_⟩
    rw [hbytes, length_ofValues, hlength]
    rfl

lemma imported_iff_bits {t : Text} {key : Key} :
    Key.imported (.text t) = .ok key ↔
      ∃ data : Text, data.length = 43 ∧ (∀ c ∈ data, c ∈ alphabet) ∧
        t = data ++ [CodePoint.ofChar '='] ∧
        bitsOfBytes key.bytes = (data.flatMap bitsOfCharacter).take 256 := by
  have hbits : ∀ values : List Nat, (∀ n ∈ values, n < 64) → values.length = 43 →
      bitsOfBytes (ofValues values) = ((values.map digit).flatMap bitsOfCharacter).take 256 := by
    intro values hlt hlength
    have hprefix := List.prefix_iff_eq_take.mp (bitsOfBytes_take hlt)
    rwa [length_bitsOfBytes, length_ofValues, hlength, ← flatMap_bitsOfCharacter hlt] at hprefix
  rw [imported_iff_spelling]
  constructor
  · rintro ⟨values, hlt, hlength, rfl, hbytes⟩
    refine ⟨values.map digit, by rw [List.length_map, hlength], ?_, rfl, ?_⟩
    · intro c hc
      obtain ⟨n, hn, rfl⟩ := List.mem_map.mp hc
      exact digit_mem_alphabet (hlt n hn)
    · rw [hbytes, hbits values hlt hlength]
  · rintro ⟨data, hlength, hdata, rfl, hkey⟩
    obtain ⟨values, hlt, rfl⟩ := exists_values_of_alphabet hdata
    rw [List.length_map] at hlength
    refine ⟨values, hlt, hlength, rfl, bitsOfBytes_injective ?_⟩
    rw [hkey, hbits values hlt hlength]

/-! ### What is exported -/

lemma exported_eq {key : Key} (h : key.bytes.length = keySize) :
    key.exported = .ok (encode key.bytes) := by
  rw [Key.exported, check_eq_ok h]

lemma cleared_concat {values : List Nat} (h : values.length % 4 = 2) (n : Nat) :
    cleared (values ++ [n]) = values ++ [n / 4 * 4] := by
  induction values using cleared.induct with
  | case1 a b c d rest ih =>
    simp only [List.length_cons] at h
    simp only [List.cons_append, cleared, ih (by omega)]
  | case2 a b c => simp at h
  | case3 a b => rfl
  | case4 values hfour hthree htwo =>
    obtain _ | ⟨a, _ | ⟨b, _ | ⟨c, _ | ⟨d, rest⟩⟩⟩⟩ := values
    · simp at h
    · simp at h
    · exact absurd rfl (htwo a b)
    · exact absurd rfl (hthree a b c)
    · exact absurd rfl (hfour a b c d rest)

lemma exists_concat {values : List Nat} (h : values.length = 43) :
    ∃ start last, values = start ++ [last] ∧ start.length = 42 := by
  obtain rfl | ⟨start, last, rfl⟩ := List.eq_nil_or_concat values
  · simp at h
  · exact ⟨start, last, by simp, by simpa using h⟩

lemma bits_cleared (n : Nat) : bits 6 (n / 4 * 4) = (bits 6 n).take 4 ++ [false, false] := by
  have htake : (bits 6 n).take 4 = bits 4 (n / 4) := by
    rw [bits_split 4 2 n]
    exact List.take_left' (length_bits 4 _)
  rw [htake]
  exact bits_add 4 2 (n / 4) (b := 0) (by decide)

lemma exported_of_imported {t : Text} {key : Key} (h : Key.imported (.text t) = .ok key) :
    ∃ (start : Text) (c c' : CodePoint), t = start ++ [c, CodePoint.ofChar '='] ∧
      c' ∈ alphabet ∧ bitsOfCharacter c' = (bitsOfCharacter c).take 4 ++ [false, false] ∧
      key.exported = .ok (start ++ [c', CodePoint.ofChar '=']) := by
  have hsize := (imported_eq_ok_iff.mp h).2
  obtain ⟨values, hlt, hlength, rfl, hbytes⟩ := imported_iff_spelling.mp h
  obtain ⟨start, n, rfl, hstart⟩ := exists_concat hlength
  have hn : n < 64 := hlt n (by simp)
  have hwritten : encode key.bytes = spelling (start ++ [n / 4 * 4]) 1 := by
    rw [hbytes, encode_ofValues hlt (by omega), cleared_concat (by omega), hlength]
    rfl
  refine ⟨start.map digit, digit n, digit (n / 4 * 4), ?_, digit_mem_alphabet (by omega), ?_, ?_⟩
  · simp [spelling, paddingMark]
  · rw [bitsOfCharacter_digit (by omega), bitsOfCharacter_digit hn, bits_cleared]
  · rw [exported_eq hsize, hwritten]
    simp [spelling, paddingMark]

/-- The text of a key with one of four last characters. -/
def keyText (start : List Nat) (last low : Nat) : Text := spelling (start ++ [last + low]) 1

lemma imported_iff_keyText {t : Text} {key : Key} {start : List Nat} {last : Nat}
    (hstart : start.length = 42) (hsextets : sextets key.bytes = start ++ [last])
    (hlast : last / 4 * 4 = last) (hlt : ∀ low < 4, ∀ n ∈ start ++ [last + low], n < 64) :
    Key.imported (.text t) = .ok key ↔ ∃ low < 4, keyText start last low = t := by
  rw [imported_iff_spelling]
  constructor
  · rintro ⟨values, hvalues, hcount, rfl, hbytes⟩
    obtain ⟨start', n, rfl, hstart'⟩ := exists_concat hcount
    rw [hbytes, sextets_ofValues hvalues (by omega), cleared_concat (by omega)] at hsextets
    obtain ⟨rfl, hn⟩ := List.append_inj' hsextets rfl
    have hnext : last + n % 4 = n := by
      rw [← List.head_eq_of_cons_eq hn]
      omega
    exact ⟨n % 4, Nat.mod_lt n (by decide), by rw [keyText, hnext]⟩
  · rintro ⟨low, hlow, rfl⟩
    have hsame : (last + low) / 4 * 4 = last := by omega
    refine ⟨start ++ [last + low], hlt low hlow, by simp [hstart], rfl, ?_⟩
    rw [← ofValues_cleared (hlt low hlow) (by simp [hstart]), cleared_concat (by omega), hsame,
      ← hsextets, ofValues_sextets]

lemma exists_four_texts {key : Key} (h : key.bytes.length = keySize) :
    ∃ texts : List Text, texts.length = 4 ∧ texts.Nodup ∧ encode key.bytes ∈ texts ∧
      ∀ t, Key.imported (.text t) = .ok key ↔ t ∈ texts := by
  have hlength : (sextets key.bytes).length = 43 := by
    rw [length_sextets, h]
    rfl
  obtain ⟨start, last, hsextets, hstart⟩ := exists_concat hlength
  have hlast : last / 4 * 4 = last := by
    have hcleared := cleared_sextets key.bytes
    rw [hsextets, cleared_concat (by omega)] at hcleared
    simpa using hcleared
  have hlt : ∀ low < 4, ∀ n ∈ start ++ [last + low], n < 64 := by
    have hall := sextets_lt key.bytes
    rw [hsextets, List.forall_mem_append] at hall
    intro low hlow
    have hbound : last < 64 := hall.2 last (by simp)
    rw [List.forall_mem_append]
    exact ⟨hall.1, by simp; omega⟩
  refine ⟨(List.range 4).map (keyText start last), by simp, ?_, ?_, ?_⟩
  · refine List.Nodup.map_on ?_ List.nodup_range
    intro low hlow low' hlow' heq
    rw [List.mem_range] at hlow hlow'
    have hvalues := congrArg (List.filterMap value?) heq
    rw [keyText, keyText, values_of_spelling (hlt low hlow),
      values_of_spelling (hlt low' hlow')] at hvalues
    simpa using hvalues
  · refine List.mem_map.mpr ⟨0, by simp, ?_⟩
    rw [base64_encode_eq, hlength, hsextets]
    rfl
  · intro t
    simp only [imported_iff_keyText hstart hsextets hlast hlt, List.mem_map, List.mem_range]

/-- The texts that are imported are 43 characters of the alphabet with one mark of padding; the key
has the first 256 of the 258 bits that they spell. All other texts are refused as keys. A key of 32
bytes is imported from its exported form. What is imported is exported with the two unused bits of
its last character clear, so four texts denote each key, and one of them is exported. Keys of other
sizes are not exported. -/
theorem keys_have_four_texts :
    (∀ t key, Key.imported (.text t) = .ok key ↔
      ∃ data : Text, data.length = 43 ∧ (∀ c ∈ data, c ∈ alphabet) ∧
        t = data ++ [CodePoint.ofChar '='] ∧
        bitsOfBytes key.bytes = (data.flatMap bitsOfCharacter).take 256) ∧
    (∀ data : Text, data.length = 43 → (∀ c ∈ data, c ∈ alphabet) →
      ∃ key, key.bytes.length = 32 ∧
        Key.imported (.text (data ++ [CodePoint.ofChar '='])) = .ok key) ∧
    (∀ t, (∃ key, Key.imported (.text t) = .ok key) ∨
      ∃ fault, Key.imported (.text t) = .error (.invalidKey fault)) ∧
    (∀ key : Key, key.bytes.length = 32 →
      ∃ t, key.exported = .ok t ∧ Key.imported (.text t) = .ok key) ∧
    (∀ t key, Key.imported (.text t) = .ok key →
      ∃ (start : Text) (c c' : CodePoint), t = start ++ [c, CodePoint.ofChar '='] ∧
        c' ∈ alphabet ∧ bitsOfCharacter c' = (bitsOfCharacter c).take 4 ++ [false, false] ∧
        key.exported = .ok (start ++ [c', CodePoint.ofChar '='])) ∧
    (∀ key : Key, key.bytes.length = 32 →
      ∃ texts : List Text, texts.length = 4 ∧ texts.Nodup ∧ (∃ t ∈ texts, key.exported = .ok t) ∧
        ∀ t, Key.imported (.text t) = .ok key ↔ t ∈ texts) ∧
    (∀ key : Key, key.bytes.length ≠ 32 →
      key.exported = .error (.crypto (.keySize key.bytes.length))) ∧
    (∀ (suite : Suite) t key e,
      (suite.provider.importKey (.text t)).result e = (Key.imported (.text t), e) ∧
      (suite.provider.exportKey key).result e = (key.exported, e)) := by
  refine ⟨fun _ _ => imported_iff_bits, ?_, ?_, ?_, fun _ _ => exported_of_imported, ?_, ?_, ?_⟩
  · intro data hlength hdata
    obtain ⟨values, hlt, rfl⟩ := exists_values_of_alphabet hdata
    rw [List.length_map] at hlength
    have himported : Key.imported (.text (spelling values 1)) = .ok ⟨ofValues values⟩ :=
      imported_iff_spelling.mpr ⟨values, hlt, hlength, rfl, rfl⟩
    exact ⟨_, (imported_eq_ok_iff.mp himported).2, himported⟩
  · intro t
    obtain ⟨key, hkey, -⟩ | ⟨fault, hfault⟩ := imported_text_cases t
    · exact .inl ⟨key, hkey⟩
    · exact .inr ⟨fault, hfault⟩
  · intro key hsize
    obtain ⟨texts, -, -, hmem, himported⟩ := exists_four_texts hsize
    exact ⟨_, exported_eq hsize, (himported _).mpr hmem⟩
  · intro key hsize
    obtain ⟨texts, hfour, hnodup, hmem, himported⟩ := exists_four_texts hsize
    exact ⟨texts, hfour, hnodup, ⟨_, hmem, exported_eq hsize⟩, himported⟩
  · intro key hsize
    have hcheck : key.check = .error (.crypto (.keySize key.bytes.length)) := if_neg hsize
    rw [Key.exported, hcheck]
  · intro suite t key e
    rw [suite_provider_eq]
    exact ⟨result_ofExcept _ _, result_ofExcept _ _⟩

/-- The key of 32 zero bytes is imported from a text with both unused bits set, and exported with
both clear. -/
theorem zero_key_is_written_with_clear_bits :
    let zeros : Text := List.replicate 42 'A'
    let key : Key := ⟨List.replicate 32 0⟩
    Key.imported (.text (zeros ++ Text.ofString "D=")) = .ok key ∧
      key.exported = .ok (zeros ++ Text.ofString "A=") ∧
      (Key.mk (List.replicate 31 0)).exported = .error (.crypto (.keySize 31)) := by
  intro zeros key
  obtain ⟨himported, -, -, -, -, -, hrefused, -⟩ := keys_have_four_texts
  have hwritten : encode key.bytes = zeros ++ Text.ofString "A=" := by decide
  refine ⟨(himported _ _).mpr ?_, by rw [exported_eq (by decide), hwritten],
    hrefused _ (by decide)⟩
  exact ⟨zeros ++ Text.ofString "D", by decide, by decide, by decide, by decide +kernel⟩

end EnvelopeStore.Proofs
