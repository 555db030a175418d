import EnvelopeStore.Base64
import Mathlib.Data.List.TakeDrop
import Mathlib.Data.List.TakeWhile

/-!
# Base64 texts

The texts that are read are characters of data with padding behind them that fits their count. What
is written for bytes is one of the texts that are read as those bytes. The others differ from it by
padding behind a complete group, or by bits of the last character that fill no byte.
-/

namespace EnvelopeStore.Proofs
open Base64

def paddingMark : CodePoint := '='

/-- The characters with these values, and so many marks of padding behind them. -/
def spelling (values : List Nat) (pads : Nat) : Text :=
  values.map digit ++ List.replicate pads paddingMark

def padsFor (count : Nat) : Nat := (4 - count % 4) % 4

def PaddingFits (count pads : Nat) : Prop :=
  (count % 4 = 0 ∧ (count = 0 → pads = 0)) ∨ (count % 4 = 2 ∧ pads = 2) ∨ (count % 4 = 3 ∧ pads = 1)

lemma paddingFits_padsFor {count : Nat} (h : count % 4 ≠ 1) :
    PaddingFits count (padsFor count) := by
  unfold PaddingFits padsFor
  omega

lemma PaddingFits.count_ne {count pads : Nat} (h : PaddingFits count pads) : count % 4 ≠ 1 := by
  unfold PaddingFits at h
  omega

def sextets : Bytes → List Nat
  | a :: b :: c :: rest =>
    let n := a.toNat * 0x10000 + b.toNat * 0x100 + c.toNat
    n / 0x40000 :: n / 0x1000 % 0x40 :: n / 0x40 % 0x40 :: n % 0x40 :: sextets rest
  | [a, b] =>
    let n := a.toNat * 0x100 + b.toNat
    [n / 0x400, n / 0x10 % 0x40, n * 4 % 0x40]
  | [a] => [a.toNat / 4, a.toNat * 0x10 % 0x40]
  | [] => []

lemma length_sextets (bytes : Bytes) : (sextets bytes).length = (4 * bytes.length + 2) / 3 := by
  fun_induction sextets bytes with
  | case1 a b c rest n ih =>
    simp only [List.length_cons, ih]
    omega
  | case2 a b n => simp
  | case3 a => simp
  | case4 => rfl

lemma base64_encode_eq (bytes : Bytes) :
    encode bytes = spelling (sextets bytes) (padsFor (sextets bytes).length) := by
  fun_induction encode bytes with
  | case1 a b c rest n ih =>
    have hpads :
        padsFor (sextets (a :: b :: c :: rest)).length = padsFor (sextets rest).length := by
      simp only [sextets, List.length_cons, padsFor]
      omega
    rw [hpads, ih]
    rfl
  | case2 a b n => rfl
  | case3 a => rfl
  | case4 => rfl

lemma length_base64_encode (bytes : Bytes) :
    (encode bytes).length = 4 * ((bytes.length + 2) / 3) := by
  rw [base64_encode_eq, spelling, List.length_append, List.length_map, length_sextets, padsFor,
    List.length_replicate]
  omega

lemma sextets_lt (bytes : Bytes) : ∀ n ∈ sextets bytes, n < 64 := by
  fun_induction sextets bytes with
  | case1 a b c rest n ih =>
    have ha := a.toNat_lt
    have hb := b.toNat_lt
    have hc := c.toNat_lt
    intro m hm
    simp only [List.mem_cons] at hm
    obtain rfl | rfl | rfl | rfl | hm := hm
    · omega
    · omega
    · omega
    · omega
    · exact ih m hm
  | case2 a b n =>
    have ha := a.toNat_lt
    have hb := b.toNat_lt
    intro m hm
    simp only [List.mem_cons, List.not_mem_nil, or_false] at hm
    omega
  | case3 a =>
    have ha := a.toNat_lt
    intro m hm
    simp only [List.mem_cons, List.not_mem_nil, or_false] at hm
    omega
  | case4 => simp

lemma uint8_ofNat_eq {n : Nat} {b : UInt8} (h : n % 256 = b.toNat) : UInt8.ofNat n = b := by
  apply UInt8.toNat_inj.mp
  simpa using h

lemma ofValues_sextets (bytes : Bytes) : ofValues (sextets bytes) = bytes := by
  fun_induction sextets bytes with
  | case1 a b c rest n ih =>
    have ha := a.toNat_lt
    have hb := b.toNat_lt
    have hc := c.toNat_lt
    rw [ofValues, ih, uint8_ofNat_eq (b := a) (by omega), uint8_ofNat_eq (b := b) (by omega),
      uint8_ofNat_eq (b := c) (by omega)]
  | case2 a b n =>
    have ha := a.toNat_lt
    have hb := b.toNat_lt
    rw [ofValues, uint8_ofNat_eq (b := a) (by omega), uint8_ofNat_eq (b := b) (by omega)]
  | case3 a =>
    have ha := a.toNat_lt
    rw [ofValues, uint8_ofNat_eq (b := a) (by omega)]
  | case4 => rfl

/-! ### The alphabet -/

lemma value?_digit : ∀ n < 64, value? (digit n) = some n := by decide +kernel

lemma digit_isAscii : ∀ n < 64, (digit n).isAscii = true := by decide

lemma digit_ne_paddingMark : ∀ n < 64, digit n ≠ paddingMark := by decide

lemma isDigit_digit {n : Nat} (h : n < 64) : isDigit (digit n) = true := by
  rw [isDigit, value?_digit n h]
  rfl

lemma isDigit_paddingMark : isDigit paddingMark = false := by decide

lemma digit_of_value? {c : CodePoint} {n : Nat} (h : value? c = some n) : n < 64 ∧ digit n = c := by
  have hdigit : ∀ m, m = c.val → CodePoint.ofNat m = c := by
    rintro m rfl
    exact CodePoint.ofNat_val c
  rw [value?] at h
  split at h
  · obtain rfl := Option.some.inj h
    refine ⟨by omega, ?_⟩
    rw [digit, if_pos (by omega)]
    exact hdigit _ (by omega)
  split at h
  · obtain rfl := Option.some.inj h
    refine ⟨by omega, ?_⟩
    rw [digit, if_neg (by omega), if_pos (by omega)]
    exact hdigit _ (by omega)
  split at h
  · obtain rfl := Option.some.inj h
    refine ⟨by omega, ?_⟩
    rw [digit, if_neg (by omega), if_neg (by omega), if_pos (by omega)]
    exact hdigit _ (by omega)
  split at h
  · next hplus =>
    obtain rfl := Option.some.inj h
    exact ⟨by decide, hplus.symm⟩
  split at h
  · next hslash =>
    obtain rfl := Option.some.inj h
    exact ⟨by decide, hslash.symm⟩
  · simp at h

lemma filterMap_value?_digit (ns : List Nat) (h : ∀ n ∈ ns, n < 64) :
    (ns.map digit).filterMap value? = ns := by
  induction ns with
  | nil => rfl
  | cons n rest ih =>
    rw [List.map_cons, List.filterMap_cons_some (value?_digit n (h n (by simp))),
      ih fun m hm => h m (by simp [hm])]

lemma exists_values {data : Text} (h : ∀ c ∈ data, isDigit c = true) :
    ∃ values : List Nat, (∀ n ∈ values, n < 64) ∧ data = values.map digit := by
  induction data with
  | nil => exact ⟨[], by simp, rfl⟩
  | cons c data ih =>
    obtain ⟨values, hlt, rfl⟩ := ih fun d hd => h d (List.mem_cons_of_mem c hd)
    obtain ⟨n, hn⟩ := Option.isSome_iff_exists.mp (h c List.mem_cons_self)
    obtain ⟨hn64, rfl⟩ := digit_of_value? hn
    exact ⟨n :: values, List.forall_mem_cons.mpr ⟨hn64, hlt⟩, rfl⟩

lemma values_of_spelling {values : List Nat} (h : ∀ n ∈ values, n < 64) (pads : Nat) :
    (spelling values pads).filterMap value? = values := by
  have hpads : (List.replicate pads paddingMark).filterMap value? = [] := by
    have hmark : value? paddingMark = none := by decide
    simp [hmark]
  rw [spelling, List.filterMap_append, filterMap_value?_digit values h, hpads, List.append_nil]

/-! ### What is read -/

section

variable {values : List Nat} {pads : Nat}

lemma spelling_isAscii (h : ∀ n ∈ values, n < 64) (pads : Nat) :
    (spelling values pads).all (·.isAscii) = true := by
  rw [List.all_eq_true]
  intro c hc
  rw [spelling, List.mem_append, List.mem_map] at hc
  obtain ⟨n, hn, rfl⟩ | hc := hc
  · exact digit_isAscii n (h n hn)
  · rw [List.eq_of_mem_replicate hc]
    rfl

lemma spelling_span (h : ∀ n ∈ values, n < 64) (pads : Nat) :
    (spelling values pads).span isDigit = (values.map digit, List.replicate pads paddingMark) := by
  have hdigits : ∀ c ∈ values.map digit, isDigit c = true := by
    intro c hc
    obtain ⟨n, hn, rfl⟩ := List.mem_map.mp hc
    exact isDigit_digit (h n hn)
  have htake : (List.replicate pads paddingMark).takeWhile isDigit = [] := by
    simp [isDigit_paddingMark]
  have hdrop : (List.replicate pads paddingMark).dropWhile isDigit =
      List.replicate pads paddingMark := by
    simp [isDigit_paddingMark]
  rw [spelling, List.span_eq_takeWhile_dropWhile, List.takeWhile_append_of_pos hdigits,
    List.dropWhile_append_of_pos hdigits, htake, hdrop, List.append_nil]

lemma eq_replicate_of_paddingFault? {count pads : Nat} {t : Text}
    (h : paddingFault? count pads t = none) : t = List.replicate t.length paddingMark := by
  induction t generalizing pads with
  | nil => rfl
  | cons c rest ih =>
    rw [paddingFault?] at h
    split at h
    · next hmark =>
      subst hmark
      split at h
      · split at h
        · next hempty =>
          rw [List.isEmpty_iff.mp hempty]
          rfl
        · simp at h
      · rw [List.length_cons, List.replicate_succ, ← ih h]
        rfl
    · split at h <;> simp at h

/-- Behind a complete group all padding is passed over, and behind a single character more none is
enough. -/
lemma paddingFault?_replicate_passed {count : Nat} (h : count % 4 < 2) (before pads : Nat) :
    paddingFault? count before (List.replicate pads paddingMark) = none ↔ count % 4 = 0 := by
  induction pads generalizing before with
  | zero =>
    rw [List.replicate_zero, paddingFault?]
    split <;> simp_all
  | succ pads ih =>
    have hmark : paddingMark = CodePoint.ofChar '=' := rfl
    rw [List.replicate_succ, paddingFault?, if_pos hmark, if_neg (by omega), ih]

lemma paddingFault?_replicate (count pads : Nat) :
    paddingFault? count 0 (List.replicate pads paddingMark) = none ↔
      count % 4 = 0 ∨ (count % 4 = 2 ∧ pads = 2) ∨ (count % 4 = 3 ∧ pads = 1) := by
  obtain hpassed | htwo | hthree : count % 4 < 2 ∨ count % 4 = 2 ∨ count % 4 = 3 := by omega
  · rw [paddingFault?_replicate_passed hpassed]
    omega
  · obtain _ | _ | _ | pads := pads <;>
      simp [paddingFault?, List.replicate_succ, paddingMark, htwo]
  · obtain _ | _ | pads := pads <;>
      simp [paddingFault?, List.replicate_succ, paddingMark, hthree]

lemma base64_decode_spelling (h : ∀ n ∈ values, n < 64) (hfits : PaddingFits values.length pads) :
    decode (spelling values pads) = .ok (ofValues values) := by
  have hhead : (spelling values pads).head? ≠ some (CodePoint.ofChar '=') := by
    cases values with
    | nil =>
      have hpads : pads = 0 := by simpa [PaddingFits] using hfits
      simp [spelling, hpads]
    | cons n rest =>
      intro hmark
      exact digit_ne_paddingMark n (h n List.mem_cons_self) (Option.some.inj hmark)
  have hpadding : paddingFault? values.length 0 (List.replicate pads paddingMark) = none := by
    rw [paddingFault?_replicate]
    exact hfits.imp_left And.left
  rw [decode, if_pos (spelling_isAscii h pads), decodeCharacters, if_neg hhead, spelling_span h]
  simp only [List.length_map, hpadding, filterMap_value?_digit values h]

lemma exists_spelling_of_decode {t : Text} {bytes : Bytes} (h : decode t = .ok bytes) :
    ∃ values pads, (∀ n ∈ values, n < 64) ∧ PaddingFits values.length pads ∧
      t = spelling values pads ∧ bytes = ofValues values := by
  rw [decode] at h
  split at h
  case isFalse => simp at h
  rw [decodeCharacters] at h
  split at h
  case isTrue => simp at h
  next hhead =>
  rw [List.span_eq_takeWhile_dropWhile] at h
  dsimp only at h
  obtain ⟨values, hlt, hdata⟩ : ∃ values : List Nat, (∀ n ∈ values, n < 64) ∧
      t.takeWhile isDigit = values.map digit :=
    exists_values fun c hc => List.mem_takeWhile_imp hc
  split at h
  · simp at h
  next hpadding =>
  have hrest := eq_replicate_of_paddingFault? hpadding
  have ht : t = spelling values (t.dropWhile isDigit).length := by
    rw [spelling, ← hrest, ← hdata, List.takeWhile_append_dropWhile]
  have hbytes : bytes = ofValues values := by
    rw [← Except.ok.inj h, hdata, filterMap_value?_digit values hlt]
  rw [hrest, paddingFault?_replicate, hdata, List.length_map] at hpadding
  refine ⟨values, _, hlt, ?_, ht, hbytes⟩
  have hempty : values.length = 0 → (t.dropWhile isDigit).length = 0 := by
    intro hvalues
    by_contra hpads
    obtain ⟨pads, hpads⟩ := Nat.exists_eq_succ_of_ne_zero hpads
    rw [hpads, List.length_eq_zero_iff.mp hvalues] at ht
    exact hhead (by rw [ht]; rfl)
  simp only [PaddingFits]
  omega

end

/-- Reading gives back the bytes that were written. -/
theorem base64_decode_encode (bytes : Bytes) : decode (encode bytes) = .ok bytes := by
  have hcount : (sextets bytes).length % 4 ≠ 1 := by
    rw [length_sextets]
    omega
  rw [base64_encode_eq, base64_decode_spelling (sextets_lt bytes) (paddingFits_padsFor hcount),
    ofValues_sextets]

theorem base64_encode_injective {a b : Bytes} (h : encode a = encode b) : a = b := by
  have hb := base64_decode_encode b
  rw [← h, base64_decode_encode] at hb
  exact Except.ok.inj hb

lemma base64_encode_isAscii (bytes : Bytes) : (encode bytes).all (·.isAscii) = true := by
  rw [base64_encode_eq]
  exact spelling_isAscii (sextets_lt bytes) _

/-! ### What is written for what is read -/

def cleared : List Nat → List Nat
  | a :: b :: c :: d :: rest => a :: b :: c :: d :: cleared rest
  | [a, b, c] => [a, b, c / 4 * 4]
  | [a, b] => [a, b / 16 * 16]
  | values => values

lemma length_cleared (values : List Nat) : (cleared values).length = values.length := by
  fun_induction cleared values with
  | case1 a b c d rest ih => simp [ih]
  | case2 | case3 | case4 => rfl

lemma sextets_ofValues {values : List Nat} (h : ∀ n ∈ values, n < 64)
    (hcount : values.length % 4 ≠ 1) : sextets (ofValues values) = cleared values := by
  have hbyte : ∀ n < 256, (UInt8.ofNat n).toNat = n := fun n hn => UInt8.toNat_ofNat_of_lt' hn
  fun_induction cleared values with
  | case1 a b c d rest ih =>
    simp only [List.forall_mem_cons] at h
    obtain ⟨ha, hb, hc, hd, hrest⟩ := h
    rw [ofValues, sextets, hbyte _ (by omega), hbyte _ (by omega), hbyte _ (by omega),
      ih hrest (by simp only [List.length_cons] at hcount; omega)]
    simp only [List.cons.injEq, and_true]
    omega
  | case2 a b c =>
    simp only [List.forall_mem_cons, List.not_mem_nil] at h
    obtain ⟨ha, hb, hc, -⟩ := h
    rw [ofValues, sextets, hbyte _ (by omega), hbyte _ (by omega)]
    simp only [List.cons.injEq, and_true]
    omega
  | case3 a b =>
    simp only [List.forall_mem_cons, List.not_mem_nil] at h
    obtain ⟨ha, hb, -⟩ := h
    rw [ofValues, sextets, hbyte _ (by omega)]
    simp only [List.cons.injEq, and_true]
    omega
  | case4 values hfour hthree htwo =>
    obtain _ | ⟨a, _ | ⟨b, _ | ⟨c, _ | ⟨d, rest⟩⟩⟩⟩ := values
    · rfl
    · simp at hcount
    · exact absurd rfl (htwo a b)
    · exact absurd rfl (hthree a b c)
    · exact absurd rfl (hfour a b c d rest)

lemma ofValues_cleared {values : List Nat} (h : ∀ n ∈ values, n < 64)
    (hcount : values.length % 4 ≠ 1) : ofValues (cleared values) = ofValues values := by
  rw [← sextets_ofValues h hcount, ofValues_sextets]

lemma cleared_sextets (bytes : Bytes) : cleared (sextets bytes) = sextets bytes := by
  have hcount : (sextets bytes).length % 4 ≠ 1 := by
    rw [length_sextets]
    omega
  rw [← sextets_ofValues (sextets_lt bytes) hcount, ofValues_sextets]

/-- Written again, the bytes of a text have their bits cleared and their padding put right. -/
lemma encode_ofValues {values : List Nat} (h : ∀ n ∈ values, n < 64)
    (hcount : values.length % 4 ≠ 1) :
    encode (ofValues values) = spelling (cleared values) (padsFor values.length) := by
  rw [base64_encode_eq, sextets_ofValues h hcount, length_cleared]

end EnvelopeStore.Proofs
