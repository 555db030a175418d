import EnvelopeStore.Proofs.Stripping
import EnvelopeStore.Proofs.Tokens
import EnvelopeStore.Text.Numeral
import Mathlib.Data.List.Induction
import Mathlib.Data.Nat.Digits.Defs

/-!
# Numerals of settings

A whole number that a text spells is read back from its decimal digits, whatever script the text is
in and whatever sign, underscores and zeros it has: written so, the number has no more digits than
the text had, and the limit on the length of numerals does not stand in the way.
-/

namespace EnvelopeStore.Proofs
open Text

section

variable {c : CodePoint} {t : Text} {d n : Nat} {ds : List Nat}

/-! ### The size of what is read -/

lemma decimalValue?_lt (h : decimalValue? c = some d) : d < 10 := by
  rw [decimalValue?, Option.map_eq_some_iff] at h
  obtain ⟨first, hfirst, rfl⟩ := h
  have hrange := List.find?_some hfirst
  simp only [Bool.and_eq_true, decide_eq_true_eq] at hrange
  omega

lemma digitValues?_lt (h : digitValues? t = some ds) : ∀ d ∈ ds, d < 10 := by
  fun_induction digitValues? t generalizing ds with
  | case1 => exact nomatch h
  | case2 => exact nomatch h
  | case3 c d hd =>
    obtain rfl := Option.some.inj h
    simpa using decimalValue?_lt hd
  | case4 c d hd u rest ihOver ih =>
    obtain ⟨others, hothers, rfl⟩ := Option.map_eq_some_iff.mp h
    refine List.forall_mem_cons.mpr ⟨decimalValue?_lt hd, ?_⟩
    split at hothers
    · exact ihOver hothers
    · exact ih hothers

lemma ofDigitValues_lt (h : ∀ d ∈ ds, d < 10) : ofDigitValues ds < 10 ^ ds.length := by
  induction ds using List.reverseRecOn with
  | nil => decide
  | append_singleton ds d ih =>
    have hlast : d < 10 := h d (by simp)
    have hinit : ofDigitValues ds < 10 ^ ds.length := ih fun e he => h e (by simp [he])
    have hsnoc : ofDigitValues (ds ++ [d]) = 10 * ofDigitValues ds + d := by
      rw [ofDigitValues, List.foldl_append]
      rfl
    calc ofDigitValues (ds ++ [d])
      _ < 10 * (ofDigitValues ds + 1) := by omega
      _ ≤ 10 * 10 ^ ds.length := Nat.mul_le_mul_left 10 hinit
      _ = 10 ^ (ds ++ [d]).length := by
        rw [List.length_append, List.length_singleton, Nat.pow_succ']

lemma natural?_lt (h : natural? t = some n) : n < 10 ^ maxDigits := by
  rw [natural?] at h
  split at h
  · simp at h
  · next ds hds =>
    split at h
    · next hlen =>
      obtain rfl := Option.some.inj h
      calc ofDigitValues ds
        _ < 10 ^ ds.length := ofDigitValues_lt (digitValues?_lt hds)
        _ ≤ 10 ^ maxDigits := Nat.pow_le_pow_right (by decide) hlen
    · simp at h

lemma exists_natural?_of_integer? {n : Int} (h : integer? t = some n) :
    ∃ rest m, natural? rest = some m ∧ n.natAbs = m := by
  have hsigned : ∀ (sign : Int → Int) (rest : Text), (∀ k, (sign k).natAbs = k.natAbs) →
      (((natural? rest).bind fun m => some (m : Int)).map sign) = some n →
        ∃ m, natural? rest = some m ∧ n.natAbs = m := by
    intro sign rest hsign hread
    obtain ⟨k, hk, rfl⟩ := Option.map_eq_some_iff.mp hread
    obtain ⟨m, hm, hcast⟩ := Option.bind_eq_some_iff.mp hk
    obtain rfl := Option.some.inj hcast
    exact ⟨m, hm, hsign m⟩
  rw [integer?] at h
  split at h
  · simp at h
  · split at h
    · exact ⟨_, hsigned _ _ Int.natAbs_neg h⟩
    · split at h
      · exact ⟨_, hsigned _ _ (fun _ => rfl) h⟩
      · exact ⟨_, hsigned _ _ (fun _ => rfl) h⟩

lemma natAbs_lt_of_integer? {n : Int} (h : integer? t = some n) : n.natAbs < 10 ^ maxDigits := by
  obtain ⟨rest, m, hm, hn⟩ := exists_natural?_of_integer? h
  rw [hn]
  exact natural?_lt hm

/-! ### Decimal digits -/

lemma decimalValue?_of_isAsciiDigit (h : c.isAsciiDigit = true) :
    decimalValue? c = some (c.val - 48) := by
  simp only [CodePoint.isAsciiDigit, Bool.and_eq_true, decide_eq_true_eq] at h
  rw [decimalValue?, zeroDigits, List.find?_cons_of_pos]
  · rfl
  · simp only [Bool.and_eq_true, decide_eq_true_eq]
    omega

lemma digitValues?_of_digits (h : ∀ d ∈ c :: t, d.isAsciiDigit = true) :
    digitValues? (c :: t) = some ((c :: t).map fun d => d.val - 48) := by
  induction t generalizing c with
  | nil =>
    rw [digitValues?, decimalValue?_of_isAsciiDigit (h c (by simp))]
    rfl
  | cons d t ih =>
    have hdigit : d ≠ CodePoint.ofChar '_' := by
      rintro rfl
      exact absurd (h (CodePoint.ofChar '_') (by simp)) (by decide)
    rw [digitValues?, decimalValue?_of_isAsciiDigit (h c (by simp))]
    simp only [if_neg hdigit]
    rw [ih fun e he => h e (List.mem_cons_of_mem c he)]
    rfl

lemma natural?_ofNat (h : n < 10 ^ maxDigits) : natural? (ofNat n) = some n := by
  have hlength : (ofNat n).length ≤ maxDigits := by
    rw [ofNat_eq_map, List.length_map]
    exact Nat.toDigits_length 10 n maxDigits (by decide) h
  have hdigits : digitValues? (ofNat n) = some ((ofNat n).map fun d => d.val - 48) := by
    obtain ⟨c, t, hcons, -⟩ := ofNat_eq_cons n
    rw [hcons]
    exact digitValues?_of_digits fun d hd => isAsciiDigit_of_mem_ofNat (n := n) (hcons ▸ hd)
  rw [natural?, hdigits]
  simp only [List.length_map, if_pos hlength]
  exact congrArg some (ofDigits_ofNat n)

lemma not_isWhiteSpace_of_isAsciiDigit (h : c.isAsciiDigit = true) : isWhiteSpace c = false := by
  simp only [CodePoint.isAsciiDigit, Bool.and_eq_true, decide_eq_true_eq] at h
  simp [isWhiteSpace]
  omega

lemma strip_ofInt (n : Int) : (ofInt n).strip isWhiteSpace = ofInt n := by
  have hdigits : ∀ m, ∀ c ∈ ofNat m, isWhiteSpace c = false :=
    fun m c hc => not_isWhiteSpace_of_isAsciiDigit (isAsciiDigit_of_mem_ofNat hc)
  refine strip_of_bare (bare_of_forall ?_)
  cases n with
  | ofNat n => exact hdigits n
  | negSucc n => exact List.forall_mem_cons.mpr ⟨by decide, hdigits (n + 1)⟩

end

lemma integer?_ofInt {n : Int} (h : n.natAbs < 10 ^ maxDigits) : integer? (ofInt n) = some n := by
  rw [integer?, strip_ofInt]
  cases n with
  | ofNat n =>
    have hread := natural?_ofNat (n := n) h
    obtain ⟨c, t, hcons, hdigit⟩ := ofNat_eq_cons n
    have hsign : c ≠ CodePoint.ofChar '-' ∧ c ≠ CodePoint.ofChar '+' := by
      constructor <;> rintro rfl <;> exact absurd hdigit (by decide)
    rw [hcons] at hread
    simp only [ofInt, hcons, if_neg hsign.1, if_neg hsign.2, hread]
    rfl
  | negSucc n =>
    have hread := natural?_ofNat (n := n + 1) h
    simp only [ofInt, if_true, hread]
    rfl

lemma integer?_ofInt_of_integer? {t : Text} {n : Int} (h : integer? t = some n) :
    integer? (ofInt n) = some n := integer?_ofInt (natAbs_lt_of_integer? h)

-- A sign, a zero in front, an underscore, and a digit of another script.
example : integer? " +0_\u0667\n" = some 7 := by decide

end EnvelopeStore.Proofs
