import EnvelopeStore.Value.Basic
import Mathlib.Algebra.Order.Ring.Int
import Mathlib.Tactic.Lemma

/-!
# Whole numbers as values

A value is a whole number in one way only for each kind of number that it may be: a double-precision
number is told by its sign and its magnitude, and a yes counts as one.
-/

namespace EnvelopeStore.Proofs
open Binary64

/-! ### Magnitudes -/

section

variable {x y : Binary64}

lemma scaled_subnormal (h : x.exponent = 0) : x.scaled = x.fraction := by
  rw [scaled, significand, if_pos h, place, h]
  exact Nat.mul_one _

lemma scaled_normal (h : x.exponent ≠ 0) :
    x.scaled = (hiddenBit + x.fraction) * 2 ^ (x.exponent.val - 1) := by
  rw [scaled, significand, if_neg h]
  rfl

lemma hiddenBit_le_scaled (h : x.exponent ≠ 0) : hiddenBit ≤ x.scaled := by
  rw [scaled_normal h]
  calc hiddenBit ≤ hiddenBit + x.fraction := Nat.le_add_right _ _
    _ ≤ (hiddenBit + x.fraction) * 2 ^ (x.exponent.val - 1) :=
      Nat.le_mul_of_pos_right _ (Nat.two_pow_pos _)

/-- Of two normal numbers, the one with the larger exponent is larger. -/
lemma scaled_lt_of_exponent_lt (hx : x.exponent ≠ 0) (h : x.exponent < y.exponent) :
    x.scaled < y.scaled := by
  have hy : y.exponent ≠ 0 := fun hzero => Nat.not_lt_zero _ (hzero ▸ h)
  have hsignificand : hiddenBit + x.fraction < 2 * hiddenBit := by
    have hfraction := x.fraction.isLt
    simp only [hiddenBit]
    omega
  have hpos : 0 < x.exponent.val := Fin.pos_iff_ne_zero.mpr hx
  have hplace : x.exponent.val - 1 + 1 ≤ y.exponent.val - 1 := by
    have hval : x.exponent.val < y.exponent.val := h
    omega
  rw [scaled_normal hx, scaled_normal hy]
  calc (hiddenBit + x.fraction) * 2 ^ (x.exponent.val - 1)
    _ < 2 * hiddenBit * 2 ^ (x.exponent.val - 1) :=
      Nat.mul_lt_mul_of_pos_right hsignificand (Nat.two_pow_pos _)
    _ = hiddenBit * 2 ^ (x.exponent.val - 1 + 1) := by
      rw [Nat.pow_succ]
      ac_rfl
    _ ≤ (hiddenBit + y.fraction) * 2 ^ (y.exponent.val - 1) :=
      Nat.mul_le_mul (Nat.le_add_right _ _) (Nat.pow_le_pow_right (by decide) hplace)

lemma eq_of_scaled (h : x.scaled = y.scaled) : x.exponent = y.exponent ∧ x.fraction = y.fraction := by
  by_cases hx : x.exponent = 0
  · by_cases hy : y.exponent = 0
    · rw [scaled_subnormal hx, scaled_subnormal hy] at h
      exact ⟨hx.trans hy.symm, Fin.ext h⟩
    · have hlow := x.fraction.isLt
      have hhigh := hiddenBit_le_scaled hy
      rw [← h, scaled_subnormal hx, hiddenBit] at hhigh
      omega
  · by_cases hy : y.exponent = 0
    · have hlow := y.fraction.isLt
      have hhigh := hiddenBit_le_scaled hx
      rw [h, scaled_subnormal hy, hiddenBit] at hhigh
      omega
    · obtain hlt | heq | hgt := Nat.lt_trichotomy x.exponent y.exponent
      · exact absurd h (scaled_lt_of_exponent_lt hx hlt).ne
      · rw [scaled_normal hx, scaled_normal hy, heq] at h
        have hsum := Nat.eq_of_mul_eq_mul_right (Nat.two_pow_pos _) h
        exact ⟨Fin.ext heq, Fin.ext (Nat.add_left_cancel hsum)⟩
      · exact absurd h (scaled_lt_of_exponent_lt hy hgt).ne'

lemma eq_of_equalsInt {n : Int} (hn : n ≠ 0) (hx : x.equalsInt n = true)
    (hy : y.equalsInt n = true) : x = y := by
  simp only [Binary64.equalsInt, Bool.and_eq_true, beq_iff_eq] at hx hy
  have hpos : unitsPerOne ≠ 0 := by decide +kernel
  have hunits : n * (unitsPerOne : Int) ≠ 0 := mul_ne_zero hn (Int.natCast_ne_zero.mpr hpos)
  have hsigned := hx.2.trans hy.2.symm
  rw [← hx.2] at hunits
  obtain ⟨negative, exponent, fraction⟩ := x
  obtain ⟨negative', exponent', fraction'⟩ := y
  have hsign : negative = negative' := by
    cases negative <;> cases negative' <;> simp at hsigned hunits ⊢ <;> omega
  subst hsign
  have hscaled : (⟨negative, exponent, fraction⟩ : Binary64).scaled =
      (⟨negative, exponent', fraction'⟩ : Binary64).scaled := by
    cases negative <;> simp at hsigned <;> omega
  obtain ⟨rfl, rfl⟩ := eq_of_scaled hscaled
  rfl

end

/-! ### Values -/

/-- What is a given whole number, other than zero: the integer, the double-precision number, and for
one also yes. -/
lemma equalsInt_iff {v : Value} {n : Int} {x : Binary64} (hn : n ≠ 0) (hx : x.equalsInt n = true) :
    v.equalsInt n = true ↔ v = .int n ∨ v = .float x ∨ (v = .bool true ∧ n = 1) := by
  cases v with
  | bool b =>
    cases b with
    | false => simp [Value.equalsInt, hn.symm]
    | true => simp [Value.equalsInt, @eq_comm _ n]
  | int m => simp [Value.equalsInt]
  | float y =>
    simp only [Value.equalsInt, reduceCtorEq, false_and, false_or, or_false, Value.float.injEq]
    constructor
    · intro hy
      exact eq_of_equalsInt hn hy hx
    · rintro rfl
      exact hx
  | _ => simp [Value.equalsInt]

/-- The double-precision number one. -/
def floatOne : Binary64 := ⟨false, ⟨1023, by decide⟩, ⟨0, by decide⟩⟩

lemma equalsInt_one_iff {v : Value} :
    v.equalsInt 1 = true ↔ v = .int 1 ∨ v = .bool true ∨ v = .float floatOne := by
  have hone : floatOne.equalsInt 1 = true := by decide +kernel
  rw [equalsInt_iff (by decide) hone, and_iff_left rfl, or_comm (a := v = .float floatOne)]

end EnvelopeStore.Proofs
