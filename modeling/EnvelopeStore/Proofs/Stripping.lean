import EnvelopeStore.Text.Basic
import Mathlib.Data.List.DropRight

/-!
# The ends of texts

What is left of a text when the characters of a kind are taken off both ends: the part between two
runs of them that has none at its own ends.
-/

namespace EnvelopeStore.Proofs
open Text

/-- Neither the first nor the last character is of the kind. -/
structure Bare (p : CodePoint → Bool) (t : Text) : Prop where
  first : ∀ c ∈ t.head?, p c = false
  last : ∀ c ∈ t.getLast?, p c = false

section

variable {p : CodePoint → Bool} {s t before after : Text}

lemma bare_of_forall (h : ∀ c ∈ t, p c = false) : Bare p t :=
  ⟨fun c hc => h c (List.mem_of_mem_head? hc), fun c hc => h c (List.mem_of_mem_getLast? hc)⟩

lemma strip_eq (p : CodePoint → Bool) (t : Text) : t.strip p = (t.dropWhile p).rdropWhile p := rfl

lemma dropWhile_of_first (h : ∀ c ∈ t.head?, p c = false) : t.dropWhile p = t := by
  cases t with
  | nil => rfl
  | cons c rest => exact List.dropWhile_cons_of_neg (by simp [h c rfl])

lemma rdropWhile_append (hafter : ∀ c ∈ after, p c = true)
    (h : ∀ c ∈ s.getLast?, p c = false) : (s ++ after).rdropWhile p = s := by
  have hlast : s.reverse.dropWhile p = s.reverse :=
    dropWhile_of_first (by rwa [List.head?_reverse])
  have hrun : ∀ c ∈ after.reverse, p c = true := fun c hc => hafter c (List.mem_reverse.mp hc)
  rw [List.rdropWhile, List.reverse_append, List.dropWhile_append_of_pos hrun, hlast,
    List.reverse_reverse]

/-- The runs at the ends are taken off, and nothing else. -/
lemma strip_surrounded (hbefore : ∀ c ∈ before, p c = true) (hafter : ∀ c ∈ after, p c = true)
    (hs : Bare p s) : (before ++ s ++ after).strip p = s := by
  rw [strip_eq, List.append_assoc, List.dropWhile_append_of_pos hbefore]
  cases s with
  | nil =>
    have hnone : after.dropWhile p = [] := List.dropWhile_eq_nil_iff.mpr hafter
    rw [List.nil_append, hnone, List.rdropWhile_nil]
  | cons c rest =>
    have hfirst : (c :: rest ++ after).dropWhile p = c :: rest ++ after :=
      dropWhile_of_first hs.first
    rw [hfirst, rdropWhile_append hafter hs.last]

lemma strip_of_bare (h : Bare p t) : t.strip p = t := by
  have hnothing : ∀ c ∈ ([] : Text), p c = true := nofun
  simpa using strip_surrounded hnothing hnothing h

lemma bare_strip (p : CodePoint → Bool) (t : Text) : Bare p (t.strip p) := by
  refine ⟨?_, ?_⟩
  · intro c hc
    have hprefix : t.strip p <+: t.dropWhile p := List.rdropWhile_prefix p _
    obtain ⟨rest, hrest⟩ := hprefix
    have hfirst : (t.dropWhile p).head? = some c := by
      rw [← hrest, List.head?_append, hc, Option.some_or]
    have hnot := List.head?_dropWhile_not p t
    rwa [hfirst] at hnot
  · intro c hc
    obtain ⟨hne, rfl⟩ := List.mem_getLast?_eq_getLast hc
    exact Bool.eq_false_iff.mpr (List.rdropWhile_last_not p (t.dropWhile p) hne)

lemma exists_surrounded (p : CodePoint → Bool) (t : Text) : ∃ before after,
    (∀ c ∈ before, p c = true) ∧ (∀ c ∈ after, p c = true) ∧
      t = before ++ t.strip p ++ after := by
  refine ⟨t.takeWhile p, (t.dropWhile p).rtakeWhile p, fun c hc => ?_, fun c hc => ?_, ?_⟩
  · exact List.mem_takeWhile_imp hc
  · exact List.mem_rtakeWhile_imp hc
  · rw [strip_eq, List.append_assoc, List.rdropWhile_append_rtakeWhile,
      List.takeWhile_append_dropWhile]

end

end EnvelopeStore.Proofs
