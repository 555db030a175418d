import EnvelopeStore.Text.Basic
import Mathlib.Tactic.Lemma

/-!
# Pairs under names

A name leads to the first pair that has it as its first part. When no two pairs have the same name,
that is the only one, and it is still found after others are left out.
-/

namespace EnvelopeStore.Proofs

def withSecond {α β : Type} (f : α → Option β) (pair : Text × α) : Option (Text × β) :=
  (f pair.2).map (pair.1, ·)

section

variable {α β : Type} {pairs : List (Text × α)} {name : Text} {a : α}

lemma mem_of_lookup (h : pairs.lookup name = some a) : (name, a) ∈ pairs := by
  obtain ⟨before, after, rfl, -⟩ := List.lookup_eq_some_iff.mp h
  simp

lemma lookup_of_notMem (h : name ∉ pairs.map Prod.fst) : pairs.lookup name = none := by
  refine List.lookup_eq_none_iff.mpr ?_
  intro pair hpair
  refine bne_iff_ne.mpr ?_
  rintro rfl
  exact h (List.mem_map_of_mem hpair)

lemma lookup_of_mem (h : (pairs.map Prod.fst).Nodup) (hmem : (name, a) ∈ pairs) :
    pairs.lookup name = some a := by
  induction pairs with
  | nil => simp at hmem
  | cons pair rest ih =>
    obtain ⟨other, b⟩ := pair
    rw [List.map_cons, List.nodup_cons] at h
    obtain heq | hrest := List.mem_cons.mp hmem
    · obtain ⟨rfl, rfl⟩ := Prod.mk.inj heq
      exact List.lookup_cons_self
    · have hne : (name == other) = false := by
        refine beq_false_of_ne ?_
        rintro rfl
        exact h.1 (List.mem_map.mpr ⟨_, hrest, rfl⟩)
      rw [List.lookup_cons, hne]
      exact ih h.2 hrest

lemma lookup_filterMap (h : (pairs.map Prod.fst).Nodup) (f : α → Option β) (name : Text) :
    (pairs.filterMap (withSecond f)).lookup name = (pairs.lookup name).bind f := by
  induction pairs with
  | nil => rfl
  | cons pair rest ih =>
    obtain ⟨other, a⟩ := pair
    rw [List.map_cons, List.nodup_cons] at h
    have hrest := ih h.2
    by_cases heq : name = other
    · subst heq
      rw [lookup_of_notMem h.1, Option.bind_none] at hrest
      rw [List.filterMap_cons, List.lookup_cons_self, withSecond, Option.bind_some]
      cases f a with
      | none => exact hrest
      | some b => exact List.lookup_cons_self
    · have hne : (name == other) = false := beq_false_of_ne heq
      rw [List.filterMap_cons, List.lookup_cons, withSecond, hne]
      cases f a with
      | none => exact hrest
      | some b =>
        rw [Option.map_some, List.lookup_cons, hne]
        exact hrest

lemma sublist_filterMap (f : α → Option β) (pairs : List (Text × α)) :
    List.Sublist ((pairs.filterMap (withSecond f)).map Prod.fst) (pairs.map Prod.fst) := by
  induction pairs with
  | nil => exact List.Sublist.refl []
  | cons pair rest ih =>
    rw [List.filterMap_cons, withSecond]
    cases f pair.2 with
    | none => exact ih.cons pair.1
    | some b => exact ih.cons_cons pair.1

end

end EnvelopeStore.Proofs
