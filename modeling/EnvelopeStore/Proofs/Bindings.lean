import EnvelopeStore.Bindings
import Mathlib.Tactic.Lemma

/-!
# Bindings under texts

The keys of bindings under texts, in the order in which they came first.
-/

namespace EnvelopeStore.Proofs

/-- Texts in the order in which they came first, after one of them came. -/
def enroll (ts : List Text) (t : Text) : List Text := if t ∈ ts then ts else ts ++ [t]

section

variable {ts : List Text} {s t : Text}

lemma mem_enroll : t ∈ enroll ts t := by
  rw [enroll]
  split <;> simp [*]

lemma mem_enroll_of_mem (h : s ∈ ts) : s ∈ enroll ts t := by
  rw [enroll]
  split <;> simp [*]

lemma mem_or_eq_of_mem_enroll (h : s ∈ enroll ts t) : s ∈ ts ∨ s = t := by
  rw [enroll] at h
  split at h
  · exact .inl h
  · simpa using h

lemma nodup_enroll (h : ts.Nodup) : (enroll ts t).Nodup := by
  rw [enroll]
  split
  · exact h
  · next ht =>
    rw [List.nodup_append]
    refine ⟨h, by simp, ?_⟩
    intro a ha b hb heq
    rw [List.mem_singleton.mp hb] at heq
    exact ht (heq ▸ ha)

lemma enroll_cons_self : enroll (t :: ts) t = t :: ts := by simp [enroll]

lemma enroll_cons_of_ne (h : s ≠ t) : enroll (s :: ts) t = s :: enroll ts t := by
  by_cases ht : t ∈ ts
  · simp [enroll, ht]
  · simp [enroll, ht, h.symm]

end

/-- Bindings under texts, each once. -/
structure TextKeyed {α : Type} (m : Bindings α) (ts : List Text) : Prop where
  keys : m.keys = ts.map .text
  nodup : ts.Nodup

section

variable {α : Type} {m : Bindings α} {ts : List Text} {t : Text}

lemma keys_cons_eq {head : Value × α} (h : Bindings.keys (head :: m) = ts.map .text) :
    ∃ s rest, ts = s :: rest ∧ head.1 = .text s ∧ Bindings.keys m = rest.map .text := by
  cases ts with
  | nil => simp [Bindings.keys] at h
  | cons s rest =>
    simp only [Bindings.keys, List.map_cons, List.cons.injEq] at h
    exact ⟨s, rest, rfl, h.1, h.2⟩

lemma get?_isSome_iff (h : m.keys = ts.map .text) : (m.get? (.text t)).isSome = true ↔ t ∈ ts := by
  induction m generalizing ts with
  | nil =>
    obtain rfl : ts = [] := by simpa [Bindings.keys] using h.symm
    simp [Bindings.get?]
  | cons head m ih =>
    obtain ⟨k, a⟩ := head
    obtain ⟨s, rest, rfl, rfl, hrest⟩ := keys_cons_eq h
    by_cases hs : s = t
    · simp [Bindings.get?, hs]
    · simp [Bindings.get?, hs, ih hrest, Ne.symm hs]

lemma filterMap_text?_keys (h : m.keys = ts.map .text) : m.keys.filterMap Value.text? = ts := by
  rw [h, List.filterMap_map]
  exact List.filterMap_some

lemma keys_insert (h : m.keys = ts.map .text) (a : α) :
    (m.insert (.text t) a).keys = (enroll ts t).map .text := by
  induction m generalizing ts with
  | nil =>
    obtain rfl : ts = [] := by simpa [Bindings.keys] using h.symm
    rfl
  | cons head m ih =>
    obtain ⟨k, b⟩ := head
    obtain ⟨s, rest, rfl, rfl, hrest⟩ := keys_cons_eq h
    by_cases hs : s = t
    · subst hs
      simpa [Bindings.insert, Bindings.keys, enroll_cons_self] using hrest
    · have htail := ih hrest
      simp only [Bindings.keys] at htail
      simp [Bindings.insert, Bindings.keys, hs, enroll_cons_of_ne hs, htail]

lemma keys_erase (h : m.keys = ts.map .text) :
    (m.erase (.text t)).keys = (ts.filter (· ≠ t)).map .text := by
  induction m generalizing ts with
  | nil =>
    obtain rfl : ts = [] := by simpa [Bindings.keys] using h.symm
    rfl
  | cons head m ih =>
    obtain ⟨k, b⟩ := head
    obtain ⟨s, rest, rfl, rfl, hrest⟩ := keys_cons_eq h
    have htail := ih hrest
    by_cases hs : s = t
    · subst hs
      simpa [Bindings.erase] using htail
    · simp only [Bindings.keys] at htail
      simpa [Bindings.erase, Bindings.keys, hs] using htail

lemma textKeyed_insert (h : TextKeyed m ts) (a : α) :
    TextKeyed (m.insert (.text t) a) (enroll ts t) :=
  ⟨keys_insert h.keys a, nodup_enroll h.nodup⟩

lemma textKeyed_erase (h : TextKeyed m ts) :
    TextKeyed (m.erase (.text t)) (ts.filter (· ≠ t)) :=
  ⟨keys_erase h.keys, h.nodup.filter _⟩

lemma insert_of_get?_eq_none (h : m.get? (.text t) = none) (a : α) :
    m.insert (.text t) a = m ++ [(.text t, a)] := by
  induction m with
  | nil => rfl
  | cons head rest ih =>
    obtain ⟨k, b⟩ := head
    simp only [Bindings.get?] at h
    split at h
    · simp at h
    · next hk =>
      simp only [Bindings.insert, hk, ih h, List.cons_append, if_false, Bool.false_eq_true]

lemma erase_of_get?_eq_none (h : m.get? (.text t) = none) : m.erase (.text t) = m := by
  induction m with
  | nil => rfl
  | cons head rest ih =>
    obtain ⟨k, b⟩ := head
    simp only [Bindings.get?] at h
    split at h
    · simp at h
    · next hk => simp only [Bindings.erase, hk, ih h, if_false, Bool.false_eq_true]

end

end EnvelopeStore.Proofs
