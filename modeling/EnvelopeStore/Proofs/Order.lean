import EnvelopeStore.Text.Basic
import Mathlib.Data.List.Nodup
import Mathlib.Data.List.Perm.Basic
import Mathlib.Tactic.Lemma

/-!
# The order of texts

Texts are ordered by their first different code point, a beginning before its continuations.
-/

namespace EnvelopeStore.Proofs
open Text

def Before (s t : Text) : Prop := le s t = true ∧ s ≠ t

lemma codePoint_ext {a b : CodePoint} (h : a.val = b.val) : a = b := by
  cases a
  cases b
  simp_all

lemma le_cons {a b : CodePoint} {s t : Text} :
    le (a :: s) (b :: t) = true ↔ a.val < b.val ∨ (a = b ∧ le s t = true) := by
  simp only [le, Bool.or_eq_true, Bool.and_eq_true, decide_eq_true_eq, beq_iff_eq]
  constructor
  · rintro (h | ⟨h, hle⟩)
    · exact .inl h
    · exact .inr ⟨codePoint_ext h, hle⟩
  · rintro (h | ⟨rfl, hle⟩)
    · exact .inl h
    · exact .inr ⟨rfl, hle⟩

lemma le_antisymm_text {s t : Text} (hst : le s t = true) (hts : le t s = true) : s = t := by
  induction s generalizing t with
  | nil =>
    cases t with
    | nil => rfl
    | cons b t => simp [le] at hts
  | cons a s ih =>
    cases t with
    | nil => simp [le] at hst
    | cons b t =>
      rw [le_cons] at hst hts
      obtain hlt | ⟨rfl, hst⟩ := hst
      · obtain hgt | ⟨rfl, -⟩ := hts <;> omega
      · obtain hgt | ⟨-, hts⟩ := hts
        · omega
        · rw [ih hst hts]

lemma le_trans_text {s t u : Text} (hst : le s t = true) (htu : le t u = true) :
    le s u = true := by
  induction s generalizing t u with
  | nil => rfl
  | cons a s ih =>
    cases t with
    | nil => simp [le] at hst
    | cons b t =>
      cases u with
      | nil => simp [le] at htu
      | cons c u =>
        rw [le_cons] at hst htu ⊢
        obtain hab | ⟨rfl, hst⟩ := hst
        · obtain hbc | ⟨rfl, -⟩ := htu
          · exact .inl (by omega)
          · exact .inl hab
        · obtain hbc | ⟨rfl, htu⟩ := htu
          · exact .inl hbc
          · exact .inr ⟨rfl, ih hst htu⟩

lemma le_total_text (s t : Text) : (le s t || le t s) = true := by
  induction s generalizing t with
  | nil => rfl
  | cons a s ih =>
    cases t with
    | nil => rfl
    | cons b t =>
      rw [Bool.or_eq_true, le_cons, le_cons]
      obtain h | h | h := Nat.lt_trichotomy a.val b.val
      · exact .inl (.inl h)
      · obtain hst | hts := Bool.or_eq_true _ _ ▸ ih t
        · exact .inl (.inr ⟨codePoint_ext h, hst⟩)
        · exact .inr (.inr ⟨codePoint_ext h.symm, hts⟩)
      · exact .inr (.inl h)

lemma le_append_left (start s t : Text) : le (start ++ s) (start ++ t) = le s t := by
  induction start with
  | nil => rfl
  | cons a start ih => simp [le, ih]

lemma before_append_left {start s t : Text} : Before (start ++ s) (start ++ t) ↔ Before s t := by
  rw [Before, Before, le_append_left, ne_eq, List.append_cancel_left_eq]

lemma before_iff_lt {s t : Text} : Before s t ↔ s.map CodePoint.val < t.map CodePoint.val := by
  induction s generalizing t with
  | nil =>
    cases t with
    | nil => simp [Before]
    | cons b t => simp [Before, le]
  | cons a s ih =>
    cases t with
    | nil => simp [Before, le]
    | cons b t =>
      rw [List.map_cons, List.map_cons, List.cons_lt_cons_iff, ← ih, Before, le_cons]
      constructor
      · rintro ⟨hlt | ⟨rfl, hle⟩, hne⟩
        · exact .inl hlt
        · exact .inr ⟨rfl, hle, fun heq => hne (heq ▸ rfl)⟩
      · rintro (hlt | ⟨hval, hle, hne⟩)
        · refine ⟨.inl hlt, fun heq => Nat.ne_of_lt hlt ?_⟩
          exact congrArg CodePoint.val (List.cons.inj heq).1
        · exact ⟨.inr ⟨codePoint_ext hval, hle⟩, fun heq => hne (List.cons.inj heq).2⟩

/-- Sorting texts that are all different puts each strictly before the next ones. -/
theorem sort_pairwise_before {ts : List Text} (h : ts.Nodup) : (sort ts).Pairwise Before := by
  have hsorted : (sort ts).Pairwise fun s t => le s t = true := by
    apply List.pairwise_mergeSort
    · intro s t u
      exact le_trans_text
    · exact le_total_text
  have hnodup : (sort ts).Nodup := (List.mergeSort_perm ts le).nodup_iff.mpr h
  exact hsorted.and hnodup

theorem eq_of_pairwise_before {ss ts : List Text} (hs : ss.Pairwise Before)
    (ht : ts.Pairwise Before) (h : ∀ t, t ∈ ss ↔ t ∈ ts) : ss = ts := by
  have hperm : ss.Perm ts := by
    rw [List.perm_ext_iff_of_nodup]
    · exact h
    · exact hs.imp fun hst => hst.2
    · exact ht.imp fun hst => hst.2
  refine List.Perm.eq_of_pairwise ?_ hs ht hperm
  intro s t _ _ hst hts
  exact le_antisymm_text hst.1 hts.1

/-! ### Listings of a part -/

def ownOf (base start : Text) (ts : List Text) : List Text :=
  (sort (ts.filter (·.startsWith (base ++ start)))).map (·.drop base.length)

lemma startsWith_iff {t start : Text} : t.startsWith start = true ↔ start <+: t := by
  rw [Text.startsWith, List.isPrefixOf_iff_prefix]

lemma mem_sort_filter {start t : Text} {ts : List Text} :
    t ∈ sort (ts.filter (·.startsWith start)) ↔ t ∈ ts ∧ start <+: t := by
  rw [sort, List.mem_mergeSort, List.mem_filter, startsWith_iff]

lemma append_drop_of_startsWith {base start t : Text} (h : base ++ start <+: t) :
    base ++ t.drop base.length = t := by
  have hbase : base <+: t := (List.prefix_append base start).trans h
  obtain ⟨rest, rfl⟩ := hbase
  rw [List.drop_left]

lemma mem_map_drop {base t : Text} {ts : List Text} (h : ∀ full ∈ ts, base <+: full) :
    t ∈ ts.map (·.drop base.length) ↔ base ++ t ∈ ts := by
  rw [List.mem_map]
  constructor
  · rintro ⟨full, hfull, rfl⟩
    obtain ⟨rest, rfl⟩ := h full hfull
    rwa [List.drop_left]
  · intro hmem
    exact ⟨base ++ t, hmem, List.drop_left⟩

lemma nodup_map_drop {base : Text} {ts : List Text} (h : ∀ full ∈ ts, base <+: full)
    (hts : ts.Nodup) : (ts.map (·.drop base.length)).Nodup := by
  refine List.Nodup.map_on ?_ hts
  intro s hs t ht heq
  obtain ⟨rest, rfl⟩ := h s hs
  obtain ⟨rest', rfl⟩ := h t ht
  rw [List.drop_left, List.drop_left] at heq
  rw [heq]

theorem mem_ownOf {base start t : Text} {ts : List Text} :
    t ∈ ownOf base start ts ↔ start <+: t ∧ base ++ t ∈ ts := by
  have hbase : ∀ full ∈ sort (ts.filter (·.startsWith (base ++ start))), base <+: full :=
    fun full hfull => (List.prefix_append base start).trans (mem_sort_filter.mp hfull).2
  rw [ownOf, mem_map_drop hbase, mem_sort_filter, List.prefix_append_right_inj, and_comm]

theorem ownOf_pairwise_before {ts : List Text} (h : ts.Nodup) (base start : Text) :
    (ownOf base start ts).Pairwise Before := by
  rw [ownOf, List.pairwise_map]
  have hsorted := sort_pairwise_before (h.filter (·.startsWith (base ++ start)))
  apply hsorted.imp_of_mem
  intro s t hs ht hst
  have hs' := append_drop_of_startsWith (mem_sort_filter.mp hs).2
  have ht' := append_drop_of_startsWith (mem_sort_filter.mp ht).2
  rw [← hs', ← ht'] at hst
  exact before_append_left.mp hst

end EnvelopeStore.Proofs
