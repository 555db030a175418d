import EnvelopeStore.Table.Like
import Mathlib.Data.List.Infix
import Mathlib.Tactic.Lemma

/-!
# What patterns match

The meaning of the `LIKE` operator with its escape character. Escaping one kind of characters after
another comes to escaping every character by itself, and the pattern for a beginning matches the
texts that have it, whatever characters it is made of.
-/

namespace EnvelopeStore.Proofs
open Table.Like

def IsSpecial (c : CodePoint) : Prop := c = escapeMark ∨ c = anySequence ∨ c = anyCharacter

instance (c : CodePoint) : Decidable (IsSpecial c) :=
  inferInstanceAs (Decidable (c = escapeMark ∨ c = anySequence ∨ c = anyCharacter))

/-- How a character is written in a pattern to stand for itself. -/
def literal (c : CodePoint) : Text := if IsSpecial c then [escapeMark, c] else [c]

/-- A pattern matches a text. Nothing is matched by an escape character that escapes nothing. -/
inductive Matches : Text → Text → Prop
  | nil : Matches [] []
  | escaped (c : CodePoint) {p t : Text} (h : Matches p t) : Matches (escapeMark :: c :: p) (c :: t)
  | sequence (s : Text) {p t : Text} (h : Matches p t) : Matches (anySequence :: p) (s ++ t)
  | character (c : CodePoint) {p t : Text} (h : Matches p t) :
      Matches (anyCharacter :: p) (c :: t)
  | plain {c : CodePoint} {p t : Text} (hc : ¬IsSpecial c) (h : Matches p t) :
      Matches (c :: p) (c :: t)

/-- Every escape character in a pattern escapes one. -/
inductive WellFormed : Text → Prop
  | nil : WellFormed []
  | escaped (c : CodePoint) {p : Text} (h : WellFormed p) : WellFormed (escapeMark :: c :: p)
  | other {c : CodePoint} {p : Text} (hc : c ≠ escapeMark) (h : WellFormed p) : WellFormed (c :: p)

/-! ### The first character of a pattern -/

section

variable {c d : CodePoint} {p t : Text}

lemma matches_nil_iff : Matches [] t ↔ t = [] := by
  constructor
  · intro h
    cases h
    rfl
  · rintro rfl
    exact .nil

/-- What the first character of a pattern means. -/
lemma matches_cons_cases (h : Matches (c :: p) t) :
    (c = escapeMark ∧ ∃ d q rest, p = d :: q ∧ t = d :: rest ∧ Matches q rest) ∨
      (c = anySequence ∧ ∃ s rest, t = s ++ rest ∧ Matches p rest) ∨
      (c = anyCharacter ∧ ∃ d rest, t = d :: rest ∧ Matches p rest) ∨
      (¬IsSpecial c ∧ ∃ rest, t = c :: rest ∧ Matches p rest) := by
  cases h with
  | escaped d h => exact .inl ⟨rfl, d, _, _, rfl, rfl, h⟩
  | sequence s h => exact .inr (.inl ⟨rfl, s, _, rfl, h⟩)
  | character d h => exact .inr (.inr (.inl ⟨rfl, d, _, rfl, h⟩))
  | plain hc h => exact .inr (.inr (.inr ⟨hc, _, rfl, h⟩))

lemma matches_escaped_iff :
    Matches (escapeMark :: c :: p) t ↔ ∃ rest, t = c :: rest ∧ Matches p rest := by
  constructor
  · intro h
    obtain ⟨-, d, q, rest, hp, rfl, h⟩ | ⟨heq, -⟩ | ⟨heq, -⟩ | ⟨hplain, -⟩ := matches_cons_cases h
    · obtain ⟨rfl, rfl⟩ := List.cons.inj hp
      exact ⟨rest, rfl, h⟩
    · exact absurd heq (by decide)
    · exact absurd heq (by decide)
    · exact absurd (.inl rfl) hplain
  · rintro ⟨rest, rfl, h⟩
    exact .escaped c h

lemma not_matches_dangling : ¬Matches [escapeMark] t := by
  intro h
  obtain ⟨-, d, q, rest, hp, -⟩ | ⟨heq, -⟩ | ⟨heq, -⟩ | ⟨hplain, -⟩ := matches_cons_cases h
  · simp at hp
  · exact absurd heq (by decide)
  · exact absurd heq (by decide)
  · exact absurd (.inl rfl) hplain

lemma matches_sequence_iff :
    Matches (anySequence :: p) t ↔ ∃ s rest, t = s ++ rest ∧ Matches p rest := by
  constructor
  · intro h
    obtain ⟨heq, -⟩ | ⟨-, h⟩ | ⟨heq, -⟩ | ⟨hplain, -⟩ := matches_cons_cases h
    · exact absurd heq (by decide)
    · exact h
    · exact absurd heq (by decide)
    · exact absurd (.inr (.inl rfl)) hplain
  · rintro ⟨s, rest, rfl, h⟩
    exact .sequence s h

lemma matches_character_iff :
    Matches (anyCharacter :: p) t ↔ ∃ c rest, t = c :: rest ∧ Matches p rest := by
  constructor
  · intro h
    obtain ⟨heq, -⟩ | ⟨heq, -⟩ | ⟨-, h⟩ | ⟨hplain, -⟩ := matches_cons_cases h
    · exact absurd heq (by decide)
    · exact absurd heq (by decide)
    · exact h
    · exact absurd (.inr (.inr rfl)) hplain
  · rintro ⟨c, rest, rfl, h⟩
    exact .character c h

lemma matches_plain_iff (hc : ¬IsSpecial c) :
    Matches (c :: p) t ↔ ∃ rest, t = c :: rest ∧ Matches p rest := by
  constructor
  · intro h
    obtain ⟨heq, -⟩ | ⟨heq, -⟩ | ⟨heq, -⟩ | ⟨-, h⟩ := matches_cons_cases h
    · exact absurd (.inl heq) hc
    · exact absurd (.inr (.inl heq)) hc
    · exact absurd (.inr (.inr heq)) hc
    · exact h
  · rintro ⟨rest, rfl, h⟩
    exact .plain hc h

/-! ### Escaping -/

lemma literal_special (hc : IsSpecial c) : literal c = [escapeMark, c] := if_pos hc

lemma literal_plain (hc : ¬IsSpecial c) : literal c = [c] := if_neg hc

lemma escapeEach_cons_self : escapeEach c (c :: t) = escapeMark :: c :: escapeEach c t := by
  simp [escapeEach, Text.replaceAll]

lemma escapeEach_cons_of_ne (h : d ≠ c) : escapeEach c (d :: t) = d :: escapeEach c t := by
  simp [escapeEach, Text.replaceAll, h]

@[simp] lemma escape_nil : escape [] = [] := rfl

lemma escape_cons : escape (c :: t) = literal c ++ escape t := by
  have hmark_sequence : escapeMark ≠ anySequence := by decide
  have hmark_character : escapeMark ≠ anyCharacter := by decide
  have hsequence_character : anySequence ≠ anyCharacter := by decide
  by_cases hmark : c = escapeMark
  · subst hmark
    rw [escape, escapeEach_cons_self, escapeEach_cons_of_ne hmark_sequence,
      escapeEach_cons_of_ne hmark_sequence, escapeEach_cons_of_ne hmark_character,
      escapeEach_cons_of_ne hmark_character, literal_special (.inl rfl)]
    rfl
  by_cases hsequence : c = anySequence
  · subst hsequence
    rw [escape, escapeEach_cons_of_ne hmark_sequence.symm, escapeEach_cons_self,
      escapeEach_cons_of_ne hmark_character, escapeEach_cons_of_ne hsequence_character,
      literal_special (.inr (.inl rfl))]
    rfl
  by_cases hcharacter : c = anyCharacter
  · subst hcharacter
    rw [escape, escapeEach_cons_of_ne hmark_character.symm,
      escapeEach_cons_of_ne hsequence_character.symm, escapeEach_cons_self,
      literal_special (.inr (.inr rfl))]
    rfl
  · have hplain : ¬IsSpecial c := by simp [IsSpecial, hmark, hsequence, hcharacter]
    rw [escape, escapeEach_cons_of_ne hmark, escapeEach_cons_of_ne hsequence,
      escapeEach_cons_of_ne hcharacter, literal_plain hplain]
    rfl

lemma escape_eq_flatMap (t : Text) : escape t = t.flatMap literal := by
  induction t with
  | nil => rfl
  | cons c t ih => rw [escape_cons, ih, List.flatMap_cons]

lemma matches_literal_append :
    Matches (literal c ++ p) t ↔ ∃ rest, t = c :: rest ∧ Matches p rest := by
  by_cases hc : IsSpecial c
  · rw [literal_special hc]
    exact matches_escaped_iff
  · rw [literal_plain hc]
    exact matches_plain_iff hc

lemma matches_escape_append {s : Text} :
    Matches (escape s ++ p) t ↔ ∃ rest, t = s ++ rest ∧ Matches p rest := by
  induction s generalizing t with
  | nil => simp
  | cons c s ih =>
    rw [escape_cons, List.append_assoc, matches_literal_append]
    constructor
    · rintro ⟨rest, rfl, h⟩
      obtain ⟨rest', rfl, h'⟩ := ih.mp h
      exact ⟨rest', rfl, h'⟩
    · rintro ⟨rest, rfl, h⟩
      exact ⟨s ++ rest, rfl, ih.mpr ⟨rest, rfl, h⟩⟩

lemma matches_escape_iff {s : Text} : Matches (escape s) t ↔ t = s := by
  rw [← List.append_nil (escape s), matches_escape_append]
  constructor
  · rintro ⟨rest, rfl, h⟩
    rw [matches_nil_iff.mp h, List.append_nil]
  · rintro rfl
    exact ⟨[], (List.append_nil t).symm, .nil⟩

lemma escape_injective : Function.Injective escape := by
  -- An escaped text tells what it was made from: it matches that text and no other.
  intro s t heq
  have hself : Matches (escape s) s := matches_escape_iff.mpr rfl
  rw [heq] at hself
  exact matches_escape_iff.mp hself

lemma wellFormed_escape_append {s : Text} (h : WellFormed p) : WellFormed (escape s ++ p) := by
  induction s with
  | nil => exact h
  | cons c s ih =>
    rw [escape_cons, List.append_assoc]
    by_cases hc : IsSpecial c
    · rw [literal_special hc]
      exact .escaped c ih
    · rw [literal_plain hc]
      exact .other (fun heq => hc (.inl heq)) ih

lemma wellFormed_escape (s : Text) : WellFormed (escape s) := by
  rw [← List.append_nil (escape s)]
  exact wellFormed_escape_append .nil

lemma mem_escape {s : Text} (h : c ∈ escape s) : c ∈ s ∨ c = escapeMark := by
  rw [escape_eq_flatMap] at h
  obtain ⟨d, hd, hc⟩ := List.mem_flatMap.mp h
  by_cases hspecial : IsSpecial d
  · rw [literal_special hspecial, List.mem_cons, List.mem_singleton] at hc
    obtain rfl | rfl := hc
    · exact .inr rfl
    · exact .inl hd
  · rw [literal_plain hspecial, List.mem_singleton] at hc
    exact .inl (hc ▸ hd)

/-! ### Beginnings -/

/-- The pattern for a beginning matches what starts with it, and nothing else. -/
theorem matches_startingWith_iff {start : Text} : Matches (startingWith start) t ↔ start <+: t := by
  rw [startingWith, matches_escape_append]
  constructor
  · rintro ⟨rest, rfl, -⟩
    exact List.prefix_append start rest
  · rintro ⟨rest, rfl⟩
    refine ⟨rest, rfl, matches_sequence_iff.mpr ⟨rest, [], ?_, .nil⟩⟩
    rw [List.append_nil]

theorem wellFormed_startingWith (start : Text) : WellFormed (startingWith start) :=
  wellFormed_escape_append (.other (by decide) .nil)

lemma mem_startingWith {start : Text} (h : c ∈ startingWith start) :
    c ∈ start ∨ c = escapeMark ∨ c = anySequence := by
  obtain h | h := List.mem_append.mp h
  · exact (mem_escape h).imp_right .inl
  · exact .inr (.inr (List.mem_singleton.mp h))

end

/-! ### Matching decided -/

/-- Whether a pattern matches a text. -/
def like : Text → Text → Bool
  | [], t => t.isEmpty
  | c :: p, t =>
    if c = anySequence then t.tails.any (like p)
    else if c = escapeMark then
      match p, t with
      | d :: p, e :: t => d == e && like p t
      | _, _ => false
    else
      match t with
      | e :: t => (c == anyCharacter || c == e) && like p t
      | [] => false

section

variable {c d : CodePoint} {p t : Text}

lemma like_sequence : like (anySequence :: p) t = t.tails.any (like p) := by
  rw [like.eq_def]
  exact if_pos rfl

lemma like_escaped : like (escapeMark :: c :: p) (d :: t) = (c == d && like p t) := by
  rw [like.eq_def]
  rfl

lemma like_dangling : like [escapeMark] t = false := by
  rw [like.eq_def]
  rfl

lemma like_other (hsequence : c ≠ anySequence) (hescape : c ≠ escapeMark) :
    like (c :: p) (d :: t) = ((c == anyCharacter || c == d) && like p t) := by
  rw [like.eq_def]
  exact (if_neg hsequence).trans (if_neg hescape)

lemma like_nil (hsequence : c ≠ anySequence) : like (c :: p) [] = false := by
  rw [like.eq_def]
  simp only [if_neg hsequence]
  split
  · cases p <;> rfl
  · rfl

lemma any_tails_iff {q : Text → Bool} :
    t.tails.any q = true ↔ ∃ s rest, t = s ++ rest ∧ q rest = true := by
  rw [List.any_eq_true]
  constructor
  · rintro ⟨rest, hmem, hq⟩
    obtain ⟨s, rfl⟩ := (List.mem_tails _ _).mp hmem
    exact ⟨s, rest, rfl, hq⟩
  · rintro ⟨s, rest, rfl, hq⟩
    exact ⟨rest, (List.mem_tails _ _).mpr (List.suffix_append s rest), hq⟩

lemma like_escaped_iff (ih : ∀ t, like p t = true ↔ Matches p t) :
    like (escapeMark :: c :: p) t = true ↔ Matches (escapeMark :: c :: p) t := by
  have hsequence : escapeMark ≠ anySequence := by decide
  rw [matches_escaped_iff]
  cases t with
  | nil => simp [like_nil hsequence]
  | cons d t => simp [like_escaped, ih, @eq_comm _ c d]

lemma like_other_iff (hsequence : c ≠ anySequence) (hescape : c ≠ escapeMark)
    (ih : ∀ t, like p t = true ↔ Matches p t) :
    like (c :: p) t = true ↔ Matches (c :: p) t := by
  by_cases hcharacter : c = anyCharacter
  · subst hcharacter
    rw [matches_character_iff]
    cases t with
    | nil => simp [like_nil hsequence]
    | cons d t => simp [like_other hsequence hescape, ih]
  · have hplain : ¬IsSpecial c := by simp [IsSpecial, hsequence, hescape, hcharacter]
    rw [matches_plain_iff hplain]
    cases t with
    | nil => simp [like_nil hsequence]
    | cons d t => simp [like_other hsequence hescape, ih, hcharacter, @eq_comm _ c d]

end

/-- Matching is decided. -/
theorem like_iff (p t : Text) : like p t = true ↔ Matches p t := by
  -- On the pattern; an escape character is taken together with what it escapes.
  match p with
  | [] => simp [like, matches_nil_iff]
  | c :: p =>
    by_cases hsequence : c = anySequence
    · subst hsequence
      simp only [like_sequence, any_tails_iff, matches_sequence_iff, like_iff p]
    · by_cases hescape : c = escapeMark
      · subst hescape
        cases p with
        | nil => exact iff_of_false (by simp [like_dangling]) not_matches_dangling
        | cons d p => exact like_escaped_iff (like_iff p)
      · exact like_other_iff hsequence hescape (like_iff p)

instance (p t : Text) : Decidable (Matches p t) := decidable_of_iff _ (like_iff p t)

/-! ### Exactness -/

/-- Escaping is exact. A text is escaped character by character, and none of its escape characters
is left to escape the wildcard at the end. The pattern for a beginning is well formed, and matches
what starts with that very beginning and nothing else. Different texts are escaped differently. -/
theorem escaped_beginnings_stand_for_themselves :
    (∀ start : Text,
      escape start = start.flatMap literal ∧
        WellFormed (escape start) ∧ WellFormed (startingWith start) ∧
        ∀ t : Text, Matches (startingWith start) t ↔ start <+: t) ∧
      Function.Injective escape := by
  refine ⟨?_, escape_injective⟩
  intro start
  refine ⟨escape_eq_flatMap start, wellFormed_escape start, wellFormed_startingWith start, ?_⟩
  intro t
  exact matches_startingWith_iff

/-- A percent sign and an underscore in a beginning stand for themselves. -/
example : ¬Matches (startingWith "a_%") "ab%c" ∧ Matches (startingWith "a_%") "a_%c" := by decide

end EnvelopeStore.Proofs
